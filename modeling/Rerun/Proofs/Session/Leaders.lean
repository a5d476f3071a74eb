import Mathlib.Data.List.Induction
import Rerun.Outcome

/-! Completions that lead: those that come after none of a greater identifier.  They are
what is left of a sequence of completions when every late one is dropped. -/

namespace Rerun

abbrev Completion := CycleId × Outcome

/-- Whether a cycle comes after one of a greater identifier. -/
def Completion.isLate (earlier : List Completion) (id : CycleId) : Bool :=
  earlier.any (id < ·.1)

def leadersAfter : List Completion → List Completion → List Completion
  | _, [] => []
  | earlier, entry :: rest =>
      if Completion.isLate earlier entry.1 then leadersAfter (earlier ++ [entry]) rest
      else entry :: leadersAfter (earlier ++ [entry]) rest

/-- The completions that do not come after one of a greater identifier, in order. -/
def leaders (entries : List Completion) : List Completion := leadersAfter [] entries

@[simp] theorem leaders_nil : leaders [] = [] := rfl

private theorem leadersAfter_concat (earlier entries : List Completion) (entry : Completion) :
    leadersAfter earlier (entries ++ [entry]) =
      leadersAfter earlier entries ++
        if Completion.isLate (earlier ++ entries) entry.1 then [] else [entry] := by
  induction entries generalizing earlier with
  | nil => simp [leadersAfter]
  | cons head tail ih =>
      simp only [List.cons_append, leadersAfter]
      rw [ih]
      split <;> simp

theorem leaders_concat (entries : List Completion) (entry : Completion) :
    leaders (entries ++ [entry]) =
      leaders entries ++ if Completion.isLate entries entry.1 then [] else [entry] := by
  simpa [leaders] using leadersAfter_concat [] entries entry

theorem leaders_subset (entries : List Completion) : leaders entries ⊆ entries := by
  induction entries using List.reverseRecOn with
  | nil => exact List.Subset.refl []
  | append_singleton entries entry ih =>
      rw [leaders_concat]
      apply List.append_subset.mpr
      constructor
      · exact List.Subset.trans ih (List.subset_append_left _ _)
      · split
        · exact List.nil_subset _
        · exact List.subset_append_right _ _

theorem leaders_eq_nil_iff (entries : List Completion) :
    leaders entries = [] ↔ entries = [] := by
  induction entries using List.reverseRecOn with
  | nil => simp
  | append_singleton entries entry ih =>
      rw [leaders_concat]
      cases late : Completion.isLate entries entry.1 with
      | false => simp
      | true =>
          have inhabited : entries ≠ [] := by
            rintro rfl
            simp [Completion.isLate] at late
          simp [ih, inhabited]

theorem Completion.le_of_not_isLate {entries : List Completion} {id : CycleId}
    (timely : Completion.isLate entries id = false) {entry : Completion}
    (member : entry ∈ entries) : entry.1 ≤ id := by
  have bound := List.any_eq_false.mp timely entry member
  simpa using bound

theorem Completion.lt_of_not_isLate {entries : List Completion} {last : Completion}
    (distinct : ((entries ++ [last]).map Prod.fst).Nodup)
    (timely : Completion.isLate entries last.1 = false) {entry : Completion}
    (member : entry ∈ entries) : entry.1 < last.1 := by
  have different : entry.1 ≠ last.1 := by
    rw [List.map_append, List.nodup_append] at distinct
    exact distinct.2.2 _ (List.mem_map_of_mem member) _ (by simp)
  exact Nat.lt_of_le_of_ne (le_of_not_isLate timely member) different

theorem leaders_increasing {entries : List Completion}
    (distinct : (entries.map Prod.fst).Nodup) :
    ((leaders entries).map Prod.fst).Pairwise (· < ·) := by
  induction entries using List.reverseRecOn with
  | nil => exact .nil
  | append_singleton entries last ih =>
      have earlier := ih (((List.sublist_append_left entries [last]).map _).nodup distinct)
      rw [leaders_concat]
      cases timely : Completion.isLate entries last.1 with
      | true => simpa using earlier
      | false =>
          rw [if_neg (by simp), List.map_append, List.pairwise_append]
          refine ⟨earlier, List.pairwise_singleton .., ?_⟩
          intro id member final isLast
          obtain ⟨entry, leads, rfl⟩ := List.mem_map.mp member
          obtain rfl : final = last.1 := by simpa using isLast
          exact Completion.lt_of_not_isLate distinct timely (leaders_subset entries leads)

theorem leaders_eq_self {entries : List Completion}
    (increasing : (entries.map Prod.fst).Pairwise (· < ·)) : leaders entries = entries := by
  induction entries using List.reverseRecOn with
  | nil => rfl
  | append_singleton entries last ih =>
      rw [List.map_append, List.pairwise_append] at increasing
      obtain ⟨earlier, -, ordered⟩ := increasing
      have timely : Completion.isLate entries last.1 = false := by
        apply List.any_eq_false.mpr
        intro entry member
        have below := ordered _ (List.mem_map_of_mem member) last.1 (by simp)
        simpa using Nat.le_of_lt below
      simp [leaders_concat, ih earlier, timely]

theorem leaders_eq_self_iff {entries : List Completion}
    (distinct : (entries.map Prod.fst).Nodup) :
    leaders entries = entries ↔ (entries.map Prod.fst).Pairwise (· < ·) := by
  constructor
  · intro same
    rw [← same]
    exact leaders_increasing distinct
  · exact leaders_eq_self

theorem leaders_sublist (entries : List Completion) : (leaders entries).Sublist entries := by
  induction entries using List.reverseRecOn with
  | nil => exact List.Sublist.refl []
  | append_singleton entries entry ih =>
      rw [leaders_concat]
      apply ih.append
      split
      · exact List.nil_sublist _
      · exact List.Sublist.refl _

structure Completion.IsNewest (entries : List Completion) (newest : Completion) : Prop where
  member : newest ∈ entries
  above : ∀ entry ∈ entries, entry ≠ newest → entry.1 < newest.1

theorem Completion.IsNewest.unique {entries : List Completion} {first second : Completion}
    (firstNewest : IsNewest entries first) (secondNewest : IsNewest entries second) :
    first = second := by
  by_contra different
  have below := secondNewest.above first firstNewest.member different
  have above := firstNewest.above second secondNewest.member (Ne.symm different)
  exact Nat.lt_asymm below above

theorem Completion.IsNewest.congr {entries others : List Completion} {newest : Completion}
    (isNewest : IsNewest entries newest) (same : ∀ entry, entry ∈ entries ↔ entry ∈ others) :
    IsNewest others newest :=
  ⟨(same newest).mp isNewest.member,
    fun entry member => isNewest.above entry ((same entry).mpr member)⟩

/-- The last leader is the newest completion of all. -/
theorem leaders_getLast?_newest {entries : List Completion}
    (distinct : (entries.map Prod.fst).Nodup) {newest : Completion}
    (final : (leaders entries).getLast? = some newest) :
    Completion.IsNewest entries newest := by
  induction entries using List.reverseRecOn generalizing newest with
  | nil => simp at final
  | append_singleton entries last ih =>
      rw [leaders_concat] at final
      cases timely : Completion.isLate entries last.1 with
      | false =>
          obtain rfl : last = newest := by simpa [timely] using final
          refine ⟨by simp, ?_⟩
          intro entry member different
          have before : entry ∈ entries := by simpa [different] using member
          exact Completion.lt_of_not_isLate distinct timely before
      | true =>
          have isNewest := ih
            (((List.sublist_append_left entries [last]).map _).nodup distinct)
            (by simpa [timely] using final)
          obtain ⟨ahead, inside, greater⟩ := List.any_eq_true.mp timely
          have overtaken : last.1 < newest.1 := by
            by_cases same : ahead = newest
            · subst same
              simpa using greater
            · exact Nat.lt_trans (by simpa using greater) (isNewest.above ahead inside same)
          refine ⟨List.mem_append_left _ isNewest.member, ?_⟩
          intro entry member different
          rcases List.mem_append.mp member with before | isLast
          · exact isNewest.above entry before different
          · obtain rfl : entry = last := by simpa using isLast
            exact overtaken

/-- The last leader does not depend on the order of completions. -/
theorem leaders_getLast?_congr {entries others : List Completion}
    (distinct : (entries.map Prod.fst).Nodup) (otherDistinct : (others.map Prod.fst).Nodup)
    (same : ∀ entry, entry ∈ entries ↔ entry ∈ others) :
    (leaders entries).getLast? = (leaders others).getLast? := by
  cases last : (leaders entries).getLast? with
  | none =>
      have empty : entries = [] :=
        (leaders_eq_nil_iff entries).mp (List.getLast?_eq_none_iff.mp last)
      have otherEmpty : others = [] :=
        List.eq_nil_iff_forall_not_mem.mpr fun entry member => by
          simpa [empty] using (same entry).mpr member
      rw [otherEmpty]
      rfl
  | some newest =>
      have isNewest := (leaders_getLast?_newest distinct last).congr same
      cases otherLast : (leaders others).getLast? with
      | none =>
          have otherEmpty : others = [] :=
            (leaders_eq_nil_iff others).mp (List.getLast?_eq_none_iff.mp otherLast)
          have impossible := isNewest.member
          simp [otherEmpty] at impossible
      | some otherNewest =>
          have otherIsNewest := leaders_getLast?_newest otherDistinct otherLast
          rw [isNewest.unique otherIsNewest]

end Rerun
