import Mathlib.Data.List.Nodup
import Rerun.Toml.Message

/-! No key stands twice at the top of a document.  Every step that adds to a table keeps its
keys apart: an entry is added only under a key that is new, and else put in the place of the
one that was there. -/

namespace Rerun.Toml

theorem exists_of_bind {ε α β : Type} {step : Except ε α} {next : α → Except ε β} {b : β}
    (ran : step >>= next = .ok b) : ∃ a, step = .ok a ∧ next a = .ok b := by
  cases step with
  | error e => cases ran
  | ok a => exact ⟨a, rfl, ran⟩

namespace Entries

def keys (entries : Entries) : List String := entries.map (·.1.text)

/-- No key stands twice. -/
def Distinct (entries : Entries) : Prop := (keys entries).Nodup

theorem contains_iff {entries : Entries} {key : String} :
    contains entries key ↔ key ∈ keys entries := by
  simp only [contains, keys, List.any_eq_true, List.mem_map, beq_iff_eq]

section Distinct

variable {entries : Entries}

theorem distinct_nil : Distinct [] := List.nodup_nil

theorem Distinct.concat (distinct : Distinct entries) {key : Key}
    (fresh : contains entries key.text = false) (node : Node) :
    Distinct (entries ++ [(key, node)]) := by
  have absent : key.text ∉ keys entries := by
    simp [← contains_iff, fresh]
  unfold Distinct keys at distinct absent ⊢
  rw [List.map_append, List.map_singleton, List.nodup_append]
  refine ⟨distinct, List.nodup_singleton _, ?_⟩
  intro known isKnown added isAdded same
  rw [List.mem_singleton.mp isAdded] at same
  exact absent (same ▸ isKnown)

theorem Distinct.put (distinct : Distinct entries) (key : Key) (node : Node) :
    Distinct (put entries key node) := by
  rw [Entries.put]
  split
  next present =>
    have same : keys (entries.map fun entry =>
        if entry.1.text == key.text then (entry.1, node) else entry) = keys entries := by
      rw [keys, List.map_map]
      apply List.map_congr_left
      intro entry _
      dsimp only [Function.comp]
      split <;> rfl
    unfold Distinct
    rw [same]
    exact distinct
  next absent => exact distinct.concat (by simpa using absent) node

theorem Distinct.erase (distinct : Distinct entries) (key : String) :
    Distinct (erase entries key) :=
  distinct.sublist (List.filter_sublist.map _)

/-- A change at the end of a path keeps the keys apart where the change itself does, which
matters only for an empty path. -/
theorem Distinct.change {β : Type} {f : Entries → Except Conflict (Entries × β)}
    {above : List String} {path : List Key} {changed : Entries} {found : β}
    (distinct : Distinct entries)
    (keeps : ∀ {before after found}, f before = .ok (after, found) → Distinct before →
      Distinct after)
    (ran : change f above path entries = .ok (changed, found)) : Distinct changed := by
  cases path with
  | nil => exact keeps ran distinct
  | cons key rest =>
      rw [Entries.change] at ran
      split at ran
      next =>
        obtain ⟨inner, -, put⟩ := exists_of_bind ran
        cases put
        exact distinct.put ..
      next =>
        obtain ⟨inner, -, put⟩ := exists_of_bind ran
        cases put
        exact distinct.put ..
      next items _ =>
        split at ran
        next => cases ran
        next =>
          obtain ⟨inner, -, put⟩ := exists_of_bind ran
          cases put
          exact distinct.put ..
      next => cases ran

theorem Distinct.put_of_bind (distinct : Distinct entries) {α : Type} {step : Except Conflict α}
    {key : Key} {made : α → Node} {changed : Entries}
    (ran : (do let inner ← step; return Entries.put entries key (made inner)) = .ok changed) :
    Distinct changed := by
  obtain ⟨inner, -, put⟩ := exists_of_bind ran
  cases put
  exact distinct.put key (made inner)

theorem Distinct.insertAt {isInline : Bool} {origin : Origin} {place : Option (List String)}
    {node : Node} {above : List String} {path : List Key} {inserted : Entries}
    (distinct : Distinct entries)
    (ran : insertAt isInline origin place node above path entries = .ok inserted) :
    Distinct inserted := by
  match path with
  | [] => cases ran
  | [key] =>
      rw [Entries.insertAt] at ran
      split at ran
      next => cases ran
      next =>
        split at ran
        next => cases ran
        next fresh =>
          cases ran
          exact distinct.concat (by simpa using fresh) node
  | key :: next :: rest =>
      simp only [Entries.insertAt] at ran
      split at ran
      next => exact distinct.put_of_bind ran
      next =>
        split at ran
        next => cases ran
        next => exact distinct.put_of_bind ran
      next =>
        split at ran
        next => cases ran
        next =>
          split at ran
          next => cases ran
          next => exact distinct.put_of_bind ran
      next =>
        split at ran
        next => cases ran
        next => exact distinct.put_of_bind ran
      next => cases ran

end Distinct

end Entries

/-! Documents -/

namespace Progress

/-- The table at the top is what has been put together so far, and before the first header
it is the current table. -/
structure Distinct (p : Progress) : Prop where
  root : p.root.Distinct
  current : p.path = [] → p.current.Distinct

variable {p q : Progress}

theorem Distinct.close (distinct : p.Distinct) (ran : p.close = .ok q) :
    q.root.Distinct ∧ q.current = [] := by
  rw [Progress.close] at ran
  split at ran
  next ends =>
    cases ran
    exact ⟨distinct.current (List.getLast?_eq_none_iff.mp ends), rfl⟩
  next key _ =>
    obtain ⟨⟨root, _⟩, changed, closed⟩ := exists_of_bind ran
    cases closed
    refine ⟨distinct.root.change ?_ changed, rfl⟩
    intro before after found put kept
    split at put
    next =>
      split at put
      next =>
        cases put
        exact kept.put ..
      next =>
        cases put
        exact kept.put ..
      next => cases put
    next =>
      cases put
      exact kept.put ..

theorem Distinct.openTable (distinct : p.Distinct) {path : List Key} {span : Span}
    (ran : p.openTable path span = .ok q) : q.Distinct := by
  rw [Progress.openTable] at ran
  obtain ⟨closed, isClosed, ran⟩ := exists_of_bind ran
  obtain ⟨root, current⟩ := distinct.close isClosed
  dsimp only at ran
  split at ran
  next =>
    cases ran
    exact ⟨root, fun _ => current ▸ Entries.distinct_nil⟩
  next key isLast =>
    obtain ⟨⟨changed, kept⟩, isChanged, opened⟩ := exists_of_bind ran
    cases opened
    refine ⟨root.change ?_ isChanged, ?_⟩
    · intro before after found put kept
      split at put
      next =>
        cases put
        exact kept
      next =>
        split at put
        next =>
          cases put
          exact kept.erase _
        next => cases put
      next => cases put
    · rintro rfl
      cases isLast

theorem Distinct.openArrayTable (distinct : p.Distinct) {path : List Key} {span : Span}
    (ran : p.openArrayTable path span = .ok q) : q.Distinct := by
  rw [Progress.openArrayTable] at ran
  obtain ⟨closed, isClosed, ran⟩ := exists_of_bind ran
  obtain ⟨root, current⟩ := distinct.close isClosed
  dsimp only at ran
  split at ran
  next =>
    cases ran
    exact ⟨root, fun _ => current ▸ Entries.distinct_nil⟩
  next key isLast =>
    obtain ⟨⟨changed, _⟩, isChanged, opened⟩ := exists_of_bind ran
    cases opened
    refine ⟨root.change ?_ isChanged, fun _ => current ▸ Entries.distinct_nil⟩
    intro before after found put kept
    split at put
    next =>
      cases put
      exact kept.put ..
    next =>
      cases put
      exact kept
    next => cases put

theorem Distinct.define (distinct : p.Distinct) {path : List Key} {node : Node}
    (ran : p.define path node = .ok q) : q.Distinct := by
  rw [Progress.define] at ran
  obtain ⟨current, inserted, ran⟩ := exists_of_bind ran
  cases ran
  exact ⟨distinct.root, fun top => (distinct.current top).insertAt inserted⟩

end Progress

section Scan

variable {α β : Type} {c d : Cursor} {p q : Progress}

theorem ok_of_mapError {ε δ : Type} {f : ε → δ} {step : Except ε α} {a : α}
    (ran : step.mapError f = .ok a) : step = .ok a := by
  cases step with
  | error e => cases ran
  | ok found => exact congrArg Except.ok (Except.ok.inj ran)

theorem Scan.exists_of_bind {step : Scan α} {next : α → Scan β} {b : β}
    (ran : (step >>= next) c = .ok (b, d)) :
    ∃ a e, step c = .ok (a, e) ∧ next a e = .ok (b, d) := by
  obtain ⟨⟨a, e⟩, first, second⟩ := Toml.exists_of_bind ran
  exact ⟨a, e, first, second⟩

theorem Scan.exists_of_refine {step : Scan α} {f : α → Except String β} {b : β}
    (ran : Scan.refine step f c = .ok (b, d)) : ∃ a, step c = .ok (a, d) ∧ f a = .ok b := by
  rw [Scan.refine] at ran
  split at ran
  next => cases ran
  next a _ stepped =>
    split at ran
    next found =>
      cases ran
      exact ⟨a, stepped, found⟩
    next => cases ran

theorem distinct_of_definition (distinct : p.Distinct) (ran : definition p c = .ok (q, d)) :
    q.Distinct := by
  obtain ⟨⟨path, node⟩, -, defined⟩ := Scan.exists_of_refine ran
  exact distinct.define (ok_of_mapError defined)

theorem distinct_of_header_read {left right : String}
    {next : List Key → Span → Except Conflict Progress}
    (keeps : ∀ {path span q}, next path span = .ok q → q.Distinct)
    (ran : header.read left right next c = .ok (q, d)) : q.Distinct := by
  obtain ⟨⟨path, span⟩, -, opened⟩ := Scan.exists_of_refine ran
  exact keeps (ok_of_mapError opened)

theorem distinct_of_header (distinct : p.Distinct) (ran : header p c = .ok (q, d)) :
    q.Distinct := by
  obtain ⟨ahead, e, -, ran⟩ := Scan.exists_of_bind (ok_of_mapError ran)
  split at ran
  next => cases ran
  next => exact distinct_of_header_read distinct.openArrayTable ran
  next => exact distinct_of_header_read distinct.openTable ran

theorem distinct_of_lines {fuel : Nat} (distinct : p.Distinct)
    (ran : lines fuel p c = .ok (q, d)) : q.Distinct := by
  induction fuel generalizing p c with
  | zero =>
      cases ran
      exact distinct
  | succ fuel ih =>
      obtain ⟨ahead, e, -, ran⟩ := Scan.exists_of_bind ran
      split at ran
      next =>
        cases ran
        exact distinct
      next first =>
        have goesOn {p : Progress} {c : Cursor} (distinct : p.Distinct)
            (ran : (do blanks; lines fuel p : Scan Progress) c = .ok (q, d)) : q.Distinct := by
          obtain ⟨_, e, -, ran⟩ := Scan.exists_of_bind ran
          exact ih distinct ran
        dsimp only at ran
        split at ran
        next =>
          obtain ⟨_, e, -, ran⟩ := Scan.exists_of_bind ran
          exact goesOn distinct ran
        next =>
          split at ran
          next =>
            obtain ⟨read, e, isRead, ran⟩ := Scan.exists_of_bind ran
            exact goesOn (distinct_of_header distinct (ok_of_mapError isRead)) ran
          next =>
            split at ran
            next =>
              obtain ⟨_, e, -, ran⟩ := Scan.exists_of_bind ran
              exact goesOn distinct ran
            next =>
              obtain ⟨read, e, isRead, ran⟩ := Scan.exists_of_bind ran
              exact goesOn (distinct_of_definition distinct (ok_of_mapError isRead)) ran

theorem distinct_of_document {entries : Entries} (ran : document c = .ok (entries, d)) :
    entries.Distinct := by
  obtain ⟨_, e, -, ran⟩ := Scan.exists_of_bind ran
  obtain ⟨_, e, -, ran⟩ := Scan.exists_of_bind ran
  obtain ⟨p, e, isRead, ran⟩ := Scan.exists_of_bind ran
  have distinct : p.Distinct :=
    distinct_of_lines ⟨Entries.distinct_nil, fun _ => Entries.distinct_nil⟩ isRead
  obtain ⟨_, e, -, ran⟩ := Scan.exists_of_bind ran
  dsimp only at ran
  split at ran
  next =>
    obtain ⟨_, _, failed, -⟩ := Scan.exists_of_bind ran
    cases failed
  next =>
    obtain ⟨last, same, closed⟩ := Scan.exists_of_refine ran
    cases same
    obtain ⟨final, isClosed, ends⟩ := Toml.exists_of_bind closed
    cases ends
    exact (distinct.close (ok_of_mapError isClosed)).1

/-- No key stands twice at the top of a document. -/
theorem distinct_of_parse {text : String} {entries : Entries}
    (parsed : parse text = .ok entries) : entries.Distinct := by
  rw [parse] at parsed
  split at parsed
  next ran =>
    cases parsed
    exact distinct_of_document ran
  next => cases parsed

end Scan

end Rerun.Toml
