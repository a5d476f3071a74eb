import Rerun.Proofs.Text.Places
import Rerun.Text.Line

/-! The lines of a report.  The one that an offset is in, and the column there, come from the
characters before the offset as line and column of a position do, but other characters break. -/

namespace Rerun.Line

/-- Whether a line ends with the character and another begins behind it.  No line begins at the
end of the text. -/
def breaks (c : Char) (rest : List Char) : Bool :=
  isTerminator c && !rest.isEmpty && !(c == '\r' && rest.head? == some '\n')

/-- Line and column in a report, of the place between two parts of a text. -/
def place : List Char → List Char → Nat × Nat
  | [], _ => (1, 1)
  | c :: before, after => Position.shift (breaks c (before ++ after)) (place before after)

theorem breaks_iff {c : Char} {rest : List Char} :
    breaks c rest ↔
      (isTerminator c ∧ rest ≠ []) ∧ ¬(c = '\r' ∧ rest.head? = some '\n') := by
  simp only [breaks, Bool.and_eq_true, Bool.not_eq_true', List.isEmpty_eq_false_iff,
    Bool.and_eq_false_iff, beq_eq_false_iff_ne, not_and_or, ne_eq]

theorem pieces_of_breaks {c : Char} {rest : List Char} (ends : breaks c rest) :
    pieces (c :: rest) = [c] :: pieces rest := by
  obtain ⟨⟨terminator, -⟩, apart⟩ := breaks_iff.mp ends
  rw [pieces.eq_3, if_pos terminator]
  rintro more rfl rfl
  exact apart ⟨rfl, rfl⟩

theorem pieces_of_not_breaks {c : Char} {rest : List Char} (goesOn : breaks c rest = false) :
    pieces (c :: rest) = (c :: (pieces rest).headD []) :: (pieces rest).tail := by
  by_cases pair : c = '\r' ∧ rest.head? = some '\n'
  · obtain ⟨rfl, feed⟩ := pair
    obtain ⟨more, rfl⟩ := List.head?_eq_some_iff.mp feed
    have next : pieces ('\n' :: more) = ['\n'] :: pieces more := by
      rw [pieces.eq_3 _ _ (by simp), if_pos (by decide)]
    rw [pieces, next]
    rfl
  · rw [pieces.eq_3 _ _ (by rintro more rfl rfl; exact pair ⟨rfl, rfl⟩)]
    cases rest with
    | nil => simp [pieces]
    | cons d rest =>
        have inner : ¬isTerminator c := fun terminator =>
          Bool.eq_false_iff.mp goesOn (breaks_iff.mpr ⟨⟨terminator, List.cons_ne_nil d rest⟩, pair⟩)
        rw [if_neg inner]
        cases pieces (d :: rest) <;> rfl

theorem ne_nil_of_mem_pieces {chars piece : List Char} (member : piece ∈ pieces chars) :
    piece ≠ [] := by
  induction chars generalizing piece with
  | nil => cases member
  | cons c rest ih =>
      cases ends : breaks c rest with
      | true =>
          rw [pieces_of_breaks ends] at member
          rcases List.mem_cons.mp member with rfl | later
          · exact List.cons_ne_nil c []
          · exact ih later
      | false =>
          rw [pieces_of_not_breaks ends] at member
          rcases List.mem_cons.mp member with rfl | later
          · exact List.cons_ne_nil c _
          · exact ih (List.mem_of_mem_tail later)

theorem pieces_ne_nil {chars : List Char} (proper : chars ≠ []) : pieces chars ≠ [] := by
  obtain ⟨c, rest, rfl⟩ := List.exists_cons_of_ne_nil proper
  cases ends : breaks c rest with
  | true => rw [pieces_of_breaks ends]; exact List.cons_ne_nil _ _
  | false => rw [pieces_of_not_breaks ends]; exact List.cons_ne_nil _ _

theorem at?_cons {line : Line} {offset : Nat} (before : line.start ≤ offset) (more : List Line) :
    at? (line :: more) offset =
      some (((at? more offset).map (Prod.map (· + 1) id)).getD (0, line)) := by
  rw [at?, at?, List.zipIdx_cons, List.takeWhile_cons_of_pos (by simpa using before),
    List.getLast?_cons, List.zipIdx_succ, List.takeWhile_map, List.getLast?_map]
  simp only [Function.comp_def]
  cases (List.takeWhile _ more.zipIdx).getLast? <;> rfl

theorem at?_of_later {offset start : Nat} (later : offset < start) (more : List (List Char)) :
    at? (number start more) offset = none := by
  cases more with
  | nil => rfl
  | cons piece more =>
      rw [number, at?, List.zipIdx_cons, List.takeWhile_cons_of_neg (by simpa using later)]
      rfl

/-- The column of an offset in a line, counted from zero. -/
def column (line : Line) (offset : Nat) : Nat :=
  (Position.charsBefore line.chars (offset - line.start)).length

theorem column_self (start : Nat) (chars : List Char) :
    column ⟨start, chars⟩ start = 0 := by
  rw [column, Nat.sub_self]
  exact congrArg List.length (Position.charsBefore_append [] chars)

theorem column_cons (start : Nat) (c : Char) (chars : List Char) (n : Nat) :
    column ⟨start, c :: chars⟩ (start + c.utf8Size + n) =
      column ⟨start + c.utf8Size, chars⟩ (start + c.utf8Size + n) + 1 := by
  rw [column, column, Nat.add_sub_cancel_left, Nat.add_assoc, Nat.add_sub_cancel_left,
    Position.charsBefore, if_pos (Nat.le_add_right _ _), Nat.add_sub_cancel_left,
    List.length_cons]

/-- By induction on the characters before the offset.  The lines of the rest of the text are
those of the text, but that the first of them may be longer in front. -/
theorem at?_number {before after : List Char} (proper : before ++ after ≠ []) (start : Nat) :
    ∃ index line,
      at? (number start (pieces (before ++ after))) (start + Position.byteSize before) =
        some (index, line) ∧
      place before after =
        (index + 1, line.column (start + Position.byteSize before) + 1) := by
  induction before generalizing start with
  | nil =>
      obtain ⟨piece, more, split⟩ := List.exists_cons_of_ne_nil (pieces_ne_nil proper)
      obtain ⟨c, rest, rfl⟩ :=
        List.exists_cons_of_ne_nil (ne_nil_of_mem_pieces (split ▸ List.mem_cons_self))
      have next : at? (number (start + Position.byteSize (c :: rest)) more) start = none := by
        have size := c.utf8Size_pos
        apply at?_of_later
        rw [Position.byteSize_cons]
        omega
      refine ⟨0, ⟨start, c :: rest⟩, ?_, ?_⟩
      · change at? _ start = _
        rw [split, number, at?_cons (Nat.le_refl start), next]
        rfl
      · change _ = (0 + 1, column _ start + 1)
        rw [column_self]
        rfl
  | cons c before ih =>
      rw [Position.byteSize_cons, ← Nat.add_assoc]
      have reached : start ≤ start + c.utf8Size + Position.byteSize before := by omega
      by_cases last : before ++ after = []
      · obtain ⟨rfl, rfl⟩ := List.append_eq_nil_iff.mp last
        have goesOn : breaks c [] = false := by simp [breaks]
        refine ⟨0, ⟨start, [c]⟩, ?_, ?_⟩
        · rw [List.cons_append, List.append_nil, pieces_of_not_breaks goesOn, number,
            at?_cons reached]
          rfl
        · change _ = (0 + 1, column _ (start + c.utf8Size + 0) + 1)
          have alone : column ⟨start + c.utf8Size, []⟩ (start + c.utf8Size + 0) = 0 :=
            column_self _ []
          rw [column_cons, alone, place, List.append_nil, goesOn]
          rfl
      · cases ends : breaks c (before ++ after) with
        | true =>
            obtain ⟨index, line, sought, found⟩ := ih last (start + c.utf8Size)
            refine ⟨index + 1, line, ?_, ?_⟩
            · rw [List.cons_append, pieces_of_breaks ends, number, at?_cons reached]
              change some (((at? (number (start + c.utf8Size) _) _).map _).getD _) = _
              rw [sought]
              rfl
            · rw [place, ends, found, Position.shift, if_pos rfl]
        | false =>
            obtain ⟨index, line, sought, found⟩ := ih last (start + c.utf8Size)
            obtain ⟨piece, more, split⟩ := List.exists_cons_of_ne_nil (pieces_ne_nil last)
            rw [split, number, at?_cons (by dsimp only; omega)] at sought
            rw [List.cons_append, pieces_of_not_breaks ends, split, List.headD_cons,
              List.tail_cons, number, at?_cons reached, Position.byteSize_cons, ← Nat.add_assoc,
              place, ends, found]
            cases later : at? (number (start + c.utf8Size + Position.byteSize piece) more)
                (start + c.utf8Size + Position.byteSize before) with
            | none =>
                rw [later] at sought
                obtain ⟨rfl, rfl⟩ := Prod.mk.inj (Option.some.inj sought)
                refine ⟨0, ⟨start, c :: piece⟩, rfl, ?_⟩
                rw [column_cons]
                rfl
            | some pair =>
                rw [later] at sought
                obtain ⟨rfl, rfl⟩ := Prod.mk.inj (Option.some.inj sought)
                exact ⟨pair.1 + 1, pair.2, rfl, by simp [Position.shift]⟩

theorem at?_ofChars (before after : List Char) :
    ∃ index line,
      at? (ofChars (before ++ after)) (Position.byteSize before) = some (index, line) ∧
      place before after = (index + 1, line.column (Position.byteSize before) + 1) := by
  by_cases empty : before ++ after = []
  · obtain ⟨rfl, rfl⟩ := List.append_eq_nil_iff.mp empty
    exact ⟨0, ⟨0, []⟩, rfl, rfl⟩
  · have lines : ofChars (before ++ after) = number 0 (pieces (before ++ after)) := by
      obtain ⟨piece, more, split⟩ := List.exists_cons_of_ne_nil (pieces_ne_nil empty)
      rw [ofChars, split]
    have found := at?_number empty 0
    rwa [← lines, Nat.zero_add] at found

/-! ### Line feeds alone -/

/-- No character before the place breaks a line of the report, line feeds apart. -/
def OnlyFeeds (before after : List Char) : Prop :=
  ∀ front c back, before = front ++ c :: back → breaks c (back ++ after) → c = '\n'

theorem onlyFeeds_cons {c : Char} {before after : List Char} :
    OnlyFeeds (c :: before) after ↔
      (breaks c (before ++ after) → c = '\n') ∧ OnlyFeeds before after := by
  constructor
  · intro only
    refine ⟨only [] c before rfl, fun front d back split => ?_⟩
    exact only (c :: front) d back (congrArg (c :: ·) split)
  · rintro ⟨first, later⟩ front d back split
    cases front with
    | nil =>
        obtain ⟨rfl, rfl⟩ := List.cons.inj split
        exact first
    | cons e front => exact later front d back (List.cons.inj split).2

/-- The place is behind a line feed that ends the text. -/
def AfterLastFeed (before after : List Char) : Prop :=
  after = [] ∧ before.getLast? = some '\n'

theorem AfterLastFeed.cons {before after : List Char} (behind : AfterLastFeed before after)
    (c : Char) : AfterLastFeed (c :: before) after := by
  refine ⟨behind.1, ?_⟩
  rw [List.getLast?_cons, behind.2, Option.getD_some]

theorem breaks_feed {before after : List Char} (inside : ¬AfterLastFeed ('\n' :: before) after) :
    breaks '\n' (before ++ after) := by
  refine breaks_iff.mpr ⟨⟨rfl, fun last => inside ?_⟩, by simp⟩
  obtain ⟨rfl, rfl⟩ := List.append_eq_nil_iff.mp last
  exact ⟨rfl, rfl⟩

theorem place_eq_scan {before after : List Char} (inside : ¬AfterLastFeed before after)
    (only : OnlyFeeds before after) : place before after = Position.scan before := by
  induction before with
  | nil => rfl
  | cons c before ih =>
      obtain ⟨first, later⟩ := onlyFeeds_cons.mp only
      have alike : breaks c (before ++ after) = (c == '\n') := by
        rw [Bool.eq_iff_iff, beq_iff_eq]
        refine ⟨first, ?_⟩
        rintro rfl
        exact breaks_feed inside
      rw [place, Position.scan_cons, alike, ih (fun behind => inside (behind.cons c)) later]

/-- Every line feed breaks the report, so it has counted as many lines only if nothing else
broke it. -/
theorem onlyFeeds_of_line {before after : List Char} (inside : ¬AfterLastFeed before after) :
    (Position.scan before).1 ≤ (place before after).1 ∧
      ((place before after).1 ≤ (Position.scan before).1 → OnlyFeeds before after) := by
  induction before with
  | nil => exact ⟨Nat.le_refl 1, fun _ front c back split => by simp at split⟩
  | cons c before ih =>
      obtain ⟨least, only⟩ := ih fun behind => inside (behind.cons c)
      rw [place, Position.scan_cons, Position.shift_fst, Position.shift_fst, onlyFeeds_cons]
      by_cases feed : c = '\n'
      · subst feed
        rw [breaks_feed inside, if_pos rfl, if_pos (by decide)]
        exact ⟨by omega, fun same => ⟨fun _ => rfl, only (by omega)⟩⟩
      · rw [if_neg (by simpa using feed)]
        cases breaks c (before ++ after) with
        | true =>
            rw [if_pos rfl]
            exact ⟨by omega, fun same => absurd least (by omega)⟩
        | false =>
            rw [if_neg Bool.false_ne_true]
            exact ⟨least, fun same => ⟨Bool.noConfusion, only same⟩⟩

theorem two_le_column (before : List Char) (c : Char) : 2 ≤ (place (before ++ [c]) []).2 := by
  induction before with
  | nil => simp [place, breaks, Position.shift]
  | cons d before ih =>
      rw [List.cons_append, place]
      exact Nat.le_trans ih (Position.le_shift_snd _ _)

theorem place_eq_scan_iff {before after : List Char} :
    place before after = Position.scan before ↔
      ¬AfterLastFeed before after ∧ OnlyFeeds before after := by
  constructor
  · intro same
    have inside : ¬AfterLastFeed before after := by
      rintro ⟨rfl, last⟩
      obtain ⟨front, rfl⟩ := List.getLast?_eq_some_iff.mp last
      have behind := two_le_column front '\n'
      rw [same, Position.scan_concat] at behind
      exact absurd behind (by simp [Position.pass])
    exact ⟨inside, (onlyFeeds_of_line inside).2 (by rw [same])⟩
  · rintro ⟨inside, only⟩
    exact place_eq_scan inside only

end Rerun.Line
