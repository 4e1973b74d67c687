import DeprecationLint.Text.Bytes
import Mathlib.Data.Nat.Count

/-!
# Lines, counted

The line of an offset is the number of line ends before it. The index gets there by a detour: it
walks over the bytes, taking a carriage return and its line feed in one step, keeps where each line
starts, and then looks for the place at which an offset cuts the starts in two.

* `lineStartsFrom_cons` says that the walk might as well go byte by byte, since a carriage return
  before a line feed ends nothing. With it, `lineStartsFrom_eq` lists the starts of all lines.
* `cutsAt_iff` says that increasing numbers are cut in one place only, and where. It needs the order
  of the starts and nothing else about them.
* `countP_filter_range_lt` turns the starts up to an offset back into line ends before it.

`lineOf_eq_count_line_ends` puts these together for every text and every offset, also one inside a
line end or past the end of the text.
-/

namespace DeprecationLint.Text

/-! ### Line ends -/

/-- A line ends at a line feed, and at a carriage return that no line feed follows. -/
def EndsLineAt (bs : List UInt8) (j : Nat) : Prop :=
  bs[j]? = some 10 ∨ bs[j]? = some 13 ∧ bs[j + 1]? ≠ some 10

instance (bs : List UInt8) : DecidablePred (EndsLineAt bs) :=
  fun _ ↦ inferInstanceAs (Decidable (_ ∨ _))

theorem endsLineAt_cons_succ {b : UInt8} {rest : List UInt8} {j : Nat} :
    EndsLineAt (b :: rest) (j + 1) ↔ EndsLineAt rest j :=
  Iff.rfl

theorem endsLineAt_cons_zero {b : UInt8} {rest : List UInt8} :
    EndsLineAt (b :: rest) 0 ↔ b = 10 ∨ b = 13 ∧ rest.head? ≠ some 10 := by
  simp [EndsLineAt, List.head?_eq_getElem?]

/-- **The walk might as well go byte by byte.** -/
theorem lineStartsFrom_cons (o : Nat) (b : UInt8) (rest : List UInt8) :
    lineStartsFrom o (b :: rest) =
      if EndsLineAt (b :: rest) 0 then (o + 1) :: lineStartsFrom (o + 1) rest
      else lineStartsFrom (o + 1) rest := by
  by_cases hpair : b = 13 ∧ rest.head? = some 10
  · -- the step over both bytes is a silent one and then one that ends a line
    obtain ⟨rfl, hhead⟩ := hpair
    obtain ⟨rest, rfl⟩ := List.head?_eq_some_iff.1 hhead
    have hsilent : ¬EndsLineAt (13 :: 10 :: rest) 0 := by simp [endsLineAt_cons_zero]
    rw [if_neg hsilent]
    simp [lineStartsFrom]
  · have hends : EndsLineAt (b :: rest) 0 ↔ b = 13 ∨ b = 10 := by
      rw [endsLineAt_cons_zero]
      tauto
    rw [lineStartsFrom]
    · simp only [hends]
    · rintro rest' rfl rfl
      exact hpair ⟨rfl, rfl⟩

/-- **The walk lists the places after all line ends**, from the offset on at which it starts. -/
theorem lineStartsFrom_eq (o : Nat) (bs : List UInt8) :
    lineStartsFrom o bs = ((List.range bs.length).filter (EndsLineAt bs)).map (o + · + 1) := by
  induction bs generalizing o with
  | nil => rfl
  | cons b rest ih =>
    have hshift : ((List.range rest.length).map Nat.succ).filter (EndsLineAt (b :: rest)) =
        ((List.range rest.length).filter (EndsLineAt rest)).map Nat.succ := by
      rw [List.filter_map]
      refine congrArg (List.map Nat.succ) (List.filter_congr fun j _ ↦ ?_)
      exact decide_eq_decide.2 endsLineAt_cons_succ
    have hrest : lineStartsFrom (o + 1) rest =
        (((List.range rest.length).filter (EndsLineAt rest)).map Nat.succ).map (o + · + 1) := by
      rw [ih, List.map_map]
      refine List.map_congr_left fun j _ ↦ ?_
      simp only [Function.comp_apply]
      omega
    rw [lineStartsFrom_cons, List.length_cons, List.range_succ_eq_map, List.filter_cons, hshift,
      hrest]
    by_cases h : EndsLineAt (b :: rest) 0 <;> simp [h]

/-! ### Where an offset cuts the starts -/

/-- A place cuts a list in two: all before it have a property, and none from it on. -/
def CutsAt {α : Type} (p : α → Prop) (l : List α) (k : Nat) : Prop :=
  k ≤ l.length ∧ (∀ a ∈ l.take k, p a) ∧ ∀ a ∈ l.drop k, ¬p a

/-- A list is cut after as many elements as have the property. -/
theorem CutsAt.eq_countP {α : Type} {p : α → Prop} [DecidablePred p] {l : List α} {k : Nat}
    (h : CutsAt p l k) : k = l.countP p := by
  obtain ⟨hk, hbefore, hafter⟩ := h
  have htake : (l.take k).countP p = k := by
    rw [List.countP_eq_length.2 fun a ha ↦ decide_eq_true (hbefore a ha), List.length_take]
    omega
  have hdrop : (l.drop k).countP p = 0 :=
    List.countP_eq_zero.2 fun a ha ↦ by simpa using hafter a ha
  calc k = (l.take k).countP p + (l.drop k).countP p := by omega
    _ = l.countP p := by rw [← List.countP_append, List.take_append_drop]

/-- Increasing numbers are cut somewhere by any bound. -/
theorem exists_cutsAt {l : List Nat} (hl : l.Pairwise (· < ·)) (o : Nat) :
    ∃ k, CutsAt (· ≤ o) l k := by
  induction hl with
  | nil => exact ⟨0, by simp [CutsAt]⟩
  | @cons a l hmin _ ih =>
    obtain ⟨k, hk, hbefore, hafter⟩ := ih
    by_cases ha : a ≤ o
    · refine ⟨k + 1, by simpa using hk, ?_, hafter⟩
      simpa [ha] using hbefore
    · -- the first number is past the bound already, and so are the others
      refine ⟨0, by simp, by simp, ?_⟩
      simp only [List.drop_zero, List.mem_cons, forall_eq_or_imp]
      refine ⟨ha, fun s hs ↦ ?_⟩
      have := hmin s hs
      omega

/-- **Increasing numbers are cut by a bound in one place only.** -/
theorem cutsAt_iff {l : List Nat} (hl : l.Pairwise (· < ·)) {o k : Nat} :
    CutsAt (· ≤ o) l k ↔ k = l.countP (· ≤ o) := by
  constructor
  · exact CutsAt.eq_countP
  · intro hk
    obtain ⟨k', hk'⟩ := exists_cutsAt hl o
    rw [hk, ← hk'.eq_countP]
    exact hk'

/-- An element of an increasing list cuts it right after itself. -/
theorem cutsAt_succ_of_getElem? {l : List Nat} (hl : l.Pairwise (· < ·)) {k s : Nat}
    (hs : l[k]? = some s) : CutsAt (· ≤ s) l (k + 1) := by
  obtain ⟨hk, rfl⟩ := List.getElem?_eq_some_iff.1 hs
  have hincreasing := List.pairwise_iff_getElem.1 hl
  refine ⟨hk, fun a ha ↦ ?_, fun a ha ↦ ?_⟩
  · obtain ⟨i, hi, rfl⟩ := List.mem_take_iff_getElem.1 ha
    rcases Nat.lt_or_eq_of_le (show i ≤ k by omega) with hlt | rfl
    · exact (hincreasing i k (by omega) hk hlt).le
    · exact le_rfl
  · obtain ⟨i, hi, rfl⟩ := List.mem_drop_iff_getElem.1 ha
    exact (hincreasing k (k + 1 + i) hk (by omega) (by omega)).not_ge

/-! ### Line ends before an offset -/

/-- Among the places below `n` with a property, those below `o` are counted by a count up to
both. -/
theorem countP_filter_range_lt (p : Nat → Prop) [DecidablePred p] (o n : Nat) :
    ((List.range n).filter p).countP (· < o) = Nat.count p (min o n) := by
  induction n with
  | zero => simp
  | succ n ih =>
    rw [List.range_succ, List.filter_append, List.countP_append, ih]
    by_cases hn : n < o
    · rw [min_eq_right (by omega : n ≤ o), min_eq_right (by omega : n + 1 ≤ o), Nat.count_succ]
      by_cases hp : p n <;> simp [hp, hn]
    · rw [min_eq_left (by omega : o ≤ n), min_eq_left (by omega : o ≤ n + 1)]
      by_cases hp : p n <;> simp [hp, hn]

namespace LineIndex

variable (text : String)

theorem starts_eq :
    (ofText text).starts =
      0 :: ((List.range (bytes text).length).filter (EndsLineAt (bytes text))).map (· + 1) := by
  rw [starts_ofText, lineStartsFrom_eq]
  simp only [Nat.zero_add]

theorem pairwise_starts : (ofText text).starts.Pairwise (· < ·) := by
  have hends : ((List.range (bytes text).length).filter (EndsLineAt (bytes text))).Pairwise
      (· < ·) := List.pairwise_lt_range.filter _
  rw [starts_eq, List.pairwise_cons, List.pairwise_map]
  refine ⟨fun s hs ↦ ?_, hends.imp fun h ↦ Nat.succ_lt_succ h⟩
  obtain ⟨j, -, rfl⟩ := List.mem_map.1 hs
  exact Nat.succ_pos j

theorem starts_le {s : Nat} (hs : s ∈ (ofText text).starts) : s ≤ (bytes text).length := by
  rw [starts_eq, List.mem_cons, List.mem_map] at hs
  rcases hs with rfl | ⟨j, hj, rfl⟩
  · exact Nat.zero_le _
  · exact List.mem_range.1 (List.mem_filter.1 hj).1

/-- The starts up to an offset are the first one and one for each line end before the offset. -/
theorem countP_starts (o : Nat) :
    (ofText text).starts.countP (· ≤ o) =
      Nat.count (EndsLineAt (bytes text)) (min o (bytes text).length) + 1 := by
  rw [starts_eq, List.countP_cons, List.countP_map, ← countP_filter_range_lt]
  simp only [Nat.zero_le, decide_true, if_true]
  -- what is left differs in `j + 1 ≤ o` for `j < o`
  rfl

theorem lineOf_eq_count (o : Nat) :
    (ofText text).lineOf o =
      Nat.count (EndsLineAt (bytes text)) (min o (bytes text).length) := by
  rw [lineOf, countP_starts, Nat.add_sub_cancel]

/-- All starts are starts up to the end of the text. -/
theorem lineCount_eq_count :
    (ofText text).lineCount = Nat.count (EndsLineAt (bytes text)) (bytes text).length + 1 := by
  have hall : (ofText text).starts.countP (· ≤ (bytes text).length) = (ofText text).lineCount :=
    List.countP_eq_length.2 fun s hs ↦ decide_eq_true (starts_le text hs)
  rw [← hall, countP_starts, min_self]

theorem monotone_lineOf : Monotone (ofText text).lineOf := by
  intro o o' h
  rw [lineOf_eq_count, lineOf_eq_count]
  exact Nat.count_monotone _ (min_le_min_right _ h)

theorem lineOf_lt_lineCount (o : Nat) : (ofText text).lineOf o < (ofText text).lineCount := by
  rw [lineOf_eq_count, lineCount_eq_count]
  exact Nat.lt_succ_of_le (Nat.count_monotone _ (min_le_right _ _))

/-- The place at which an offset cuts the starts is right after the start of its line; it is never
the very first place, so that one less is not cut off at zero. -/
theorem cutsAt_starts_iff (o k : Nat) :
    CutsAt (· ≤ o) (ofText text).starts k ↔ k = (ofText text).lineOf o + 1 := by
  rw [cutsAt_iff (pairwise_starts text), countP_starts, lineOf_eq_count]

/-- The start of a line lies on that line. -/
theorem lineOf_start {k s : Nat} (hs : (ofText text).starts[k]? = some s) :
    (ofText text).lineOf s = k := by
  have hcut := cutsAt_succ_of_getElem? (pairwise_starts text) hs
  exact (Nat.succ.inj ((cutsAt_starts_iff text s (k + 1)).1 hcut)).symm

end LineIndex

/-- **The line of an offset is the number of line ends before it**, for every text and every
offset. The starts that the index keeps are the very first place and the places right after the
line ends; they increase and do not go past the text, so an offset cuts them in exactly one place,
which is right after the start of its line. There is one line more than there are line ends, every
offset lies on one of them, later offsets never lie on earlier lines, and the start of a line lies
on that line. -/
theorem lineOf_eq_count_line_ends (text : String) :
    (∀ o, (LineIndex.ofText text).lineOf o =
      Nat.count (EndsLineAt (bytes text)) (min o (bytes text).length)) ∧
    (LineIndex.ofText text).starts =
      0 :: ((List.range (bytes text).length).filter (EndsLineAt (bytes text))).map (· + 1) ∧
    (LineIndex.ofText text).starts.Pairwise (· < ·) ∧
    (∀ s ∈ (LineIndex.ofText text).starts, s ≤ (bytes text).length) ∧
    (∀ o k, CutsAt (· ≤ o) (LineIndex.ofText text).starts k ↔
      k = (LineIndex.ofText text).lineOf o + 1) ∧
    (LineIndex.ofText text).lineCount =
      Nat.count (EndsLineAt (bytes text)) (bytes text).length + 1 ∧
    Monotone (LineIndex.ofText text).lineOf ∧
    (∀ o, (LineIndex.ofText text).lineOf o < (LineIndex.ofText text).lineCount) ∧
    ∀ k s, (LineIndex.ofText text).starts[k]? = some s → (LineIndex.ofText text).lineOf s = k :=
  ⟨LineIndex.lineOf_eq_count text, LineIndex.starts_eq text, LineIndex.pairwise_starts text,
    fun _ hs ↦ LineIndex.starts_le text hs, LineIndex.cutsAt_starts_iff text,
    LineIndex.lineCount_eq_count text, LineIndex.monotone_lineOf text,
    LineIndex.lineOf_lt_lineCount text, fun _ _ hs ↦ LineIndex.lineOf_start text hs⟩

-- two carriage returns and a line feed are two line ends, and so are a line feed and the last byte
example : (LineIndex.ofText "a\r\r\nb\n\r").starts = [0, 2, 4, 6, 7] ∧
    [1, 2, 3, 4, 9].map (LineIndex.ofText "a\r\r\nb\n\r").lineOf = [0, 1, 1, 2, 4] := by
  decide +kernel

end DeprecationLint.Text
