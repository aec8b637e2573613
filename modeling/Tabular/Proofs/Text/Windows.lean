import Tabular.Proofs.Outcome
import Tabular.Series.Strings

/-!
# Windows of a text

A window of a text is given by an offset and a length (`Text.InWindow`, `Text.window`). The offset
counts from the end of the text when it is negative, and the window may begin before the text or end
behind it; what lies outside of the text is cut off. The window is not moved into the text first, so
a window that begins before the text is shorter than its length says.

Slicing does not work with the window itself. It first turns offset and length into two positions,
in which a negative one is again counted from the end, and then moves each position into the text on
its own. A window that stops at the end must not come out as one that stops at the first position,
and one that begins before the text must not be moved into it. `Text.cast_resolveStop` is where
these cases are told apart; everything else follows from it, and slicing gives the window of every
text, which is a segment of it (`Series.slice_sliceBounds`).

Positions are 64-bit integers, and a window that stops behind the last of them is cut off there. It
is therefore assumed that texts have fewer characters than `Text.positionLimit`, which holds of any
text whose length is a 64-bit integer.
-/

namespace Tabular

namespace Text

variable {start : Int} {length : Option Int} {n : Nat}

/-! ### The characters in a window -/

/-- The place at which a window begins in a text of `n` characters, which may be before the text. -/
def windowStart (n : Nat) (start : Int) : Int :=
  if 0 ≤ start then start else n + start

/-- The place `i` of a text is in the window that begins at `first`. -/
def InWindow (first : Int) (length : Option Int) (i : Nat) : Prop :=
  first ≤ i ∧ ∀ len ∈ length, (i : Int) < first + len

instance (first : Int) (length : Option Int) (i : Nat) : Decidable (InWindow first length i) :=
  inferInstanceAs (Decidable (_ ∧ _))

/-- The characters of a text that are in a window, in their order. -/
def window (start : Int) (length : Option Int) (s : String) : String :=
  String.ofList ((s.toList.zipIdx.filter fun p ↦
    InWindow (windowStart s.toList.length start) length p.2).map Prod.fst)

/-- The characters at the places `b ≤ i < e`, counted from `k`, are a segment. -/
theorem map_filter_zipIdx_between (b e k : Nat) (cs : List Char) :
    ((cs.zipIdx k).filter fun p ↦ b ≤ p.2 ∧ p.2 < e).map Prod.fst =
      (cs.drop (b - k)).take (e - max b k) := by
  induction cs generalizing k with
  | nil => simp
  | cons c cs ih =>
    rw [List.zipIdx_cons, List.filter_cons]
    rcases Nat.lt_or_ge k b with hb | hb
    · -- before the segment
      have hdrop : b - k = b - (k + 1) + 1 := by omega
      rw [if_neg (by simp; omega), ih, hdrop, List.drop_succ_cons,
        Nat.max_eq_left (Nat.le_of_lt hb), Nat.max_eq_left hb]
    · rw [Nat.sub_eq_zero_of_le hb, List.drop_zero, Nat.max_eq_right hb]
      have htail := ih (k + 1)
      rw [Nat.sub_eq_zero_of_le (by omega : b ≤ k + 1), List.drop_zero,
        Nat.max_eq_right (by omega : b ≤ k + 1)] at htail
      rcases Nat.lt_or_ge k e with he | he
      · have htake : e - k = e - (k + 1) + 1 := by omega
        rw [if_pos (by simp; omega), List.map_cons, htail, htake, List.take_succ_cons]
      · -- behind the segment
        rw [if_neg (by simp; omega), htail, Nat.sub_eq_zero_of_le he,
          Nat.sub_eq_zero_of_le (by omega : e ≤ k + 1), List.take_zero, List.take_zero]

/-! ### The positions of a window -/

/-- The position at which slicing stops in a text of `n` characters. -/
def resolveStop (n : Nat) (stop : Option Int) : Nat :=
  (stop.map (resolvePosition n)).getD n

/-- Slicing drops the characters before the first position and takes those up to the second. -/
theorem toList_slice (start : Int) (stop : Option Int) (s : String) :
    (slice start stop s).toList = (s.toList.drop (resolvePosition s.toList.length start)).take
      (resolveStop s.toList.length stop - resolvePosition s.toList.length start) :=
  String.toList_ofList

/-- A position is moved into the text. -/
theorem cast_resolvePosition (n : Nat) (pos : Int) :
    (resolvePosition n pos : Int) = max 0 (min (windowStart n pos) n) := by
  have hmin : pos.toNat.min n = min pos.toNat n := rfl
  rw [resolvePosition, windowStart, hmin]
  split_ifs <;> omega

/-- The first position is the offset. -/
@[simp]
theorem sliceBounds_fst (start : Int) (length : Option Int) :
    (sliceBounds start length).1 = start := by
  unfold sliceBounds
  split <;> [rfl; split_ifs <;> rfl]

/-- Slicing stops where the window ends, moved into the text. -/
theorem cast_resolveStop {len : Int} (hlen : 0 ≤ len) (hn : (n : Int) < positionLimit) :
    (resolveStop n (sliceBounds start (some len)).2 : Int) =
      max 0 (min (windowStart n start + len) n) := by
  simp only [resolveStop, sliceBounds]
  split_ifs with hzero hcross <;>
    simp only [Option.map_some, Option.map_none, Option.getD_some, Option.getD_none,
      cast_resolvePosition]
  · rw [hzero, Int.add_zero]
  · -- from before the end to behind it
    unfold windowStart
    split_ifs <;> omega
  · -- the position is negative exactly if the offset is
    unfold windowStart
    split_ifs <;> omega

/-- A place of the text is in the window exactly if it is between the positions of the window. -/
theorem between_iff_inWindow (hlength : ∀ len ∈ length, 0 ≤ len) (hn : (n : Int) < positionLimit)
    {i : Nat} (hi : i < n) :
    resolvePosition n (sliceBounds start length).1 ≤ i ∧
        i < resolveStop n (sliceBounds start length).2 ↔
      InWindow (windowStart n start) length i := by
  have hstart := cast_resolvePosition n start
  rw [sliceBounds_fst]
  cases length with
  | none =>
    have hstop : resolveStop n (sliceBounds start none).2 = n := rfl
    simp only [InWindow, Option.not_mem_none, false_imp_iff, forall_const, and_true]
    omega
  | some len =>
    have hstop : (resolveStop n (sliceBounds start (some len)).2 : Int) =
      max 0 (min (windowStart n start + len) n) := cast_resolveStop (hlength len rfl) hn
    simp only [InWindow, Option.mem_some_iff, forall_eq']
    omega

/-- **Slicing gives the window** of a text. -/
theorem slice_sliceBounds_eq_window (hlength : ∀ len ∈ length, 0 ≤ len) {s : String}
    (hs : (s.length : Int) < positionLimit) :
    slice (sliceBounds start length).1 (sliceBounds start length).2 s = window start length s := by
  have hplaces : (s.toList.zipIdx.filter fun p ↦
      InWindow (windowStart s.toList.length start) length p.2) =
      s.toList.zipIdx.filter fun p ↦
        resolvePosition s.toList.length (sliceBounds start length).1 ≤ p.2 ∧
          p.2 < resolveStop s.toList.length (sliceBounds start length).2 := by
    refine List.filter_congr fun p hp ↦ ?_
    have hi := List.snd_lt_of_mem_zipIdx hp
    exact decide_eq_decide.2 (between_iff_inWindow hlength hs hi).symm
  rw [window, hplaces, map_filter_zipIdx_between, Nat.max_zero, Nat.sub_zero]
  rfl

/-- A window is a segment of the text that is no longer than the window says. -/
theorem window_infix (hlength : ∀ len ∈ length, 0 ≤ len) {s : String}
    (hs : (s.length : Int) < positionLimit) :
    (window start length s).toList <:+: s.toList ∧
      ∀ len ∈ length, ((window start length s).length : Int) ≤ len := by
  rw [← slice_sliceBounds_eq_window hlength hs, ← String.length_toList, toList_slice,
    sliceBounds_fst]
  constructor
  · exact (List.take_prefix _ _).isInfix.trans (List.drop_suffix _ _).isInfix
  · rintro len rfl
    have hstop : (resolveStop s.toList.length (sliceBounds start (some len)).2 : Int) =
      max 0 (min (windowStart s.toList.length start + len) s.toList.length) :=
        cast_resolveStop (hlength len rfl) hs
    have hstart := cast_resolvePosition s.toList.length start
    have hlen := hlength len rfl
    rw [List.length_take]
    omega

end Text

namespace Series

variable {start : Int} {length : Option Int} {s : Series} {rows : List (Option String)}

/-- **Slicing by an offset and a length** gives the window of every text. -/
theorem slice_sliceBounds (hlength : ∀ len ∈ length, 0 ≤ len) (hrows : s.textRows = .ok rows)
    (hshort : ∀ row ∈ rows, ∀ text ∈ row, (text.length : Int) < Text.positionLimit) :
    s.slice (Text.sliceBounds start length).1 (Text.sliceBounds start length).2 =
        .ok ⟨.utf8, rows.map (Option.map (Text.window start length))⟩ ∧
      ∀ row ∈ rows, ∀ text ∈ row,
        (Text.window start length text).toList <:+: text.toList ∧
          ∀ len ∈ length, ((Text.window start length text).length : Int) ≤ len := by
  refine ⟨?_, fun row hrow text htext ↦ Text.window_infix hlength (hshort row hrow text htext)⟩
  have hmap : rows.map (Option.map
      (Text.slice (Text.sliceBounds start length).1 (Text.sliceBounds start length).2)) =
      rows.map (Option.map (Text.window start length)) :=
    List.map_congr_left fun row hrow ↦ Option.map_congr fun text htext ↦
      Text.slice_sliceBounds_eq_window hlength (hshort row hrow text htext)
  rw [slice, mapText, hrows, Outcome.ok_bind, hmap]

/-- A window from seven characters before the end, of two texts and a null. It begins two characters
before the shorter text. -/
theorem slice_sliceBounds_neg_seven :
    (∀ len ∈ some (4 : Int), 0 ≤ len) ∧
      (⟨.utf8, [some "Grüße", none, some "aufwärts"]⟩ : Series).slice
          (Text.sliceBounds (-7) (some 4)).1 (Text.sliceBounds (-7) (some 4)).2 =
        .ok ⟨.utf8, [some "Gr", none, some "ufwä"]⟩ := by
  have hlength : ∀ len ∈ some (4 : Int), 0 ≤ len := by decide
  exact ⟨hlength, (@slice_sliceBounds (-7) (some 4)
    ⟨.utf8, [some "Grüße", none, some "aufwärts"]⟩ _ hlength rfl (by decide)).1⟩

end Series

end Tabular
