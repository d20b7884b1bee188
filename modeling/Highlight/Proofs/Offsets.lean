import Highlight.Pattern.ByteSearch
import Mathlib.Data.String.Basic
import Mathlib.Tactic.Common

/-!
# Places and offsets of a text

A place counts the characters in front of it, an offset their bytes.  The offsets of the places of a
text are its boundaries, in the same order (`isBoundary_iff`, `offsetOf_lt_iff`), so that a search
by places and a search by offsets can be compared.

A search goes on behind a place at the next place, and behind an offset at the next boundary; behind
the end of the text there is one more of each.  Nothing is passed over on the way
(`exists_boundaryBehind?`).
-/

namespace Highlight

variable {cs : List Char} {text : String} {i j : ℕ}

/-! ## The offset of a place -/

lemma offsetOf_eq_utf8Len (cs : List Char) (place : ℕ) :
    offsetOf cs place = String.utf8Len (cs.take place) :=
  String.utf8ByteSize_ofList _

/-- The offset of a place is counted on by the size of the character there. -/
lemma offsetOf_succ (h : i < cs.length) : offsetOf cs (i + 1) = offsetOf cs i + cs[i].utf8Size := by
  rw [offsetOf_eq_utf8Len, offsetOf_eq_utf8Len, List.take_succ_eq_append_getElem h,
    String.utf8Len_append, String.utf8Len_cons, String.utf8Len_nil, Nat.zero_add]

/-- Places in order have offsets in order. -/
lemma offsetOf_mono (h : i ≤ j) : offsetOf cs i ≤ offsetOf cs j := by
  rw [offsetOf_eq_utf8Len, offsetOf_eq_utf8Len]
  exact String.utf8Len_le_of_prefix (List.take_prefix_take_left h)

/-- Different places have different offsets. -/
lemma offsetOf_lt_offsetOf (hij : i < j) (hi : i < cs.length) : offsetOf cs i < offsetOf cs j :=
  calc offsetOf cs i < offsetOf cs (i + 1) := by
        rw [offsetOf_succ hi]
        exact Nat.lt_add_of_pos_right (Char.utf8Size_pos _)
    _ ≤ offsetOf cs j := offsetOf_mono hij

lemma offsetOf_lt_iff (hj : j ≤ cs.length) : offsetOf cs i < offsetOf cs j ↔ i < j := by
  constructor
  · intro h
    by_contra hle
    have hoffsets : offsetOf cs j ≤ offsetOf cs i := offsetOf_mono (Nat.le_of_not_lt hle)
    omega
  · intro h
    exact offsetOf_lt_offsetOf h (h.trans_le hj)

lemma offsetOf_length (text : String) :
    offsetOf text.toList text.toList.length = text.utf8ByteSize := by
  rw [offsetOf, List.take_length, String.ofList_toList]

/-- The boundaries of a text are the offsets of its places. -/
lemma isBoundary_iff {offset : ℕ} :
    IsBoundary text offset ↔ ∃ place ≤ text.toList.length, offsetOf text.toList place = offset := by
  rw [IsBoundary, String.Pos.Raw.isValid_iff_exists_append]
  constructor
  · rintro ⟨front, back, rfl, hoffset⟩
    refine ⟨front.toList.length, by simp, ?_⟩
    rw [offsetOf, String.toList_append, List.take_left, String.ofList_toList]
    exact (congrArg String.Pos.Raw.byteIdx hoffset).symm
  · rintro ⟨place, hplace, rfl⟩
    refine ⟨String.ofList (text.toList.take place), String.ofList (text.toList.drop place), ?_, rfl⟩
    rw [← String.ofList_append, List.take_append_drop, String.ofList_toList]

/-- The bytes in front of a place are those of the characters in front of it. -/
lemma takeBytes?_offsetOf (cs : List Char) (place : ℕ) :
    Regex.Backtrack.takeBytes? cs (offsetOf cs place) = some (cs.take place) := by
  induction cs generalizing place with
  | nil => simp [offsetOf_eq_utf8Len, Regex.Backtrack.takeBytes?]
  | cons c cs ih =>
    cases place with
    | zero => simp [offsetOf_eq_utf8Len, Regex.Backtrack.takeBytes?]
    | succ place =>
      have hoffset : offsetOf (c :: cs) (place + 1) = offsetOf cs place + c.utf8Size := by
        rw [offsetOf_eq_utf8Len, offsetOf_eq_utf8Len, List.take_succ_cons, String.utf8Len_cons]
      obtain ⟨n, hn⟩ : ∃ n, offsetOf cs place + c.utf8Size = n + 1 :=
        Nat.exists_eq_succ_of_ne_zero (by have := c.utf8Size_pos; omega)
      have hrest : n + 1 - c.utf8Size = offsetOf cs place := by omega
      rw [hoffset, hn, Regex.Backtrack.takeBytes?, if_pos (by omega), hrest, ih place]
      rfl

/-! ## Going on -/

/-- The offset of a place of a round; the last of these places is one behind the end. -/
def roundOffset (text : String) (place : ℕ) : ℕ :=
  if place ≤ text.toList.length then offsetOf text.toList place else text.utf8ByteSize + 1

/-- The boundary behind a place is the offset of the next place. -/
lemma boundaryBehind?_offsetOf (h : i ≤ text.toList.length) :
    boundaryBehind? text (offsetOf text.toList i) = some (roundOffset text (i + 1)) := by
  have hget : (String.Pos.Raw.mk (offsetOf text.toList i)).get? text = text.toList[i]? := by
    have hvalid := String.get?_of_valid (text.toList.take i) (text.toList.drop i)
    rwa [List.take_append_drop, String.ofList_toList, List.head?_drop, ← offsetOf_eq_utf8Len]
      at hvalid
  rw [boundaryBehind?, if_pos (isBoundary_iff.mpr ⟨i, h, rfl⟩), hget, roundOffset]
  by_cases hlt : i + 1 ≤ text.toList.length
  · rw [List.getElem?_eq_getElem hlt, if_pos hlt, offsetOf_succ hlt]
  · rw [List.getElem?_eq_none (Nat.le_of_not_lt hlt), if_neg hlt]

/-- A round may begin at an offset: at a boundary, or one behind the end. -/
def IsRoundOffset (text : String) (offset : ℕ) : Prop :=
  IsBoundary text offset ∨ offset = text.utf8ByteSize + 1

lemma IsRoundOffset.le {offset : ℕ} (h : IsRoundOffset text offset) :
    offset ≤ text.utf8ByteSize + 1 := by
  obtain h | rfl := h
  · exact Nat.le_succ_of_le h.le_rawEndPos
  · exact Nat.le_refl _

/-- The first offset behind another one that a round may begin at. -/
structure IsNextRoundOffset (text : String) (offset next : ℕ) : Prop where
  lt : offset < next
  isRoundOffset : IsRoundOffset text next
  le_of_isBoundary : ∀ later, IsBoundary text later → offset < later → next ≤ later

/-- Behind a boundary no boundary is passed over. -/
lemma exists_boundaryBehind? {offset : ℕ} (h : IsBoundary text offset) :
    ∃ next, boundaryBehind? text offset = some next ∧ IsNextRoundOffset text offset next := by
  obtain ⟨place, hplace, rfl⟩ := isBoundary_iff.mp h
  refine ⟨_, boundaryBehind?_offsetOf hplace, ?_⟩
  unfold roundOffset
  split_ifs with hlt
  · refine ⟨offsetOf_lt_offsetOf (Nat.lt_succ_self place) hlt,
      .inl (isBoundary_iff.mpr ⟨_, hlt, rfl⟩), fun later hlater hgt => ?_⟩
    obtain ⟨other, hother, rfl⟩ := isBoundary_iff.mp hlater
    exact offsetOf_mono ((offsetOf_lt_iff hother).mp hgt)
  · have hend : offsetOf text.toList place = text.utf8ByteSize := by
      rw [← offsetOf_length, Nat.le_antisymm hplace (Nat.le_of_not_lt hlt)]
    refine ⟨by omega, .inr rfl, fun later hlater hgt => ?_⟩
    obtain ⟨other, hother, rfl⟩ := isBoundary_iff.mp hlater
    exact absurd ((offsetOf_lt_iff hother).mp hgt) (by omega)

end Highlight
