import Gatehouse.Text.Slice
import Mathlib.Data.List.Basic

/-! Cuts between two characters. A text is cut without a fault where one part of it ends, and the
pieces are the two parts. -/

namespace Gatehouse.Text

theorem byteLength_append (front back : List Char) :
    byteLength (front ++ back) = byteLength front + byteLength back := by
  induction front with
  | nil => rw [List.nil_append, byteLength, Nat.zero_add]
  | cons c front ih => rw [List.cons_append, byteLength, byteLength, ih, Nat.add_assoc]

theorem charAround?_append (front back : List Char) (first : Nat) :
    charAround? (first + byteLength front) first (front ++ back) = none := by
  induction front generalizing first with
  | nil =>
    cases back with
    | nil => rfl
    | cons c back => exact if_pos (Nat.le_refl first)
  | cons c front ih =>
    have hpos := c.utf8Size_pos
    rw [byteLength, List.cons_append, charAround?, if_neg (by omega), if_neg (by omega),
      ← Nat.add_assoc]
    exact ih (first + c.utf8Size)

theorem checkCut_append (isStart : Bool) (front back : List Char) :
    checkCut isStart (byteLength front) (front ++ back) = .ok () := by
  have hnone := charAround?_append front back 0
  rw [Nat.zero_add] at hnone
  rw [checkCut, hnone]

theorem exists_byteLength_cons (c : Char) (cs : List Char) :
    ∃ n, byteLength (c :: cs) = n + 1 ∧ n + 1 - c.utf8Size = byteLength cs := by
  have hpos := c.utf8Size_pos
  exact ⟨byteLength (c :: cs) - 1, by rw [byteLength]; omega, by rw [byteLength]; omega⟩

theorem dropBytes_append (front back : List Char) :
    dropBytes (byteLength front) (front ++ back) = back := by
  induction front with
  | nil => rw [byteLength, List.nil_append, dropBytes]
  | cons c front ih =>
    obtain ⟨n, hn, hrest⟩ := exists_byteLength_cons c front
    rw [hn, List.cons_append, dropBytes, hrest, ih]

theorem takeBytes_append (front back : List Char) :
    takeBytes (byteLength front) (front ++ back) = front := by
  induction front with
  | nil => rw [byteLength, takeBytes]
  | cons c front ih =>
    obtain ⟨n, hn, hrest⟩ := exists_byteLength_cons c front
    rw [hn, List.cons_append, takeBytes, hrest, ih]

theorem slice_front (front back : List Char) :
    slice (front ++ back) 0 (byteLength front) = .ok (String.ofList front) := by
  have hstart : checkCut true 0 (front ++ back) = .ok () := checkCut_append true [] _
  rw [slice, hstart, checkCut_append, dropBytes, Nat.sub_zero, takeBytes_append]
  rfl

theorem slice_back (front back : List Char) :
    slice (front ++ back) (byteLength front) (byteLength (front ++ back)) =
      .ok (String.ofList back) := by
  have hstop := checkCut_append false (front ++ back) []
  have hback := takeBytes_append back []
  rw [List.append_nil] at hstop hback
  rw [slice, checkCut_append, hstop, dropBytes_append, byteLength_append, Nat.add_sub_cancel_left,
    hback]
  rfl

end Gatehouse.Text
