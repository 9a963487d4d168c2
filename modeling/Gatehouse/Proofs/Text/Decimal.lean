import Gatehouse.Text.Decimal
import Mathlib.Data.List.Basic
import Mathlib.Data.List.Induction
import Mathlib.Data.Nat.Digits.Defs

/-! Reading a decimal numeral undoes writing it, and takes runs of digits for the sum of their
digits by place. -/

namespace Gatehouse.Text.Decimal

theorem isDigit_iff {c : Char} : isDigit c = true ↔ '0' ≤ c ∧ c ≤ '9' := by
  rw [isDigit, Bool.and_eq_true, decide_eq_true_eq, decide_eq_true_eq]

theorem isDigit_eq (c : Char) : isDigit c = c.isDigit := by
  rw [isDigit, Char.isDigit]
  congr

theorem toNat_of_isDigit {c : Char} (h : isDigit c = true) : 48 ≤ c.toNat ∧ c.toNat ≤ 57 :=
  isDigit_iff.mp h

theorem isDigit_of_mem_digits {n : Nat} {c : Char} (h : c ∈ digits n) : isDigit c = true := by
  rw [isDigit_eq]
  exact Nat.isDigit_of_mem_toDigits (by decide) (by decide) h

theorem digits_ne_nil (n : Nat) : digits n ≠ [] := Nat.toDigits_ne_nil

theorem head?_digits_ne {n : Nat} (h : 0 < n) : (digits n).head? ≠ some '0' := by
  induction n using Nat.strongRecOn with
  | ind n ih =>
    rw [digits, Nat.toDigits_eq_if (by decide)]
    split
    · next hsmall =>
      have hall : ∀ n : Fin 10, 0 < n.val → [n.val.digitChar].head? ≠ some '0' := by decide
      exact hall ⟨n, hsmall⟩ h
    · next hlarge =>
      have hfront : (Nat.toDigits 10 (n / 10)).head? ≠ some '0' := ih (n / 10) (by omega) (by omega)
      rwa [List.head?_append_of_ne_nil _ Nat.toDigits_ne_nil]

theorem parse?_digits (n : Nat) : parse? (digits n) = some n := by
  have hall : (digits n).all isDigit = true := List.all_eq_true.mpr fun c => isDigit_of_mem_digits
  have hnonempty : (digits n).isEmpty = false := List.isEmpty_eq_false_iff.mpr (digits_ne_nil n)
  rw [parse?, hall, hnonempty, value, digits, Nat.ofDigitChars_ten_toDigits]
  rfl

theorem value_concat (digits : List Char) (c : Char) :
    value (digits ++ [c]) = 10 * value digits + (c.toNat - '0'.toNat) := by
  rw [value, Nat.ofDigitChars, List.foldl_append]
  rfl

theorem value_eq_ofDigits (digits : List Char) :
    value digits = Nat.ofDigits 10 (digits.reverse.map fun c => c.toNat - '0'.toNat) := by
  induction digits using List.reverseRecOn with
  | nil => rfl
  | append_singleton digits c ih =>
    rw [value_concat, ih, List.reverse_concat, List.map_cons, Nat.ofDigits_cons, Nat.add_comm]

theorem parse?_eq_some_iff {digits : List Char} {n : Nat} :
    parse? digits = some n ↔
      digits ≠ [] ∧ (∀ c ∈ digits, isDigit c = true) ∧ value digits = n := by
  rw [← and_assoc, ← List.all_eq_true, ← List.isEmpty_eq_false_iff, parse?]
  cases digits.isEmpty <;> cases digits.all isDigit <;> simp

/-- A text that is a numeral of a number, with one `+` in front of it if need be. -/
def Denotes (cs : List Char) (n : Nat) : Prop :=
  ∃ digits, (cs = digits ∨ cs = '+' :: digits) ∧ digits ≠ [] ∧
    (∀ c ∈ digits, isDigit c = true) ∧ value digits = n

theorem parseBelow?_eq_some_iff {bound n : Nat} {cs : List Char} :
    parseBelow? bound cs = some n ↔ Denotes cs n ∧ n < bound := by
  constructor
  · intro h
    obtain ⟨m, hread, hm⟩ := Option.bind_eq_some_iff.mp h
    obtain ⟨hbound, heq⟩ := Option.ite_none_right_eq_some.mp hm
    obtain rfl := Option.some.inj heq
    split at hread
    · next digits => exact ⟨⟨digits, .inr rfl, parse?_eq_some_iff.mp hread⟩, hbound⟩
    · exact ⟨⟨cs, .inl rfl, parse?_eq_some_iff.mp hread⟩, hbound⟩
  · rintro ⟨⟨digits, hsign, hdigits⟩, hbound⟩
    refine Option.bind_eq_some_iff.mpr ⟨n, ?_, if_pos hbound⟩
    obtain rfl | rfl := hsign
    · split
      · next more => exact absurd (hdigits.2.1 '+' List.mem_cons_self) (by decide)
      · exact parse?_eq_some_iff.mpr hdigits
    · exact parse?_eq_some_iff.mpr hdigits

theorem denotes_toString (n : Nat) : Denotes (toString n).toList n := by
  rw [Nat.toString_eq_repr, Nat.toList_repr]
  exact ⟨digits n, .inl rfl, parse?_eq_some_iff.mp (parse?_digits n)⟩

theorem parseBelow?_toString {bound n : Nat} (h : n < bound) :
    parseBelow? bound (toString n).toList = some n :=
  parseBelow?_eq_some_iff.mpr ⟨denotes_toString n, h⟩

theorem value_replicate_append (n : Nat) (digits : List Char) :
    value (List.replicate n '0' ++ digits) = value digits := by
  induction n with
  | zero => rfl
  | succ n ih => exact ih

theorem mem_padded {width n : Nat} {c : Char} (h : c ∈ padded width n) : isDigit c = true := by
  rcases List.mem_append.mp h with hzero | hdigit
  · rw [(List.mem_replicate.mp hzero).2]
    rfl
  · exact isDigit_of_mem_digits hdigit

theorem length_padded {width n : Nat} (hwidth : 0 < width) (h : n < 10 ^ width) :
    (padded width n).length = width := by
  have hle : (digits n).length ≤ width :=
    (Nat.length_toDigits_le_iff (by decide) hwidth).mpr h
  rw [padded, List.length_append, List.length_replicate, Nat.sub_add_cancel hle]

theorem parse?_padded (width n : Nat) : parse? (padded width n) = some n := by
  refine parse?_eq_some_iff.mpr
    ⟨List.append_ne_nil_of_right_ne_nil _ (digits_ne_nil n), fun c => mem_padded, ?_⟩
  rw [padded, value_replicate_append]
  exact (parse?_eq_some_iff.mp (parse?_digits n)).2.2

end Gatehouse.Text.Decimal
