import Gatehouse.Proofs.Json.Record
import Gatehouse.Proofs.Json.Write

/-! What the readers of fields make of the values that are written. -/

namespace Gatehouse.Json

open Grammar Text.Decimal

namespace Number

def ofDigits (n : Nat) (digits : List Nat) : Nat := digits.foldl (fun n d => 10 * n + d) n

theorem le_ofDigits (n : Nat) (digits : List Nat) : n ≤ ofDigits n digits := by
  induction digits generalizing n with
  | nil => exact Nat.le_refl n
  | cons d digits ih =>
    have hmore := ih (10 * n + d)
    rw [ofDigits, List.foldl_cons, ← ofDigits]
    omega

theorem absorb_of_lt {bound n : Nat} {digits : List Nat} (h : ofDigits n digits < bound) :
    absorb bound n digits = (ofDigits n digits, []) := by
  induction digits generalizing n with
  | nil => rfl
  | cons d digits ih =>
    have hfirst : 10 * n + d < bound := Nat.lt_of_le_of_lt (le_ofDigits (10 * n + d) digits) h
    rw [absorb, if_pos hfirst, ih h]
    rfl

end Number

namespace Grammar

theorem wholeValue_digits (n : Nat) : wholeValue (word (digits n)) = n := by
  have hfold : wholeValue (word (digits n)) =
      (digits n).foldl (fun n c => 10 * n + (c.toNat - '0'.toNat)) 0 := by
    rw [wholeValue, word, List.foldl_map]
    refine List.foldl_ext _ _ 0 fun n c hc => ?_
    have hdigit := toNat_of_isDigit (isDigit_of_mem_digits hc)
    have hbyte : (byte c).toNat = c.toNat := toNat_byte (by omega)
    rw [hbyte]
    rfl
  rw [hfold]
  exact Nat.ofDigitChars_ten_toDigits

theorem integer_toString (n : Int) : Integer n (Text.Utf8.encode (toString n)) := by
  have hwhole := whole_digits n.natAbs
  have hvalue := wholeValue_digits n.natAbs
  rw [encode_toString]
  by_cases hn : n < 0
  · have hnumeral : Integer (-wholeValue (word (digits n.natAbs)))
        (byte '-' :: word (digits n.natAbs)) := .negative hwhole (by omega)
    have hsame : -(wholeValue (word (digits n.natAbs)) : Int) = n := by omega
    rw [hsame] at hnumeral
    rw [signChars, if_pos hn]
    exact hnumeral
  · have hnumeral := Integer.positive hwhole
    have hsame : (wholeValue (word (digits n.natAbs)) : Int) = n := by omega
    rw [hsame] at hnumeral
    rw [signChars, if_neg hn]
    exact hnumeral

theorem Integer.number {n : Int} {bytes : Bytes} (h : Integer n bytes) : Number bytes := by
  cases h with
  | positive hwhole =>
    exact ⟨[], bytes, [], [], by decide, hwhole, .inl rfl, .inl rfl, by simp [word]⟩
  | @negative whole hwhole =>
    exact ⟨['-'], whole, [], [], by decide, hwhole, .inl rfl, .inl rfl, by simp [word]⟩

end Grammar

theorem Value.integer_render (n : Int) : Integer n (Text.Utf8.encode (integer n).render) :=
  integer_toString n

namespace Reader

theorem ofDigits_digitValues (digits : Bytes) :
    Number.ofDigits 0 (digitValues digits) = wholeValue digits := List.foldl_map

theorem reads_unsignedNumber {whole : Bytes} (h : Whole whole) (hn : wholeValue whole < UInt64.size)
    (isNegative : Bool)
    (hsign : isNegative = true → wholeValue whole ≠ 0 ∧ Int64.minValue.toInt ≤ -wholeValue whole)
    {rest : Bytes} (hrest : EndsNumber rest) :
    Reads (unsignedNumber isNegative) (whole ++ rest)
      (.integer (if isNegative then -wholeValue whole else wholeValue whole)) rest := by
  have habsorb : Number.absorb UInt64.size 0 (digitValues whole) = (wholeValue whole, []) := by
    rw [← ofDigits_digitValues] at hn ⊢
    exact Number.absorb_of_lt hn
  refine (reads_wholeDigits .endInValue h fun b hb => (hrest b hb).1).bind ?_
  simp only [habsorb]
  refine (reads_fractionDigits?_none .endInValue fun b hb => (hrest b hb).2.1).bind ?_
  refine (reads_exponentSign?_none .endInValue hrest).bind ?_
  cases isNegative with
  | false => exact .pure _ rest
  | true =>
    have hfits := hsign rfl
    change Reads (if wholeValue whole ≠ 0 ∧ Int64.minValue.toInt ≤ -(wholeValue whole : Int) then
      pure (Number.integer (-(wholeValue whole : Int))) else _) _ _ _
    rw [if_pos hfits]
    exact .pure _ rest

theorem reads_number {n : Int} {bytes : Bytes} (h : Integer n bytes)
    (hlow : Int64.minValue.toInt ≤ n) (hhigh : n < UInt64.size) {rest : Bytes}
    (hrest : EndsNumber rest) : Reads number (bytes ++ rest) (.integer n) rest := by
  have hmin : Int64.minValue.toInt = -9223372036854775808 := by decide
  cases h with
  | positive hwhole =>
    have hunsigned := reads_unsignedNumber hwhole (Int.ofNat_lt.mp hhigh) false
      (absurd · Bool.false_ne_true) hrest
    rw [if_neg Bool.false_ne_true] at hunsigned
    refine (reads_peek? _).bind ?_
    split
    · next heq =>
      obtain ⟨d, tail, hdigits, hd⟩ := whole_head hwhole
      rw [hdigits] at heq
      exact absurd (Option.some.inj heq) (ofUInt8_ne (by decide) hd (by decide))
    · exact hunsigned
  | @negative whole hwhole hzero =>
    have hsmall : wholeValue whole < UInt64.size := by
      simp only [UInt64.size]
      omega
    have hunsigned := reads_unsignedNumber hwhole hsmall true (fun _ => ⟨hzero, hlow⟩) hrest
    rw [if_pos rfl] at hunsigned
    exact (reads_peek?_mark (by decide) _).bind ((reads_advance _ _).bind hunsigned)

theorem accepts_int64 {x : Int64} {bytes : Bytes} (h : Integer x.toInt bytes) :
    Accepts int64 bytes x := by
  intro blanks rest hblanks hrest
  have hlow := x.minValue_le_toInt
  have hsmall : x.toInt < UInt64.size := Int.lt_trans x.toInt_lt (by decide)
  have hnumber := reads_number h hlow hsmall hrest
  have hvalue : asInt64 (.integer x.toInt) = .ok x := by
    rw [asInt64, if_pos ⟨hlow, x.toInt_le⟩, Int64.ofInt_toInt]
  obtain ⟨b, tail, rfl, hb⟩ := number_head h.number
  refine (reads_peekSolid? (s := b :: (tail ++ rest)) hblanks ?_).bind ?_
  · intro first hfirst
    cases hfirst
    exact isBlank_of_number hb
  · change Reads (if (Char.ofUInt8 b = '-' || Text.Decimal.isDigit (Char.ofUInt8 b)) = true then _
      else _) _ _ _
    rw [if_pos (opensNumber_of_head hb)]
    refine hnumber.bind ?_
    simp only [hvalue]
    exact .pure x rest

variable {α : Type}

theorem accepts_option {x : Reader α} {a : α} {b : UInt8} {tail : Bytes}
    (hsolid : isBlank b = false) (hnull : b ≠ byte 'n') (h : Accepts x (b :: tail) a) :
    Accepts (option x) (b :: tail) (some a) := by
  intro blanks rest hblanks hrest
  refine (reads_peekSolid? (s := b :: (tail ++ rest)) hblanks (by simpa using hsolid)).bind ?_
  split
  · next heq => exact absurd (Option.some.inj (byte_mem_head? (by decide) heq)) hnull
  · exact (h [] rest Blanks.nil hrest).map some

theorem reads_skipNull (rest : Bytes) :
    Reads (skipLiteral ['u', 'l', 'l']) (Grammar.null ++ rest) () rest := by
  have hletters : Reads (literal ['u', 'l', 'l']) (word ['u', 'l', 'l'] ++ rest) () rest :=
    reads_literal (by decide) rest
  exact (reads_advance _ _).bind hletters

theorem accepts_option_null (x : Reader α) : Accepts (option x) Grammar.null none :=
  fun _ rest hblanks _ => (reads_peekSolid?_mark hblanks (by decide) _).bind
    ((reads_skipNull rest).map fun _ => none)

theorem reads_knownName {known : List (String × α)} {name : String} {a : α}
    (hlookup : known.lookup name = some a) {s rest : Bytes} (h : Reads text s name rest) :
    Reads (knownName known) s a rest := by
  refine h.bind ?_
  simp only [hlookup]
  exact .pure a rest

theorem accepts_choice {known : List (String × α)} {name : String} {a : α}
    (hlookup : known.lookup name = some a) {quoted : Bytes} (hname : Quotes name quoted) :
    Accepts (choice known) quoted a := by
  intro blanks rest hblanks _
  obtain ⟨tail, rfl, htail⟩ := reads_text hname
  exact (reads_peekSolid?_mark hblanks (by decide) _).bind
    ((reads_advance _ _).bind (reads_knownName hlookup (htail rest)))

theorem reads_null (expected : String) {blanks : Bytes} (hblanks : Blanks blanks) (rest : Bytes) :
    Reads (null expected) (blanks ++ (Grammar.null ++ rest)) () rest :=
  (reads_peekSolid?_mark hblanks (by decide) _).bind (reads_skipNull rest)

theorem accepts_choice_object {known : List (String × α)} {name : String} {a : α}
    (hlookup : known.lookup name = some a) {quoted colon inside : Bytes}
    (hname : Quotes name quoted) (hcolon : Mark ':' colon)
    (hpadded : Padded (quoted ++ (colon ++ Grammar.null)) inside) :
    Accepts (choice known) (byte '\x7b' :: (inside ++ [byte '\x7d'])) a := by
  intro blanks rest hblanks _
  obtain ⟨tail, rfl, htail⟩ := reads_text hname
  obtain ⟨before, after, hbefore, hafter, rfl⟩ := hcolon
  obtain ⟨front, behind, hfront, hbehind, rfl⟩ := hpadded
  simp only [List.append_assoc, List.cons_append, List.nil_append]
  refine (reads_peekSolid?_mark hblanks (by decide) _).bind ((reads_advance _ _).bind ?_)
  refine (reads_peekSolid?_mark hfront (by decide) _).bind ((reads_advance _ _).bind ?_)
  refine (reads_knownName hlookup (htail _)).bind ((reads_colon hbefore _).bind ?_)
  refine (reads_null "unit" hafter _).bind ?_
  exact (reads_peekSolid?_mark hbehind (by decide) rest).bind ((reads_advance _ rest).bind
    (.pure a rest))

end Reader

end Gatehouse.Json
