import Gatehouse.Json.Number
import Gatehouse.Proofs.Json.Reading

/-! Every number is passed over in full, provided that what follows it cannot be taken for a part of
it. -/

namespace Gatehouse.Json.Reader

open Grammar

def EndsNumber (rest : Bytes) : Prop :=
  ∀ b ∈ rest.head?, ¬Grammar.isDigit b ∧ b ≠ byte '.' ∧ b ≠ byte 'e' ∧ b ≠ byte 'E'

theorem endsNumber_nil : EndsNumber [] := fun _ h => absurd h (Option.not_mem_none _)

theorem isDigit_iff (b : UInt8) : isDigit b = true ↔ Grammar.isDigit b := by
  rw [isDigit, Bool.and_eq_true, decide_eq_true_eq, decide_eq_true_eq]
  rfl

theorem decimal_isDigit_iff (b : UInt8) :
    Text.Decimal.isDigit (Char.ofUInt8 b) = true ↔ Grammar.isDigit b := by
  rw [Text.Decimal.isDigit, Bool.and_eq_true, decide_eq_true_eq, decide_eq_true_eq,
    Grammar.isDigit, UInt8.le_iff_toNat_le, UInt8.le_iff_toNat_le]
  rfl

def digitValues (digits : Bytes) : List Nat := digits.map fun b => b.toNat - 48

theorem reads_takeDigits {digits rest : Bytes} (hdigits : ∀ b ∈ digits, Grammar.isDigit b)
    (hrest : ∀ b ∈ rest.head?, ¬Grammar.isDigit b) :
    Reads takeDigits (digits ++ rest) (digitValues digits) rest := by
  have htake : (digits ++ rest).takeWhile isDigit = digits :=
    Except.ok.inj (congrArg Prod.fst (reads_takeWhile
      (fun b hb => (isDigit_iff b).mpr (hdigits b hb))
      fun b hb => Bool.eq_false_iff.mpr ((isDigit_iff b).not.mpr (hrest b hb))))
  have hpeek : Reads peekDigits (digits ++ rest) (digitValues digits) (digits ++ rest) := by
    rw [Reads, peekDigits, htake, digitValues]
  have hdrop : Reads (drop (digitValues digits).length) (digits ++ rest) () rest := by
    rw [Reads, drop, digitValues, List.length_map, List.drop_left]
  exact hpeek.bind (hdrop.bind (.pure _ rest))

theorem reads_startsWithDigit {rest : Bytes} (h : ∀ b ∈ rest.head?, ¬Grammar.isDigit b) :
    Reads startsWithDigit rest false rest := by
  have hnone : ((rest.head?.map Char.ofUInt8).map Text.Decimal.isDigit).getD false = false := by
    cases rest with
    | nil => rfl
    | cons b rest => exact Bool.eq_false_iff.mpr ((decimal_isDigit_iff b).not.mpr (h b rfl))
  have hread := (reads_peek? rest).map fun c => (c.map Text.Decimal.isDigit).getD false
  rwa [hnone] at hread

theorem reads_wholeDigits (atEnd : Problem) {whole rest : Bytes} (h : Whole whole)
    (hrest : ∀ b ∈ rest.head?, ¬Grammar.isDigit b) :
    Reads (wholeDigits atEnd) (whole ++ rest) (digitValues whole) rest := by
  rcases h with rfl | ⟨⟨hne, hdigits⟩, hzero⟩
  · refine (reads_peek?_mark (by decide) rest).bind ((reads_advance _ rest).bind ?_)
    exact (reads_startsWithDigit hrest).bind (.pure [0] rest)
  · have htake := reads_takeDigits hdigits hrest
    refine (reads_peek? _).bind ?_
    cases whole with
    | nil => exact absurd rfl hne
    | cons b whole =>
      have hb : Text.Decimal.isDigit (Char.ofUInt8 b) = true :=
        (decimal_isDigit_iff b).mpr (hdigits b List.mem_cons_self)
      -- A zero would stand alone, so the whole part opens with another digit.
      split
      · next heq => cases heq
      · next heq =>
        have hchar : Char.ofUInt8 b = '0' := Option.some.inj heq
        exact absurd (congrArg some (eq_byte (by decide) hchar)) hzero
      · next heq =>
        cases heq
        rw [if_pos hb]
        exact htake

theorem reads_fractionDigits?_none (atEnd : Problem) {rest : Bytes}
    (hrest : ∀ b ∈ rest.head?, b ≠ byte '.') : Reads (fractionDigits? atEnd) rest none rest := by
  refine (reads_peek? rest).bind ?_
  split
  · next heq => exact absurd rfl (hrest _ (byte_mem_head? (by decide) heq))
  · exact .pure none rest

theorem reads_fractionDigits? (atEnd : Problem) {fraction rest : Bytes} (h : Fraction fraction)
    (hrest : ∀ b ∈ rest.head?, ¬Grammar.isDigit b ∧ b ≠ byte '.') :
    ∃ values, Reads (fractionDigits? atEnd) (fraction ++ rest) values rest := by
  rcases h with rfl | ⟨digits, ⟨hne, hdigits⟩, rfl⟩
  · exact ⟨none, reads_fractionDigits?_none atEnd fun b hb => (hrest b hb).2⟩
  · have htake := reads_takeDigits hdigits fun b hb => (hrest b hb).1
    have hvalues : digitValues digits ≠ [] := List.map_eq_nil_iff.not.mpr hne
    refine ⟨some (digitValues digits),
      (reads_peek?_mark (by decide) _).bind ((reads_advance _ _).bind ?_)⟩
    refine htake.bind ?_
    rw [if_neg (List.isEmpty_iff.not.mpr hvalues)]
    exact .pure (some (digitValues digits)) rest

-- The reader of an exponent's sign is followed in two parts that have no names of their own in it.

def digitAhead (atEnd : Problem) (isNegative : Bool) : Reader (Option Bool) := do
  match ← peek? with
  | none => fail atEnd
  | some c =>
    if Text.Decimal.isDigit c then return some isNegative
    else do
      advance
      fail .invalidNumber

def exponentStart (atEnd : Problem) : Reader (Option Bool) := do
  match ← peek? with
  | some '-' => do advance; digitAhead atEnd true
  | some '+' => do advance; digitAhead atEnd false
  | _ => digitAhead atEnd false

theorem reads_digitAhead (atEnd : Problem) (isNegative : Bool) {d : UInt8}
    (hd : Grammar.isDigit d) (rest : Bytes) :
    Reads (digitAhead atEnd isNegative) (d :: rest) (some isNegative) (d :: rest) := by
  refine (reads_peek? _).bind ?_
  change Reads (if Text.Decimal.isDigit (Char.ofUInt8 d) = true then pure (some isNegative) else _)
    _ _ _
  rw [if_pos ((decimal_isDigit_iff d).mpr hd)]
  exact .pure _ _

theorem reads_exponentSign?_mark (atEnd : Problem) {mark : Char} (hmark : mark ∈ ['e', 'E'])
    {s rest : Bytes} {isNegative : Bool}
    (h : Reads (exponentStart atEnd) s (some isNegative) rest) :
    Reads (exponentSign? atEnd) (byte mark :: s) (some isNegative) rest := by
  simp only [List.mem_cons, List.not_mem_nil, or_false] at hmark
  rcases hmark with rfl | rfl
  · exact (reads_peek?_mark (by decide) s).bind ((reads_advance _ s).bind h)
  · exact (reads_peek?_mark (by decide) s).bind ((reads_advance _ s).bind h)

theorem reads_exponentStart (atEnd : Problem) {sign : List Char} {digits : Bytes}
    (hsign : sign ∈ [[], ['+'], ['-']]) (hdigits : Digits digits) (rest : Bytes) :
    ∃ isNegative, Reads (exponentStart atEnd) (word sign ++ (digits ++ rest)) (some isNegative)
      (digits ++ rest) := by
  obtain ⟨hne, hall⟩ := hdigits
  cases digits with
  | nil => exact absurd rfl hne
  | cons d digits =>
    have hd : Grammar.isDigit d := hall d List.mem_cons_self
    have hahead := fun isNegative => reads_digitAhead atEnd isNegative hd (digits ++ rest)
    simp only [List.mem_cons, List.not_mem_nil, or_false] at hsign
    rcases hsign with rfl | rfl | rfl
    · refine ⟨false, (reads_peek? _).bind ?_⟩
      split
      · next heq => exact absurd (Option.some.inj heq) (ofUInt8_ne (by decide) hd (by decide))
      · next heq => exact absurd (Option.some.inj heq) (ofUInt8_ne (by decide) hd (by decide))
      · exact hahead false
    · exact ⟨false, (reads_peek?_mark (by decide) _).bind ((reads_advance _ _).bind (hahead false))⟩
    · exact ⟨true, (reads_peek?_mark (by decide) _).bind ((reads_advance _ _).bind (hahead true))⟩

theorem reads_exponentSign?_none (atEnd : Problem) {rest : Bytes} (hrest : EndsNumber rest) :
    Reads (exponentSign? atEnd) rest none rest := by
  refine (reads_peek? rest).bind ?_
  split
  · next heq => exact absurd rfl (hrest _ (byte_mem_head? (by decide) heq)).2.2.1
  · next heq => exact absurd rfl (hrest _ (byte_mem_head? (by decide) heq)).2.2.2
  · exact .pure none rest

theorem reads_exponentSign? (atEnd : Problem) {exponent rest : Bytes} (h : Exponent exponent)
    (hrest : EndsNumber rest) :
    exponent = [] ∧ Reads (exponentSign? atEnd) rest none rest ∨
      ∃ isNegative digits, Digits digits ∧
        Reads (exponentSign? atEnd) (exponent ++ rest) (some isNegative) (digits ++ rest) := by
  rcases h with rfl | ⟨mark, sign, digits, hmark, hsign, hdigits, rfl⟩
  · exact .inl ⟨rfl, reads_exponentSign?_none atEnd hrest⟩
  · obtain ⟨isNegative, hstart⟩ := reads_exponentStart atEnd hsign hdigits rest
    refine .inr ⟨isNegative, digits, hdigits, ?_⟩
    rw [List.cons_append, List.append_assoc]
    exact reads_exponentSign?_mark atEnd hmark hstart

theorem head?_exponent_append {exponent rest : Bytes} (h : Exponent exponent)
    (hrest : EndsNumber rest) :
    ∀ b ∈ (exponent ++ rest).head?, ¬Grammar.isDigit b ∧ b ≠ byte '.' := by
  rcases h with rfl | ⟨mark, sign, digits, hmark, -, -, rfl⟩
  · exact fun b hb => ⟨(hrest b hb).1, (hrest b hb).2.1⟩
  · intro b hb
    cases hb
    simp only [List.mem_cons, List.not_mem_nil, or_false] at hmark
    rcases hmark with rfl | rfl <;> decide

theorem head?_fraction_append {fraction rest : Bytes} (h : Fraction fraction)
    (hrest : ∀ b ∈ rest.head?, ¬Grammar.isDigit b) :
    ∀ b ∈ (fraction ++ rest).head?, ¬Grammar.isDigit b := by
  rcases h with rfl | ⟨digits, -, rfl⟩
  · exact hrest
  · intro b hb
    cases hb
    decide

def skipUnsigned : Reader Unit := do
  let _ ← wholeDigits .invalidNumber
  let _ ← fractionDigits? .invalidNumber
  if (← exponentSign? .invalidNumber).isSome then
    let _ ← takeDigits

theorem reads_skipUnsigned {whole fraction exponent rest : Bytes} (hwhole : Whole whole)
    (hfraction : Fraction fraction) (hexponent : Exponent exponent) (hrest : EndsNumber rest) :
    Reads skipUnsigned (whole ++ (fraction ++ (exponent ++ rest))) () rest := by
  have hbehindFraction := head?_exponent_append hexponent hrest
  have hbehindWhole := head?_fraction_append hfraction fun b hb => (hbehindFraction b hb).1
  have hreadWhole := reads_wholeDigits .invalidNumber hwhole hbehindWhole
  obtain ⟨fractionValues, hreadFraction⟩ :=
    reads_fractionDigits? .invalidNumber hfraction hbehindFraction
  refine hreadWhole.bind (hreadFraction.bind ?_)
  -- Only behind a mark are there digits left to take.
  obtain ⟨rfl, hread⟩ | ⟨isNegative, digits, hdigits, hread⟩ :=
    reads_exponentSign? .invalidNumber hexponent hrest
  · exact hread.bind (.pure () rest)
  · have htake := reads_takeDigits hdigits.2 fun b hb => (hrest b hb).1
    exact hread.bind (htake.bind (.pure () rest))

theorem whole_head {whole : Bytes} (h : Whole whole) :
    ∃ d digits, whole = d :: digits ∧ Grammar.isDigit d := by
  rcases h with rfl | ⟨⟨hne, hall⟩, -⟩
  · exact ⟨byte '0', [], rfl, by decide⟩
  · cases whole with
    | nil => exact absurd rfl hne
    | cons d digits => exact ⟨d, digits, rfl, hall d List.mem_cons_self⟩

theorem number_head {bytes : Bytes} (h : Grammar.Number bytes) :
    ∃ b tail, bytes = b :: tail ∧ (b = byte '-' ∨ Grammar.isDigit b) := by
  obtain ⟨sign, whole, fraction, exponent, hsign, hwhole, -, -, rfl⟩ := h
  simp only [List.mem_cons, List.not_mem_nil, or_false] at hsign
  rcases hsign with rfl | rfl
  · obtain ⟨d, digits, rfl, hd⟩ := whole_head hwhole
    exact ⟨d, _, rfl, .inr hd⟩
  · exact ⟨byte '-', _, rfl, .inl rfl⟩

theorem ne_mark_of_number {b : UInt8} (hb : b = byte '-' ∨ Grammar.isDigit b) {c : Char}
    (hmark : IsMark c) (hc : ¬(byte c = byte '-' ∨ Grammar.isDigit (byte c))) :
    some (Char.ofUInt8 b) ≠ some c := fun heq =>
  ofUInt8_ne hmark (p := fun b => b = byte '-' ∨ Grammar.isDigit b) hb hc (Option.some.inj heq)

theorem opensNumber_of_head {b : UInt8} (h : b = byte '-' ∨ Grammar.isDigit b) :
    (Char.ofUInt8 b = '-' || Text.Decimal.isDigit (Char.ofUInt8 b)) = true := by
  rw [Bool.or_eq_true, decide_eq_true_eq]
  rcases h with rfl | hdigit
  · exact .inl rfl
  · exact .inr ((decimal_isDigit_iff b).mpr hdigit)

theorem reads_skipNumber {bytes rest : Bytes} (h : Grammar.Number bytes) (hrest : EndsNumber rest) :
    Reads skipNumber (bytes ++ rest) () rest := by
  obtain ⟨sign, whole, fraction, exponent, hsign, hwhole, hfraction, hexponent, rfl⟩ := h
  have hunsigned := reads_skipUnsigned hwhole hfraction hexponent hrest
  simp only [List.append_assoc]
  simp only [List.mem_cons, List.not_mem_nil, or_false] at hsign
  rcases hsign with rfl | rfl
  · obtain ⟨d, digits, rfl, hd⟩ := whole_head hwhole
    have hplain : Char.ofUInt8 d ≠ '-' := ofUInt8_ne (by decide) hd (by decide)
    refine (reads_peek? _).bind ?_
    -- What follows the sign is the same with and without one.
    change Reads (if some (Char.ofUInt8 d) = some '-' then _ else skipUnsigned) _ _ _
    rw [if_neg fun heq => hplain (Option.some.inj heq)]
    exact hunsigned
  · exact (reads_peek?_mark (by decide) _).bind ((reads_advance _ _).bind hunsigned)

end Gatehouse.Json.Reader
