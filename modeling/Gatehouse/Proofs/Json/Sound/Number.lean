import Gatehouse.Proofs.Json.Number
import Gatehouse.Proofs.Json.Sound.Reading

/-! What is passed over as a number is one. -/

namespace Gatehouse.Json.Reader

open Grammar Text.Utf8

variable {s rest : Bytes}

theorem takeDigits_sound {values : List Nat} (h : Reads takeDigits s values rest) :
    ∃ digits, s = digits ++ rest ∧ (∀ b ∈ digits, Grammar.isDigit b) ∧
      values = digitValues digits ∧ ∀ b ∈ rest.head?, ¬Grammar.isDigit b := by
  obtain ⟨_, _, hpeek, h⟩ := h.of_bind
  obtain ⟨hvalues, rfl⟩ := Prod.mk.inj hpeek
  obtain rfl := Except.ok.inj hvalues
  obtain ⟨_, _, hdrop, h⟩ := h.of_bind
  obtain ⟨rfl, rfl⟩ := h.of_pure
  obtain ⟨-, rfl⟩ := Prod.mk.inj hdrop
  rw [List.length_map]
  have hsplit := List.prefix_iff_eq_append.mp (List.takeWhile_prefix (l := s) isDigit)
  have hrest : s.drop (s.takeWhile isDigit).length = s.dropWhile isDigit :=
    List.append_cancel_left (hsplit.trans List.takeWhile_append_dropWhile.symm)
  refine ⟨s.takeWhile isDigit, hsplit.symm, fun b hb => ?_, rfl, fun b hb => ?_⟩
  · exact (isDigit_iff b).mp (List.mem_takeWhile_imp hb)
  · have hhead := List.head?_dropWhile_not isDigit s
    rw [hrest] at hb
    rw [Option.mem_def.mp hb] at hhead
    rw [← isDigit_iff, hhead]
    exact Bool.false_ne_true

theorem startsWithDigit_sound {answer : Bool} (h : Reads startsWithDigit s answer rest) :
    s = rest := by
  obtain ⟨_, _, hpeek, h⟩ := h.of_bind
  obtain ⟨-, rfl⟩ := peek?_sound hpeek
  exact h.of_pure.2

theorem wholeDigits_sound {atEnd : Problem} {values : List Nat}
    (h : Reads (wholeDigits atEnd) s values rest) :
    ∃ whole, Whole whole ∧ s = whole ++ rest ∧ values = digitValues whole := by
  obtain ⟨c, _, hpeek, h⟩ := h.of_bind
  obtain ⟨rfl, rfl⟩ := peek?_sound hpeek
  split at h
  · exact absurd h (Reads.not_of_fault rfl)
  · next hzero =>
    obtain ⟨tail, rfl⟩ := eq_cons_of_head? (by decide) hzero
    replace h := h.of_advance
    obtain ⟨answer, _, hstarts, h⟩ := h.of_bind
    obtain rfl := startsWithDigit_sound hstarts
    split at h
    · exact absurd h (Reads.not_of_fault rfl)
    · obtain ⟨rfl, rfl⟩ := h.of_pure
      exact ⟨[byte '0'], .inl rfl, rfl, rfl⟩
  · next c hzero hc =>
    split at h
    · next hdigit =>
      obtain ⟨digits, rfl, hdigits, rfl, hrest⟩ := takeDigits_sound h
      obtain ⟨b, hb, rfl⟩ := Option.map_eq_some_iff.mp hc
      have hne : digits ≠ [] := by
        rintro rfl
        exact hrest b hb ((decimal_isDigit_iff b).mp hdigit)
      refine ⟨digits, .inr ⟨⟨hne, hdigits⟩, ?_⟩, rfl, rfl⟩
      rw [List.head?_append_of_ne_nil _ hne] at hb
      rw [hb]
      rintro ⟨⟩
      exact hzero rfl
    · obtain ⟨_, _, -, h⟩ := h.of_bind
      exact absurd h (Reads.not_of_fault rfl)

theorem fractionDigits?_sound {atEnd : Problem} {values : Option (List Nat)}
    (h : Reads (fractionDigits? atEnd) s values rest) :
    ∃ fraction, Fraction fraction ∧ s = fraction ++ rest ∧ (values = none → fraction = []) := by
  obtain ⟨c, _, hpeek, h⟩ := h.of_bind
  obtain ⟨rfl, rfl⟩ := peek?_sound hpeek
  split at h
  · next hpoint =>
    obtain ⟨tail, rfl⟩ := eq_cons_of_head? (by decide) hpoint
    replace h := h.of_advance
    obtain ⟨values, middle, htake, h⟩ := h.of_bind
    obtain ⟨digits, hsplit, hdigits, rfl, -⟩ := takeDigits_sound htake
    split at h
    · obtain ⟨_, _, -, h⟩ := h.of_bind
      split at h <;> exact absurd h (Reads.not_of_fault rfl)
    · next hvalues =>
      obtain ⟨rfl, rfl⟩ := h.of_pure
      have hne : digits ≠ [] := by
        rintro rfl
        exact hvalues rfl
      exact ⟨byte '.' :: digits, .inr ⟨digits, ⟨hne, hdigits⟩, rfl⟩,
        congrArg (byte '.' :: ·) hsplit, fun hnone => absurd hnone (Option.some_ne_none _)⟩
  · obtain ⟨-, rfl⟩ := h.of_pure
    exact ⟨[], .inl rfl, rfl, fun _ => rfl⟩

theorem digitAhead_sound {atEnd : Problem} {isNegative : Bool} {sign : Option Bool}
    (h : Reads (digitAhead atEnd isNegative) s sign rest) :
    sign.isSome ∧ s = rest ∧ ∃ b ∈ s.head?, Grammar.isDigit b := by
  obtain ⟨c, _, hpeek, h⟩ := h.of_bind
  obtain ⟨rfl, rfl⟩ := peek?_sound hpeek
  split at h
  · exact absurd h (Reads.not_of_fault rfl)
  · next c hc =>
    split at h
    · next hdigit =>
      obtain ⟨rfl, rfl⟩ := h.of_pure
      obtain ⟨b, hb, rfl⟩ := Option.map_eq_some_iff.mp hc
      exact ⟨rfl, rfl, b, hb, (decimal_isDigit_iff b).mp hdigit⟩
    · obtain ⟨_, _, -, h⟩ := h.of_bind
      exact absurd h (Reads.not_of_fault rfl)

theorem exponentStart_sound {atEnd : Problem} {sign : Option Bool}
    (h : Reads (exponentStart atEnd) s sign rest) :
    ∃ written, written ∈ [[], ['+'], ['-']] ∧ s = word written ++ rest ∧ sign.isSome ∧
      ∃ b ∈ rest.head?, Grammar.isDigit b := by
  obtain ⟨c, _, hpeek, h⟩ := h.of_bind
  obtain ⟨rfl, rfl⟩ := peek?_sound hpeek
  have hsigned {mark : Char} {isNegative : Bool} (hmark : IsMark mark)
      (hc : s.head?.map Char.ofUInt8 = some mark)
      (h : Reads (do advance; digitAhead atEnd isNegative) s sign rest) :
      s = byte mark :: rest ∧ sign.isSome ∧ ∃ b ∈ rest.head?, Grammar.isDigit b := by
    obtain ⟨tail, rfl⟩ := eq_cons_of_head? hmark hc
    replace h := h.of_advance
    obtain ⟨hsome, rfl, hahead⟩ := digitAhead_sound h
    exact ⟨rfl, hsome, hahead⟩
  split at h
  · next hc => exact ⟨['-'], by decide, hsigned (by decide) hc h⟩
  · next hc => exact ⟨['+'], by decide, hsigned (by decide) hc h⟩
  · obtain ⟨hsome, rfl, hahead⟩ := digitAhead_sound h
    exact ⟨[], by decide, rfl, hsome, hahead⟩

theorem exponentSign?_sound {atEnd : Problem} {sign : Option Bool}
    (h : Reads (exponentSign? atEnd) s sign rest) :
    sign = none ∧ s = rest ∨
      ∃ mark written, mark ∈ ['e', 'E'] ∧ written ∈ [[], ['+'], ['-']] ∧ sign.isSome ∧
        s = byte mark :: (word written ++ rest) ∧ ∃ b ∈ rest.head?, Grammar.isDigit b := by
  obtain ⟨c, _, hpeek, h⟩ := h.of_bind
  obtain ⟨rfl, rfl⟩ := peek?_sound hpeek
  have hmarked {mark : Char} (hmark : mark ∈ ['e', 'E']) (hIsMark : IsMark mark)
      (hc : s.head?.map Char.ofUInt8 = some mark)
      (h : Reads (do advance; exponentStart atEnd) s sign rest) :
      ∃ mark written, mark ∈ ['e', 'E'] ∧ written ∈ [[], ['+'], ['-']] ∧ sign.isSome ∧
        s = byte mark :: (word written ++ rest) ∧ ∃ b ∈ rest.head?, Grammar.isDigit b := by
    obtain ⟨tail, rfl⟩ := eq_cons_of_head? hIsMark hc
    replace h := h.of_advance
    obtain ⟨written, hwritten, htail, hsome, hahead⟩ := exponentStart_sound h
    exact ⟨mark, written, hmark, hwritten, hsome, congrArg (byte mark :: ·) htail, hahead⟩
  split at h
  · next hc => exact .inr (hmarked (by decide) (by decide) hc h)
  · next hc => exact .inr (hmarked (by decide) (by decide) hc h)
  · obtain ⟨rfl, rfl⟩ := h.of_pure
    exact .inl ⟨rfl, rfl⟩

theorem skipUnsigned_sound {u : Unit} (h : Reads skipUnsigned s u rest) :
    ∃ whole fraction exponent, Whole whole ∧ Fraction fraction ∧ Exponent exponent ∧
      s = whole ++ (fraction ++ (exponent ++ rest)) := by
  obtain ⟨_, _, hreadWhole, hmore⟩ := h.of_bind
  obtain ⟨_, _, hreadFraction, hmore⟩ := hmore.of_bind
  obtain ⟨_, _, hreadExponent, hend⟩ := hmore.of_bind
  obtain ⟨whole, hwhole, hs, -⟩ := wholeDigits_sound hreadWhole
  obtain ⟨fraction, hfraction, hbehind, -⟩ := fractionDigits?_sound hreadFraction
  rw [hs, hbehind]
  obtain ⟨rfl, rfl⟩ | ⟨mark, written, hmark, hwritten, hsome, rfl, hahead⟩ :=
    exponentSign?_sound hreadExponent
  · obtain ⟨-, rfl⟩ := hend.of_pure
    exact ⟨whole, fraction, [], hwhole, hfraction, .inl rfl, rfl⟩
  · rw [if_pos hsome] at hend
    obtain ⟨_, _, htake, hend⟩ := hend.of_bind
    obtain ⟨-, rfl⟩ := hend.of_pure
    obtain ⟨digits, rfl, hdigits, -, hrest⟩ := takeDigits_sound htake
    have hne : digits ≠ [] := by
      rintro rfl
      obtain ⟨b, hb, hdigit⟩ := hahead
      exact hrest b hb hdigit
    refine ⟨whole, fraction, byte mark :: (word written ++ digits), hwhole, hfraction,
      .inr ⟨mark, written, digits, hmark, hwritten, ⟨hne, hdigits⟩, rfl⟩, ?_⟩
    rw [List.cons_append, List.append_assoc]

theorem skipNumber_sound {u : Unit} (h : Reads skipNumber s u rest) :
    ∃ number, Grammar.Number number ∧ s = number ++ rest := by
  obtain ⟨c, _, hpeek, h⟩ := h.of_bind
  obtain ⟨rfl, rfl⟩ := peek?_sound hpeek
  -- What follows the sign is the same with and without one.
  change Reads (if s.head?.map Char.ofUInt8 = some '-' then do advance; skipUnsigned
    else skipUnsigned) s u rest at h
  split at h
  · next hsign =>
    obtain ⟨tail, rfl⟩ := eq_cons_of_head? (by decide) hsign
    replace h := h.of_advance
    obtain ⟨whole, fraction, exponent, hwhole, hfraction, hexponent, htail⟩ := skipUnsigned_sound h
    refine ⟨_, ⟨['-'], whole, fraction, exponent, by decide, hwhole, hfraction, hexponent, rfl⟩, ?_⟩
    rw [List.tail_cons] at htail
    simp [htail, word]
  · obtain ⟨whole, fraction, exponent, hwhole, hfraction, hexponent, rfl⟩ := skipUnsigned_sound h
    refine ⟨_, ⟨[], whole, fraction, exponent, by decide, hwhole, hfraction, hexponent, rfl⟩, ?_⟩
    simp [word]

theorem ascii_of_digits {digits : Bytes} (h : ∀ b ∈ digits, Grammar.isDigit b) : Ascii digits :=
  fun b hb => Nat.lt_of_le_of_lt (UInt8.le_iff_toNat_le.mp (h b hb).2) (by decide)

theorem ascii_of_whole {whole : Bytes} (h : Whole whole) : Ascii whole := by
  rcases h with rfl | ⟨⟨-, hdigits⟩, -⟩
  · decide
  · exact ascii_of_digits hdigits

theorem ascii_of_fraction {fraction : Bytes} (h : Fraction fraction) : Ascii fraction := by
  rcases h with rfl | ⟨digits, ⟨-, hdigits⟩, rfl⟩
  · exact List.forall_mem_nil _
  · exact .cons (by decide) (ascii_of_digits hdigits)

theorem ascii_of_sign {sign : List Char} (h : sign ∈ [[], ['+'], ['-']]) : Ascii (word sign) := by
  simp only [List.mem_cons, List.not_mem_nil, or_false] at h
  rcases h with rfl | rfl | rfl <;> decide

theorem ascii_of_exponent {exponent : Bytes} (h : Exponent exponent) : Ascii exponent := by
  rcases h with rfl | ⟨mark, sign, digits, hmark, hsign, ⟨-, hdigits⟩, rfl⟩
  · exact List.forall_mem_nil _
  · have hbyte : (byte mark).toNat < 128 := by
      simp only [List.mem_cons, List.not_mem_nil, or_false] at hmark
      rcases hmark with rfl | rfl <;> decide
    exact .cons hbyte ((ascii_of_sign hsign).append (ascii_of_digits hdigits))

theorem ascii_of_number {number : Bytes} (h : Grammar.Number number) : Ascii number := by
  obtain ⟨sign, whole, fraction, exponent, hsign, hwhole, hfraction, hexponent, rfl⟩ := h
  have hany : sign ∈ [[], ['+'], ['-']] := List.cons_subset_cons _ (List.subset_cons_self _ _) hsign
  exact (ascii_of_sign hany).append ((ascii_of_whole hwhole).append
    ((ascii_of_fraction hfraction).append (ascii_of_exponent hexponent)))

end Gatehouse.Json.Reader
