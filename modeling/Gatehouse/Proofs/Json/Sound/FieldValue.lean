import Gatehouse.Proofs.Json.FieldValue
import Gatehouse.Proofs.Json.Sound.Record

/-! What is read as the value of a field is one of the texts that stand for it, and the reader has
taken just this text. -/

namespace Gatehouse.Json

open Grammar Text.Utf8

theorem Number.eq_ofDigits_of_absorb {bound n m : Nat} {digits : List Nat}
    (h : absorb bound n digits = (m, [])) : m = ofDigits n digits := by
  induction digits generalizing n with
  | nil => exact (Prod.mk.inj h).1.symm
  | cons d digits ih =>
    rw [absorb] at h
    split at h
    · exact ih h
    · cases (Prod.mk.inj h).2

namespace Reader

variable {α β : Type} {s rest : Bytes}

theorem unsignedNumber_sound {isNegative : Bool} {n : Int}
    (h : Reads (unsignedNumber isNegative) s (.integer n) rest) :
    ∃ whole, Whole whole ∧ s = whole ++ rest ∧
      (isNegative = false ∧ n = wholeValue whole ∨
        isNegative = true ∧ wholeValue whole ≠ 0 ∧ n = -wholeValue whole) := by
  obtain ⟨values, afterWhole, hreadWhole, hmore⟩ := h.of_bind
  obtain ⟨whole, hwhole, hs, hvalues⟩ := wholeDigits_sound hreadWhole
  cases habsorb : Number.absorb UInt64.size 0 values with
  | mk significand left =>
    simp only [habsorb] at hmore
    obtain ⟨fraction?, _, hreadFraction, hmore⟩ := hmore.of_bind
    obtain ⟨fraction, -, hbehind, hnone⟩ := fractionDigits?_sound hreadFraction
    obtain ⟨sign, _, hreadSign, hend⟩ := hmore.of_bind
    cases sign with
    | some toLeft =>
      obtain ⟨_, _, hnumber⟩ := hend.of_map
      cases hnumber
    | none =>
      obtain ⟨-, rfl⟩ | ⟨_, _, -, -, hsome, -⟩ := exponentSign?_sound hreadSign
      · dsimp only at hend
        split at hend
        · next hplain =>
          rw [Bool.and_eq_true, Option.isNone_iff_eq_none, List.isEmpty_iff] at hplain
          obtain ⟨rfl, rfl⟩ := hplain
          obtain rfl := hnone rfl
          obtain rfl : significand = wholeValue whole := by
            rw [Number.eq_ofDigits_of_absorb habsorb, hvalues, ofDigits_digitValues]
          change Reads (if (!isNegative) = true then pure (Number.integer (wholeValue whole))
            else if wholeValue whole ≠ 0 ∧ Int64.minValue.toInt ≤ -(wholeValue whole : Int) then
              pure (Number.integer (-(wholeValue whole : Int)))
            else pure (Number.real (-(wholeValue whole).toFloat))) _ _ _ at hend
          rw [hbehind, List.nil_append] at hs
          cases isNegative with
          | false =>
            obtain ⟨hnumber, rfl⟩ := hend.of_pure
            exact ⟨whole, hwhole, hs, .inl ⟨rfl, (Number.integer.inj hnumber).symm⟩⟩
          | true =>
            rw [if_neg (by decide)] at hend
            split at hend
            · next hfits =>
              obtain ⟨hnumber, rfl⟩ := hend.of_pure
              exact ⟨whole, hwhole, hs, .inr ⟨rfl, hfits.1, (Number.integer.inj hnumber).symm⟩⟩
            · obtain ⟨hnumber, -⟩ := hend.of_pure
              cases hnumber
        · split at hend
          · obtain ⟨hnumber, -⟩ := hend.of_pure
            cases hnumber
          · exact absurd hend (Reads.not_of_fault rfl)
      · cases hsome

theorem number_sound {n : Int} (h : Reads number s (.integer n) rest) :
    ∃ bytes, Integer n bytes ∧ s = bytes ++ rest := by
  obtain ⟨c, _, hpeek, hmore⟩ := h.of_bind
  obtain ⟨rfl, rfl⟩ := peek?_sound hpeek
  split at hmore
  · next hsign =>
    obtain ⟨tail, rfl⟩ := eq_cons_of_head? (by decide) hsign
    obtain ⟨whole, hwhole, htail, ⟨hpositive, -⟩ | ⟨-, hzero, rfl⟩⟩ :=
      unsignedNumber_sound hmore.of_advance
    · cases hpositive
    · exact ⟨_, .negative hwhole hzero, congrArg (byte '-' :: ·) htail⟩
  · obtain ⟨whole, hwhole, hs, ⟨-, rfl⟩ | ⟨hnegative, -⟩⟩ := unsignedNumber_sound hmore
    · exact ⟨whole, .positive hwhole, hs⟩
    · cases hnegative

theorem asInt64_sound {number : Number} {x : Int64} (h : asInt64 number = .ok x) :
    number = .integer x.toInt := by
  cases number with
  | real => cases h
  | integer n =>
    rw [asInt64] at h
    split at h
    · next hrange =>
      obtain rfl := Except.ok.inj h
      rw [Int64.toInt_ofInt_of_le hrange.1 (Int.lt_add_one_of_le hrange.2)]
    · cases h

theorem int64_sound {x : Int64} (h : Reads int64 s x rest) :
    ∃ blanks bytes, Blanks blanks ∧ Integer x.toInt bytes ∧ s = blanks ++ (bytes ++ rest) := by
  obtain ⟨c, _, hpeek, hmore⟩ := h.of_bind
  obtain ⟨blanks, hblanks, rfl, -⟩ := peekSolid?_sound hpeek
  split at hmore
  · exact absurd hmore (Reads.not_of_fault rfl)
  · split at hmore
    · obtain ⟨number, _, hnumber, hvalue⟩ := hmore.of_bind
      cases hread : asInt64 number with
      | error problem =>
        rw [hread] at hvalue
        exact absurd hvalue (Reads.not_of_fault rfl)
      | ok y =>
        rw [hread] at hvalue
        obtain ⟨rfl, rfl⟩ := hvalue.of_pure
        obtain rfl := asInt64_sound hread
        obtain ⟨bytes, hinteger, rfl⟩ := number_sound hnumber
        exact ⟨blanks, bytes, hblanks, hinteger, rfl⟩
    · exact absurd hmore wrongType_sound

theorem skipNull_sound {u : Unit} {tail : Bytes}
    (h : Reads (skipLiteral ['u', 'l', 'l']) (byte 'n' :: tail) u rest) :
    byte 'n' :: tail = Grammar.null ++ rest :=
  congrArg (byte 'n' :: ·) (literal_sound (by decide) h.of_advance)

theorem null_sound {expected : String} {u : Unit} (h : Reads (null expected) s u rest) :
    ∃ blanks, Blanks blanks ∧ s = blanks ++ (Grammar.null ++ rest) := by
  obtain ⟨c, _, hpeek, hmore⟩ := h.of_bind
  split at hmore
  · exact absurd hmore (Reads.not_of_fault rfl)
  · obtain ⟨blanks, tail, hblanks, rfl, rfl⟩ := peekSolid?_mark_sound (by decide) hpeek
    exact ⟨blanks, hblanks, congrArg (blanks ++ ·) (skipNull_sound hmore)⟩
  · exact absurd hmore wrongType_sound

theorem knownName_sound {known : List (String × α)} {a : α}
    (h : Reads (knownName known) s a rest) :
    ∃ name tail, known.lookup name = some a ∧ Quotes name (byte '"' :: tail) ∧
      s = tail ++ rest := by
  obtain ⟨name, _, htext, hmore⟩ := h.of_bind
  obtain ⟨tail, rfl, hquotes⟩ := text_sound htext
  split at hmore
  · next hlookup =>
    obtain ⟨rfl, rfl⟩ := hmore.of_pure
    exact ⟨name, tail, hlookup, hquotes, rfl⟩
  · exact absurd hmore (Reads.not_of_fault rfl)

theorem choice_sound {known : List (String × α)} {a : α} (h : Reads (choice known) s a rest) :
    ∃ name blanks bytes, known.lookup name = some a ∧ Blanks blanks ∧ Variant name bytes ∧
      s = blanks ++ (bytes ++ rest) := by
  obtain ⟨c, _, hpeek, hmore⟩ := h.of_bind
  split at hmore
  · exact absurd hmore (Reads.not_of_fault rfl)
  · obtain ⟨blanks, tail, hblanks, rfl, rfl⟩ := peekSolid?_mark_sound (by decide) hpeek
    obtain ⟨name, quoted, hlookup, hquotes, htail⟩ := knownName_sound hmore.of_advance
    rw [List.tail_cons] at htail
    exact ⟨name, blanks, _, hlookup, hblanks, .text hquotes, by rw [htail, List.cons_append]⟩
  · obtain ⟨blanks, tail, hblanks, rfl, rfl⟩ := peekSolid?_mark_sound (by decide) hpeek
    obtain ⟨first, _, hfirst, hobject⟩ := hmore.of_advance.of_bind
    rw [List.tail_cons] at hfirst
    split at hobject
    · exact absurd hobject (Reads.not_of_fault rfl)
    · exact absurd hobject (Reads.not_of_fault rfl)
    · obtain ⟨front, more, hfront, rfl, rfl⟩ := peekSolid?_mark_sound (by decide) hfirst
      obtain ⟨b, afterName, hname, hbehindName⟩ := hobject.of_advance.of_bind
      obtain ⟨_, afterColon, hcolon, hbehindColon⟩ := hbehindName.of_bind
      obtain ⟨_, afterNull, hnull, hbehindNull⟩ := hbehindColon.of_bind
      obtain ⟨last, _, hlast, hend⟩ := hbehindNull.of_bind
      obtain ⟨name, quoted, hlookup, hquotes, hsplit⟩ := knownName_sound hname
      obtain ⟨before, hbefore, rfl⟩ := colon_sound hcolon
      obtain ⟨after, hafter, rfl⟩ := null_sound hnull
      rw [List.tail_cons] at hsplit
      split at hend
      · exact absurd hend (Reads.not_of_fault rfl)
      · obtain ⟨behind, tail, hbehind, rfl, rfl⟩ := peekSolid?_mark_sound (by decide) hlast
        obtain ⟨rfl, rfl⟩ := hend.of_advance.of_pure
        have hmark : Mark ':' (before ++ ([byte ':'] ++ after)) :=
          ⟨before, after, hbefore, hafter, rfl⟩
        refine ⟨name, blanks, _, hlookup, hblanks,
          .object hquotes hmark ⟨front, behind, hfront, hbehind, rfl⟩, ?_⟩
        simp [hsplit]
      · exact absurd hend (Reads.not_of_fault rfl)
    · exact absurd hobject (Reads.not_of_fault rfl)
  · exact absurd hmore (Reads.not_of_fault rfl)

/-- A reader that reads exactly the texts that mean something to it, and takes no more of the input
than such a text and the blanks before it. -/
structure Recognises (x : Reader α) (means : α → Bytes → Prop) : Prop where
  derives {a : α} {bytes : Bytes} (h : means a bytes) : Derives .value bytes
  accepts {a : α} {bytes : Bytes} (h : means a bytes) : Accepts x bytes a
  sound {a : α} {s rest : Bytes} (h : Reads x s a rest) :
    ∃ blanks bytes, Blanks blanks ∧ means a bytes ∧ s = blanks ++ (bytes ++ rest)

theorem recognises_string : Recognises string Quotes where
  derives h := .text h.quoted
  accepts := accepts_string
  sound := string_sound

theorem recognises_int64 : Recognises int64 fun x => Integer x.toInt where
  derives h := .number h.number
  accepts := accepts_int64
  sound := int64_sound

theorem recognises_option {x : Reader α} {means : α → Bytes → Prop} (hx : Recognises x means)
    (hnull : ∀ {a bytes}, means a bytes → bytes.head? ≠ some (byte 'n')) :
    Recognises (option x) (OrNull means) where
  derives {a bytes} h := by
    cases a with
    | none =>
      obtain rfl : bytes = Grammar.null := h
      exact .literal (by decide)
    | some a => exact hx.derives h
  accepts {a bytes} h := by
    cases a with
    | none =>
      obtain rfl : bytes = Grammar.null := h
      exact accepts_option_null x
    | some a =>
      have hhead := hnull h
      obtain ⟨b, tail, rfl, hsolid, -⟩ := value_head (hx.derives h)
      exact accepts_option (Bool.eq_false_iff.mpr (by simpa using hsolid))
        (fun hb => hhead (congrArg some hb)) (hx.accepts h)
  sound {a s rest} h := by
    obtain ⟨c, _, hpeek, hmore⟩ := h.of_bind
    split at hmore
    · obtain ⟨blanks, tail, hblanks, rfl, rfl⟩ := peekSolid?_mark_sound (by decide) hpeek
      obtain ⟨_, hskip, rfl⟩ := hmore.of_map
      exact ⟨blanks, _, hblanks, rfl, congrArg (blanks ++ ·) (skipNull_sound hskip)⟩
    · obtain ⟨blanks, hblanks, rfl, -⟩ := peekSolid?_sound hpeek
      obtain ⟨a, hread, rfl⟩ := hmore.of_map
      obtain ⟨gap, bytes, hgap, hmeans, rfl⟩ := hx.sound hread
      exact ⟨blanks ++ gap, bytes, List.forall_mem_append.mpr ⟨hblanks, hgap⟩, hmeans, by simp⟩

theorem recognises_choice {known : List (String × α)} {name : α → String}
    (h : ∀ text a, known.lookup text = some a ↔ name a = text) :
    Recognises (choice known) fun a => Variant (name a) where
  derives h := by
    cases h with
    | text hquotes => exact .text hquotes.quoted
    | object hquotes hcolon hpadded =>
      exact .object (.member hquotes.quoted hcolon (.literal (by decide))) hpadded
  accepts {a bytes} hvariant := by
    have hlookup := (h (name a) a).mpr rfl
    cases hvariant with
    | text hquotes => exact accepts_choice hlookup hquotes
    | object hquotes hcolon hpadded => exact accepts_choice_object hlookup hquotes hcolon hpadded
  sound hread := by
    obtain ⟨text, blanks, bytes, hlookup, hblanks, hvariant, hs⟩ := choice_sound hread
    obtain rfl := (h text _).mp hlookup
    exact ⟨blanks, bytes, hblanks, hvariant, hs⟩

end Reader

end Gatehouse.Json
