import Gatehouse.Proofs.Text.Utf8

/-! Bytes that need not be a text, read as the text that they come nearest to: where no character
stands, a replacement for one byte does. Texts are left as they are, and so is every ASCII byte,
so bytes may be mended one run after the other where ASCII bytes divide them. -/

namespace Gatehouse.Text.Utf8

open String (utf8EncodeChar)

def chars (cs : List Char) : Bytes := cs.flatMap utf8EncodeChar

theorem chars_cons (c : Char) (cs : List Char) : chars (c :: cs) = utf8EncodeChar c ++ chars cs :=
  List.flatMap_cons

theorem first?_encodeChar_append (c : Char) (rest : Bytes) :
    first? (utf8EncodeChar c ++ rest) = some c := by
  have hlength : (utf8EncodeChar c).length ≤ 4 := by
    rw [String.length_utf8EncodeChar]
    exact c.utf8Size_le_four
  rw [first?, List.take_append, List.take_of_length_le hlength, List.toByteArray_append]
  exact ByteArray.utf8DecodeChar?_utf8EncodeChar_append

theorem eq_append_of_first? {bytes : Bytes} {c : Char} (h : first? bytes = some c) :
    ∃ rest, bytes = utf8EncodeChar c ++ rest := by
  obtain ⟨more, hmore⟩ := ByteArray.exists_of_utf8DecodeChar?_eq_some h
  have hdata := congrArg (fun bytes => bytes.data.toList) hmore
  simp only [ByteArray.data_append, List.data_toByteArray, Array.toList_append] at hdata
  refine ⟨more.data.toList ++ bytes.drop 4, ?_⟩
  rw [← List.append_assoc, ← hdata, List.take_append_drop]

theorem length_encodeChar_pos (c : Char) : 0 < (utf8EncodeChar c).length :=
  List.length_pos_iff.mpr String.utf8EncodeChar_ne_nil

theorem exists_first (c : Char) :
    ∃ b tail, utf8EncodeChar c = b :: tail ∧ b.IsUTF8FirstByte := by
  have hpos := length_encodeChar_pos c
  have hfirst : (utf8EncodeChar c)[0].IsUTF8FirstByte :=
    UInt8.isUTF8FirstByte_getElem_utf8EncodeChar.mpr rfl
  exact ⟨(utf8EncodeChar c)[0], (utf8EncodeChar c).drop 1, (List.getElem_cons_drop hpos).symm,
    hfirst⟩

theorem append_eq_append_of_first {c : Char} {front tail rest : Bytes} {b : UInt8}
    (hb : b.IsUTF8FirstByte) (h : utf8EncodeChar c ++ rest = front ++ b :: tail)
    (hfront : front ≠ []) :
    ∃ more, front = utf8EncodeChar c ++ more ∧ rest = more ++ b :: tail := by
  obtain ⟨more, hfront', hrest⟩ | ⟨more, hchar, htail⟩ := List.append_eq_append_iff.mp h
  · exact ⟨more, hfront', hrest⟩
  · cases more with
    | nil =>
      rw [List.append_nil] at hchar
      exact ⟨[], by rw [hchar, List.append_nil], htail.symm⟩
    | cons b' more =>
      obtain ⟨rfl, -⟩ := List.cons.inj htail
      have hlength : front.length < (utf8EncodeChar c).length := by
        rw [hchar, List.length_append, List.length_cons]
        omega
      have hget : (utf8EncodeChar c)[front.length] = b := by
        simp [hchar]
      have hzero : front.length = 0 :=
        UInt8.isUTF8FirstByte_getElem_utf8EncodeChar.mp (hget ▸ hb)
      exact absurd (List.length_eq_zero_iff.mp hzero) hfront

/-- The bytes of characters fall into those before and behind a byte that opens one. -/
theorem chars_split {cs : List Char} {front tail : Bytes} {b : UInt8} (hb : b.IsUTF8FirstByte)
    (h : chars cs = front ++ b :: tail) :
    ∃ before behind, cs = before ++ behind ∧ front = chars before ∧ b :: tail = chars behind := by
  induction cs generalizing front with
  | nil => exact absurd h.symm (by simp [chars])
  | cons c cs ih =>
    by_cases hfront : front = []
    · subst hfront
      exact ⟨[], c :: cs, rfl, rfl, h.symm⟩
    · rw [chars_cons] at h
      obtain ⟨more, rfl, hrest⟩ := append_eq_append_of_first hb h hfront
      obtain ⟨before, behind, rfl, rfl, hbehind⟩ := ih hrest
      exact ⟨c :: before, behind, rfl, (chars_cons c before).symm, hbehind⟩

theorem chars_split_char {cs : List Char} {front rest : Bytes} {c : Char}
    (h : chars cs = front ++ (utf8EncodeChar c ++ rest)) :
    ∃ before behind, cs = before ++ c :: behind ∧ front = chars before ∧ rest = chars behind := by
  obtain ⟨b, tail, hbytes, hb⟩ := exists_first c
  rw [hbytes, List.cons_append] at h
  obtain ⟨before, behind, rfl, rfl, hbehind⟩ := chars_split hb h
  rw [← List.cons_append, ← hbytes] at hbehind
  cases behind with
  | nil => exact absurd hbehind (List.append_ne_nil_of_left_ne_nil String.utf8EncodeChar_ne_nil _)
  | cons d behind =>
    rw [chars_cons] at hbehind
    -- Both texts open with the same character, so they go on alike.
    obtain rfl : c = d := Option.some.inj (by
      rw [← first?_encodeChar_append c rest, hbehind, first?_encodeChar_append])
    exact ⟨before, behind, rfl, rfl, List.append_cancel_left hbehind⟩

theorem decode?_eq_some {bytes : Bytes} {s : String} (h : decode? bytes = some s) :
    bytes = encode s := by
  rw [decode?, String.fromUTF8?] at h
  split at h
  · next hvalid =>
    obtain rfl := Option.some.inj h
    have hbytes : (encode (String.fromUTF8 bytes.toByteArray hvalid)).toByteArray =
        bytes.toByteArray := toByteArray_encode _
    have hdata := congrArg (fun bytes => bytes.data.toList) hbytes
    simpa only [List.data_toByteArray] using hdata.symm
  · cases h

def Ascii (bytes : Bytes) : Prop := ∀ b ∈ bytes, b.toNat < 128

instance (bytes : Bytes) : Decidable (Ascii bytes) := List.decidableBAll _ bytes

theorem Ascii.append {bytes more : Bytes} (h : Ascii bytes) (hmore : Ascii more) :
    Ascii (bytes ++ more) := List.forall_mem_append.mpr ⟨h, hmore⟩

theorem Ascii.cons {b : UInt8} {bytes : Bytes} (hb : b.toNat < 128) (h : Ascii bytes) :
    Ascii (b :: bytes) := List.forall_mem_cons.mpr ⟨hb, h⟩

theorem Ascii.singleton {b : UInt8} (hb : b.toNat < 128) : Ascii [b] :=
  List.forall_mem_singleton.mpr hb

theorem encodeChar_ofUInt8 {b : UInt8} (h : b.toNat < 128) :
    utf8EncodeChar (Char.ofUInt8 b) = [b] := by
  have hcode : (Char.ofUInt8 b).toNat = b.toNat := rfl
  rw [encodeChar_of_lt (hcode ▸ h), hcode, UInt8.ofNat_toNat]

theorem first_of_lt {b : UInt8} (h : b.toNat < 128) : b.IsUTF8FirstByte := by
  obtain ⟨first, tail, hbytes, hfirst⟩ := exists_first (Char.ofUInt8 b)
  rw [encodeChar_ofUInt8 h] at hbytes
  obtain ⟨rfl, -⟩ := List.cons.inj hbytes
  exact hfirst

def replacement : Char := '\ufffd'

/-- Bytes with a replacement for each that belongs to no character. -/
def mended : Bytes → Bytes
  | [] => []
  | b :: rest =>
    match first? (b :: rest) with
    | some c => utf8EncodeChar c ++ mended ((b :: rest).drop c.utf8Size)
    | none => utf8EncodeChar replacement ++ mended rest
  termination_by bytes => bytes.length
  decreasing_by
    · exact length_drop_utf8Size_lt b rest c
    · exact Nat.lt_succ_self _

theorem mended_encodeChar_append (c : Char) (rest : Bytes) :
    mended (utf8EncodeChar c ++ rest) = utf8EncodeChar c ++ mended rest := by
  have hfirst := first?_encodeChar_append c rest
  have hdrop : (utf8EncodeChar c ++ rest).drop c.utf8Size = rest := by
    rw [← String.length_utf8EncodeChar, List.drop_left]
  cases hbytes : utf8EncodeChar c ++ rest with
  | nil => exact absurd hbytes (List.append_ne_nil_of_left_ne_nil String.utf8EncodeChar_ne_nil _)
  | cons b more =>
    rw [hbytes] at hfirst hdrop
    rw [mended, hfirst]
    dsimp only
    rw [hdrop]

theorem mended_of_first?_eq_none {b : UInt8} {rest : Bytes} (h : first? (b :: rest) = none) :
    mended (b :: rest) = utf8EncodeChar replacement ++ mended rest := by
  rw [mended, h]

def MendsTo (bytes text : Bytes) : Prop := ∀ rest, mended (bytes ++ rest) = text ++ mended rest

theorem MendsTo.append {bytes text more moreText : Bytes} (h : MendsTo bytes text)
    (hmore : MendsTo more moreText) : MendsTo (bytes ++ more) (text ++ moreText) := by
  intro rest
  rw [List.append_assoc, h, hmore, List.append_assoc]

theorem mendsTo_chars (cs : List Char) : MendsTo (chars cs) (chars cs) := by
  induction cs with
  | nil => exact fun _ => rfl
  | cons c cs ih =>
    rw [chars_cons]
    exact .append (mended_encodeChar_append c) ih

theorem mendsTo_of_lt {b : UInt8} (h : b.toNat < 128) : MendsTo [b] [b] := by
  have hchars := mendsTo_chars [Char.ofUInt8 b]
  rwa [chars_cons, encodeChar_ofUInt8 h] at hchars

theorem mendsTo_of_ascii {bytes : Bytes} (h : Ascii bytes) : MendsTo bytes bytes := by
  induction bytes with
  | nil => exact fun _ => rfl
  | cons b bytes ih =>
    obtain ⟨hb, hbytes⟩ := List.forall_mem_cons.mp h
    exact .append (mendsTo_of_lt hb) (ih hbytes)

theorem MendsTo.mended_eq {bytes text : Bytes} (h : MendsTo bytes text) : mended bytes = text := by
  have hmended := h []
  rw [List.append_nil, mended, List.append_nil] at hmended
  exact hmended

theorem mended_encode (s : String) : mended (encode s) = encode s :=
  (mendsTo_chars s.toList).mended_eq

/-- A run of bytes before an ASCII byte is mended by itself, to characters of its own bytes and
replacements. -/
theorem exists_mendsTo (run : Bytes) {b : UInt8} (hb : b.toNat < 128) :
    ∃ cs : List Char, (∀ c ∈ cs, c = replacement ∨ ∀ x ∈ utf8EncodeChar c, x ∈ run) ∧
      MendsTo (run ++ [b]) (chars cs ++ [b]) := by
  induction hlength : run.length using Nat.strongRecOn generalizing run with
  | ind n ih =>
    subst hlength
    cases run with
    | nil => exact ⟨[], List.forall_mem_nil _, mendsTo_of_lt hb⟩
    | cons x run =>
      by_cases hchar : ∃ c more, x :: run = utf8EncodeChar c ++ more
      · obtain ⟨c, more, hrun⟩ := hchar
        have hshorter : more.length < (x :: run).length := by
          have hpos := length_encodeChar_pos c
          rw [hrun, List.length_append]
          omega
        obtain ⟨cs, hcs, hmends⟩ := ih more.length hshorter more rfl
        refine ⟨c :: cs, ?_, ?_⟩
        · refine List.forall_mem_cons.mpr ⟨.inr ?_, fun d hd => (hcs d hd).imp_right ?_⟩
          · exact fun y hy => hrun ▸ List.mem_append_left _ hy
          · exact fun h y hy => hrun ▸ List.mem_append_right _ (h y hy)
        · rw [hrun, chars_cons, List.append_assoc, List.append_assoc]
          exact .append (mended_encodeChar_append c) hmends
      · -- A character that opened here would have to end before the ASCII byte.
        have hnone (rest : Bytes) : first? (x :: (run ++ b :: rest)) = none := by
          rw [Option.eq_none_iff_forall_ne_some]
          intro c hfirst
          obtain ⟨tail, htail⟩ := eq_append_of_first? hfirst
          obtain ⟨more, hmore, -⟩ :=
            append_eq_append_of_first (first_of_lt hb) htail.symm (List.cons_ne_nil x run)
          exact hchar ⟨c, more, hmore⟩
        obtain ⟨cs, hcs, hmends⟩ := ih run.length (Nat.lt_succ_self _) run rfl
        refine ⟨replacement :: cs,
          List.forall_mem_cons.mpr ⟨.inl rfl, fun d hd => (hcs d hd).imp_right ?_⟩, ?_⟩
        · exact fun h y hy => List.mem_cons_of_mem x (h y hy)
        · intro rest
          have hrun := hmends rest
          simp only [List.append_assoc, List.cons_append, List.nil_append, chars_cons] at hrun ⊢
          rw [mended_of_first?_eq_none (hnone rest), hrun]

end Gatehouse.Text.Utf8
