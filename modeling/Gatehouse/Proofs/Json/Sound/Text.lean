import Gatehouse.Proofs.Json.Sound.Reading
import Gatehouse.Proofs.Json.Text

/-! What is read as a text spells it, and what is passed by as one is a text once its stray bytes
are mended. Either way the loop divides the input into plain runs with an escape behind each but
the last. -/

namespace Gatehouse.Json.Reader

open Grammar Text.Utf8
open String (utf8EncodeChar)

variable {s rest : Bytes}

theorem hexValue?_ascii {b : UInt8} {value : Nat} (h : Text.hexValue? b.toNat = some value) :
    b.toNat < 128 := by
  by_contra hlarge
  rw [Text.hexValue?, if_neg (by omega), if_neg (by omega), if_neg (by omega)] at h
  cases h

theorem ascii_of_hexUnit {digits : Bytes} {n : Nat} (h : HexUnit digits n) :
    Ascii digits := by
  obtain ⟨a, b, c, d, hvalues, -⟩ := h
  intro digit hdigit
  have hmem : Text.hexValue? digit.toNat ∈ [some a, some b, some c, some d] :=
    hvalues ▸ List.mem_map_of_mem hdigit
  simp only [List.mem_cons, List.not_mem_nil, or_false] at hmem
  rcases hmem with h | h | h | h <;> exact hexValue?_ascii h

theorem hexUnit_lt {digits : Bytes} {n : Nat} (h : HexUnit digits n) : n < 65536 := by
  obtain ⟨a, b, c, d, hvalues, rfl⟩ := h
  have hlt {x : Nat} (hx : some x ∈ [some a, some b, some c, some d]) : x < 16 := by
    rw [← hvalues] at hx
    obtain ⟨digit, -, hvalue⟩ := List.mem_map.mp hx
    exact Text.hexValue?_lt hvalue
  have ha : a < 16 := hlt (by simp)
  have hb : b < 16 := hlt (by simp)
  have hc : c < 16 := hlt (by simp)
  have hd : d < 16 := hlt (by simp)
  omega

theorem hexUnit_sound {n : Nat} (h : Reads hexUnit s n rest) :
    ∃ digits, HexUnit digits n ∧ s = digits ++ rest := by
  rw [Reads] at h
  unfold hexUnit at h
  split at h
  · next a b c d tail =>
    split at h
    · next values hvalues =>
      cases h
      refine ⟨[a, b, c, d], ?_, rfl⟩
      simp only [List.mapM_cons, List.mapM_nil, Option.bind_eq_bind, Option.bind_eq_some_iff,
        Option.pure_def, Option.some.injEq] at hvalues
      obtain ⟨a', ha, _, ⟨b', hb, _, ⟨c', hc, _, ⟨d', hd, _, rfl, rfl⟩, rfl⟩, rfl⟩, rfl⟩ := hvalues
      refine ⟨a', b', c', d', by simp [ha, hb, hc, hd], ?_⟩
      simp only [List.foldl_cons, List.foldl_nil]
      omega
    · cases h
  · cases h

theorem expectPair_sound {c : Char} (hmark : IsMark c) {u : Unit}
    (h : Reads (expectPair c) s u rest) : s = byte c :: rest := by
  obtain ⟨found, _, hpeek, h⟩ := h.of_bind
  obtain ⟨rfl, rfl⟩ := peek?_sound hpeek
  split at h
  · exact absurd h (Reads.not_of_fault rfl)
  · next found hfound =>
    replace h := h.of_advance
    split at h
    · next heq =>
      obtain ⟨tail, rfl⟩ := eq_cons_of_head? hmark (heq ▸ hfound)
      obtain ⟨-, rfl⟩ := h.of_pure
      rfl
    · exact absurd h (Reads.not_of_fault rfl)

theorem toNat_ofNat {n : Nat} (h : n.isValidChar) : (Char.ofNat n).toNat = n := by
  rw [Char.ofNat, dif_pos h]
  rfl

theorem unicodeEscape_sound {c : Char} (h : Reads unicodeEscape s c rest) :
    ∃ digits, s = digits ++ rest ∧ Spells c (word ['\\', 'u'] ++ digits) := by
  obtain ⟨unit, middle, hunit, hmore⟩ := h.of_bind
  obtain ⟨digits, hdigits, hs⟩ := hexUnit_sound hunit
  have hlt := hexUnit_lt hdigits
  split at hmore
  · exact absurd hmore (Reads.not_of_fault rfl)
  · next htrailing =>
    rw [isTrailing_iff] at htrailing
    split at hmore
    · next hleading =>
      rw [isLeading_iff] at hleading
      obtain ⟨_, _, hbackslash, hmore⟩ := hmore.of_bind
      obtain ⟨_, _, hletter, hmore⟩ := hmore.of_bind
      obtain ⟨second, _, hsecond, hend⟩ := hmore.of_bind
      have hmiddle := expectPair_sound (by decide) hbackslash
      have hbehind := expectPair_sound (by decide) hletter
      obtain ⟨low, hlow, htail⟩ := hexUnit_sound hsecond
      split at hend
      · next hpair =>
        rw [isTrailing_iff] at hpair
        obtain ⟨rfl, rfl⟩ := hend.of_pure
        have hchar : (joinPair unit second).toNat =
            (unit - 0xd800) * 0x400 + (second - 0xdc00) + 0x10000 :=
          toNat_ofNat (.inr ⟨by omega, by omega⟩)
        refine ⟨digits ++ (word ['\\', 'u'] ++ low), by simp [hs, hmiddle, hbehind, htail, word],
          .pair (by omega) ?_ ?_⟩
        · have hhigh : 0xd800 + ((joinPair unit second).toNat - 0x10000) / 0x400 = unit := by
            omega
          rwa [hhigh]
        · have hsame : 0xdc00 + ((joinPair unit second).toNat - 0x10000) % 0x400 = second := by
            omega
          rwa [hsame]
      · exact absurd hend (Reads.not_of_fault rfl)
    · next hleading =>
      rw [isLeading_iff] at hleading
      obtain ⟨rfl, rfl⟩ := hmore.of_pure
      have hvalid : unit.isValidChar := by
        rw [Nat.isValidChar]
        omega
      have hchar : (Char.ofNat unit).toNat = unit := toNat_ofNat hvalid
      exact ⟨digits, hs, .unit (by rwa [hchar])⟩

theorem mem_shortEscapes {letter c : Char} (h : shortEscape? letter = some c) :
    (letter, c) ∈ shortEscapes := by
  unfold shortEscape? at h
  split at h <;> first | (cases h; decide) | cases h

theorem isMark_of_shortEscape {letter c : Char} (h : (letter, c) ∈ shortEscapes) :
    IsMark letter := by
  have hall : ∀ escape ∈ shortEscapes, IsMark escape.1 := by decide
  exact hall _ h

theorem escape_sound {value : Bytes} (h : Reads escape s value rest) :
    ∃ tail c, s = tail ++ rest ∧ value = utf8EncodeChar c ∧ Spells c (byte '\\' :: tail) := by
  obtain ⟨letter, _, hnext, hmore⟩ := h.of_bind
  obtain ⟨rfl, rfl⟩ := next?_sound hnext
  split at hmore
  · exact absurd hmore (Reads.not_of_fault rfl)
  · next hletter =>
    obtain ⟨tail, rfl⟩ := eq_cons_of_head? (by decide) hletter
    obtain ⟨c, hunicode, rfl⟩ := hmore.of_map
    obtain ⟨digits, htail, hspells⟩ := unicodeEscape_sound hunicode
    exact ⟨byte 'u' :: digits, c, congrArg (byte 'u' :: ·) htail, rfl, hspells⟩
  · next letter _ hletter =>
    split at hmore
    · next c hshort =>
      have hmem := mem_shortEscapes hshort
      obtain ⟨tail, rfl⟩ := eq_cons_of_head? (isMark_of_shortEscape hmem) hletter
      obtain ⟨rfl, rfl⟩ := hmore.of_pure
      exact ⟨[byte letter], c, rfl, rfl, .short hmem⟩
    · exact absurd hmore (Reads.not_of_fault rfl)

theorem skipEscape_sound {value : Bytes} (h : Reads skipEscape s value rest) :
    ∃ tail, s = tail ++ rest ∧ Piece (byte '\\' :: tail) ∧ Ascii tail := by
  obtain ⟨letter, _, hnext, hmore⟩ := h.of_bind
  obtain ⟨rfl, rfl⟩ := next?_sound hnext
  split at hmore
  · exact absurd hmore (Reads.not_of_fault rfl)
  · next hletter =>
    obtain ⟨tail, rfl⟩ := eq_cons_of_head? (by decide) hletter
    obtain ⟨n, _, hunit, hend⟩ := hmore.of_bind
    obtain ⟨-, rfl⟩ := hend.of_pure
    obtain ⟨digits, hdigits, htail⟩ := hexUnit_sound hunit
    exact ⟨byte 'u' :: digits, congrArg (byte 'u' :: ·) htail, .unit hdigits,
      .cons (by decide) (ascii_of_hexUnit hdigits)⟩
  · next letter _ hletter =>
    split at hmore
    · next hshort =>
      obtain ⟨c, hc⟩ := Option.isSome_iff_exists.mp hshort
      have hmem := mem_shortEscapes hc
      obtain ⟨tail, rfl⟩ := eq_cons_of_head? (isMark_of_shortEscape hmem) hletter
      obtain ⟨-, rfl⟩ := hmore.of_pure
      have hascii : ∀ escape ∈ shortEscapes, (byte escape.1).toNat < 128 := by decide
      exact ⟨[byte letter], rfl, .short hmem, .singleton (hascii _ hmem)⟩
    · exact absurd hmore (Reads.not_of_fault rfl)

inductive Runs (escape : Reader Bytes) : Bytes → Bytes → Bytes → Prop
  | last {run rest : Bytes} (hrun : ∀ b ∈ run, isPlain b = true) :
      Runs escape (run ++ byte '"' :: rest) run rest
  | more {run tail value middle values rest : Bytes} (hrun : ∀ b ∈ run, isPlain b = true)
      (hescape : Reads escape tail value middle) (hmore : Runs escape middle values rest) :
      Runs escape (run ++ byte '\\' :: tail) (run ++ (value ++ values)) rest

section Loop

variable {escape control : Reader Bytes}

theorem textStep_sound (hcontrol : ∀ {s value rest}, ¬Reads control s value rest) {done : Bytes}
    {turn : Turn Bytes} (h : Reads (textStep escape control done) s turn rest) :
    ∃ run, (∀ b ∈ run, isPlain b = true) ∧
      (s = run ++ byte '"' :: rest ∧ turn = .last (done ++ run) ∨
        ∃ tail value, s = run ++ byte '\\' :: tail ∧ Reads escape tail value rest ∧
          turn = .more (done ++ (run ++ value))) := by
  obtain ⟨run, middle, htake, hmore⟩ := h.of_bind
  obtain ⟨hs, hrun⟩ := takeWhile_sound htake
  obtain ⟨c, _, hpeek, hmore⟩ := hmore.of_bind
  obtain ⟨rfl, rfl⟩ := peek?_sound hpeek
  refine ⟨run, hrun, ?_⟩
  split at hmore
  · exact absurd hmore (Reads.not_of_fault rfl)
  · next hquote =>
    obtain ⟨tail, rfl⟩ := eq_cons_of_head? (by decide) hquote
    have hend := hmore.of_advance
    obtain ⟨rfl, rfl⟩ := hend.of_pure
    exact .inl ⟨hs, rfl⟩
  · next hbackslash =>
    obtain ⟨tail, rfl⟩ := eq_cons_of_head? (by decide) hbackslash
    have hend := hmore.of_advance
    obtain ⟨value, hescape, rfl⟩ := hend.of_map
    exact .inr ⟨tail, value, hs, hescape, rfl⟩
  · obtain ⟨value, _, hfault, -⟩ := hmore.of_bind
    exact absurd hfault hcontrol

theorem textLoop_sound (hcontrol : ∀ {s value rest}, ¬Reads control s value rest)
    (hshorter : ∀ {s value rest}, Reads escape s value rest → rest.length ≤ s.length)
    {done bytes : Bytes} (h : Reads (iterate (textStep escape control) done) s bytes rest) :
    ∃ values, bytes = done ++ values ∧ Runs escape s values rest := by
  -- The induction is on the input, of which each step takes a run and an escape.
  induction hlength : s.length using Nat.strongRecOn generalizing s done with
  | ind n ih =>
    obtain hlast | ⟨next, middle, hstep, hmore⟩ := iterate_sound h
    · obtain ⟨run, hrun, ⟨rfl, hturn⟩ | ⟨_, _, -, -, hturn⟩⟩ := textStep_sound hcontrol hlast
      · cases hturn
        exact ⟨run, rfl, .last hrun⟩
      · cases hturn
    · obtain ⟨run, hrun, ⟨-, hturn⟩ | ⟨tail, value, rfl, hescape, hturn⟩⟩ :=
        textStep_sound hcontrol hstep
      · cases hturn
      · cases hturn
        have hless : middle.length < (run ++ byte '\\' :: tail).length := by
          have htail := hshorter hescape
          rw [List.length_append, List.length_cons]
          omega
        obtain ⟨-, hloop⟩ | ⟨hlong, -, -⟩ := hmore
        · obtain ⟨values, rfl, hruns⟩ := ih middle.length (hlength ▸ hless) hloop rfl
          refine ⟨run ++ (value ++ values), ?_, .more hrun hescape hruns⟩
          simp only [List.append_assoc]
        · exact absurd hless hlong

end Loop

theorem standsAlone_of_isPlain {c : Char} (h : ∀ b ∈ utf8EncodeChar c, isPlain b = true) :
    StandsAlone c := by
  by_cases hascii : c.toNat < 128
  · have hb : (UInt8.ofNat c.toNat).toNat = c.toNat := by
      rw [UInt8.toNat_ofNat']
      omega
    have hc : Char.ofUInt8 (UInt8.ofNat c.toNat) = c := Char.toNat_inj.mp hb
    have hencode := encodeChar_ofUInt8 (hb.symm ▸ hascii)
    rw [hc] at hencode
    have hplain := h (UInt8.ofNat c.toNat) (hencode ▸ List.mem_singleton_self _)
    simp only [isPlain, quoteByte, backslashByte, Bool.and_eq_true, decide_eq_true_eq, bne_iff_ne,
      ne_eq, UInt8.le_iff_toNat_le, ← UInt8.toNat_inj, hb] at hplain
    refine ⟨hplain.1.1, ?_, ?_⟩
    · rintro rfl
      exact hplain.1.2 rfl
    · rintro rfl
      exact hplain.2 rfl
  · refine ⟨?_, ?_, ?_⟩
    · change 32 ≤ c.toNat
      omega
    · rintro rfl
      exact hascii (by decide)
    · rintro rfl
      exact hascii (by decide)

theorem Runs.spells {values : Bytes} (h : Runs escape s values rest) {cs : List Char}
    (hvalues : values = chars cs) :
    ∃ pieces, List.Forall₂ Spells cs pieces ∧ s = pieces.flatten ++ byte '"' :: rest := by
  have hplain {cs : List Char} (hrun : ∀ b ∈ chars cs, isPlain b = true) :
      List.Forall₂ Spells cs (cs.map utf8EncodeChar) := by
    rw [List.forall₂_map_right_iff, List.forall₂_same]
    exact fun c hc => .plain (standsAlone_of_isPlain fun b hb =>
      hrun b (List.mem_flatMap.mpr ⟨c, hc, hb⟩))
  induction h generalizing cs with
  | last hrun =>
    subst hvalues
    exact ⟨_, hplain hrun, rfl⟩
  | @more run tail value middle values rest hrun hescape _ ih =>
    obtain ⟨tail, c, rfl, rfl, hspells⟩ := escape_sound hescape
    obtain ⟨before, behind, rfl, rfl, hbehind⟩ := chars_split_char hvalues.symm
    obtain ⟨pieces, hpieces, rfl⟩ := ih hbehind
    refine ⟨before.map utf8EncodeChar ++ (byte '\\' :: tail) :: pieces,
      List.rel_append (hplain hrun) (.cons hspells hpieces), ?_⟩
    simp [chars, List.flatMap]

theorem Runs.pieces {values : Bytes} (h : Runs skipEscape s values rest) :
    ∃ pieces : List Bytes, (∀ piece ∈ pieces, Piece piece) ∧
      Took s (pieces.flatten ++ [byte '"']) rest := by
  have hplain {run : Bytes} (hrun : ∀ b ∈ run, isPlain b = true) {b : UInt8} (hb : b.toNat < 128) :
      ∃ pieces : List Bytes, (∀ piece ∈ pieces, Piece piece) ∧
        MendsTo (run ++ [b]) (pieces.flatten ++ [b]) := by
    obtain ⟨cs, hcs, hmends⟩ := exists_mendsTo run hb
    refine ⟨cs.map utf8EncodeChar, ?_, hmends⟩
    rw [List.forall_mem_map]
    intro c hc
    obtain rfl | hbytes := hcs c hc
    · exact .plain (by decide)
    · exact .plain (standsAlone_of_isPlain fun b hb => hrun b (hbytes b hb))
  generalize hskip : skipEscape = escape at h
  induction h with
  | @last run rest hrun =>
    obtain ⟨pieces, hpieces, hmends⟩ := hplain hrun (b := byte '"') (by decide)
    exact ⟨pieces, hpieces, run ++ [byte '"'], by simp, hmends⟩
  | @more run tail value middle values rest hrun hescape _ ih =>
    subst hskip
    obtain ⟨pieces, hpieces, hmends⟩ := hplain hrun (b := byte '\\') (by decide)
    obtain ⟨escaped, rfl, hpiece, hascii⟩ := skipEscape_sound hescape
    obtain ⟨more, hmore, htook⟩ := ih
    refine ⟨pieces ++ (byte '\\' :: escaped) :: more,
      List.forall_mem_append.mpr ⟨hpieces, List.forall_mem_cons.mpr ⟨hpiece, hmore⟩⟩, ?_⟩
    have hrunTook : Took (run ++ byte '\\' :: (escaped ++ middle)) (pieces.flatten ++ [byte '\\'])
        (escaped ++ middle) := ⟨run ++ [byte '\\'], by simp, hmends⟩
    have hall := (hrunTook.trans (.of_ascii hascii middle)).trans htook
    simpa using hall

theorem mendsTo_of_piece {piece : Bytes} (h : Piece piece) : MendsTo piece piece := by
  cases h with
  | plain => exact mended_encodeChar_append _
  | short hmem =>
    have hascii : ∀ escape ∈ shortEscapes, Ascii (word ['\\', escape.1]) := by decide
    exact mendsTo_of_ascii (hascii _ hmem)
  | unit hdigits =>
    have hmark : Ascii (word ['\\', 'u']) := by decide
    exact mendsTo_of_ascii (hmark.append (ascii_of_hexUnit hdigits))

theorem mendsTo_of_quoted {bytes : Bytes} (h : Quoted bytes) : MendsTo bytes bytes := by
  obtain ⟨pieces, hpieces, rfl⟩ := h
  have hflatten : MendsTo pieces.flatten pieces.flatten := by
    induction pieces with
    | nil => exact fun _ => rfl
    | cons piece pieces ih =>
      obtain ⟨hpiece, hpieces⟩ := List.forall_mem_cons.mp hpieces
      exact .append (mendsTo_of_piece hpiece) (ih hpieces)
  have hquote : MendsTo [byte '"'] [byte '"'] := mendsTo_of_lt (by decide)
  exact hquote.append (hflatten.append hquote)

theorem Took.of_quotes {string : String} {bytes : Bytes} (h : Quotes string bytes) (rest : Bytes) :
    Took (bytes ++ rest) bytes rest := ⟨bytes, rfl, mendsTo_of_quoted h.quoted⟩

theorem text_sound {string : String} (h : Reads text s string rest) :
    ∃ tail, s = tail ++ rest ∧ Quotes string (byte '"' :: tail) := by
  obtain ⟨bytes, _, hbytes, hmore⟩ := h.of_bind
  have hshorter {s value rest : Bytes} (h : Reads escape s value rest) :
      rest.length ≤ s.length := by
    obtain ⟨tail, -, rfl, -, -⟩ := escape_sound h
    rw [List.length_append]
    omega
  have hcontrol {s value rest : Bytes} : ¬Reads refuseControl s value rest :=
    Reads.not_of_fault rfl
  obtain ⟨_, rfl, hruns⟩ := textLoop_sound hcontrol hshorter hbytes
  split at hmore
  · next hdecode =>
    obtain ⟨rfl, rfl⟩ := hmore.of_pure
    obtain ⟨pieces, hpieces, rfl⟩ := hruns.spells (decode?_eq_some hdecode)
    exact ⟨pieces.flatten ++ [byte '"'], by simp, pieces, hpieces, rfl⟩
  · exact absurd hmore (Reads.not_of_fault rfl)

theorem skipText_sound {u : Unit} (h : Reads skipText s u rest) :
    ∃ tail, Took s tail rest ∧ Quoted (byte '"' :: tail) := by
  obtain ⟨bytes, _, hbytes, hmore⟩ := h.of_bind
  obtain ⟨-, rfl⟩ := hmore.of_pure
  have hshorter {s value rest : Bytes} (h : Reads skipEscape s value rest) :
      rest.length ≤ s.length := by
    obtain ⟨tail, rfl, -⟩ := skipEscape_sound h
    rw [List.length_append]
    omega
  obtain ⟨_, -, hruns⟩ := textLoop_sound (Reads.not_of_fault rfl) hshorter hbytes
  obtain ⟨pieces, hpieces, htook⟩ := hruns.pieces
  exact ⟨_, htook, pieces, hpieces, rfl⟩

end Gatehouse.Json.Reader
