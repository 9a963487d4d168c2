import Gatehouse.Json.Text
import Gatehouse.Proofs.Json.Reading
import Gatehouse.Proofs.Text.Utf8

/-! Every spelling of a text reads as that text. A text falls into pieces, one for each character;
the reader goes from one escape to the next and takes the plain pieces between them at once, so
its loop is followed piece by piece with the plain bytes not yet taken kept aside. -/

namespace Gatehouse.Json.Reader

open Grammar

theorem reads_hexUnit {digits : Bytes} {n : Nat} (h : HexUnit digits n) (rest : Bytes) :
    Reads hexUnit (digits ++ rest) n rest := by
  obtain ⟨a, b, c, d, hvalues, rfl⟩ := h
  obtain ⟨first, tail, rfl, ha, htail⟩ := List.map_eq_cons_iff.mp hvalues
  obtain ⟨second, tail, rfl, hb, htail⟩ := List.map_eq_cons_iff.mp htail
  obtain ⟨third, tail, rfl, hc, htail⟩ := List.map_eq_cons_iff.mp htail
  obtain ⟨fourth, tail, rfl, hd, htail⟩ := List.map_eq_cons_iff.mp htail
  obtain rfl := List.map_eq_nil_iff.mp htail
  have hread : ([first, second, third, fourth].mapM fun digit => Text.hexValue? digit.toNat) =
      some [a, b, c, d] := by
    simp [List.mapM_cons, List.mapM_nil, ha, hb, hc, hd]
  simp only [Reads, List.cons_append, List.nil_append, hexUnit, hread, List.foldl_cons,
    List.foldl_nil, Prod.mk.injEq, Except.ok.injEq, and_true]
  omega

theorem isLeading_iff {unit : Nat} : isLeading unit = true ↔ 0xd800 ≤ unit ∧ unit ≤ 0xdbff := by
  rw [isLeading, Bool.and_eq_true, decide_eq_true_eq, decide_eq_true_eq]

theorem isTrailing_iff {unit : Nat} : isTrailing unit = true ↔ 0xdc00 ≤ unit ∧ unit ≤ 0xdfff := by
  rw [isTrailing, Bool.and_eq_true, decide_eq_true_eq, decide_eq_true_eq]

theorem reads_expectPair {c : Char} (h : IsMark c) (rest : Bytes) :
    Reads (expectPair c) (byte c :: rest) () rest := by
  refine (reads_peek?_mark h rest).bind ((reads_advance _ rest).bind ?_)
  rw [if_pos rfl]
  exact .pure () rest

theorem reads_unicodeEscape_unit {c : Char} {digits : Bytes} (h : HexUnit digits c.toNat)
    (rest : Bytes) : Reads unicodeEscape (digits ++ rest) c rest := by
  have hvalid : c.toNat < 0xd800 ∨ 0xdfff < c.toNat ∧ c.toNat < 0x110000 := c.valid
  have htrailing : ¬isTrailing c.toNat = true := by
    rw [isTrailing_iff]
    omega
  have hleading : ¬isLeading c.toNat = true := by
    rw [isLeading_iff]
    omega
  refine (reads_hexUnit h rest).bind ?_
  rw [if_neg htrailing, if_neg hleading, Char.ofNat_toNat]
  exact .pure c rest

theorem joinPair_split {c : Char} (hplane : 0x10000 ≤ c.toNat) :
    joinPair (0xd800 + (c.toNat - 0x10000) / 0x400) (0xdc00 + (c.toNat - 0x10000) % 0x400) = c := by
  have hjoin : (0xd800 + (c.toNat - 0x10000) / 0x400 - 0xd800) * 0x400 +
      (0xdc00 + (c.toNat - 0x10000) % 0x400 - 0xdc00) + 0x10000 = c.toNat := by
    omega
  rw [joinPair, hjoin, Char.ofNat_toNat]

theorem reads_unicodeEscape_pair {c : Char} {high low : Bytes} (hplane : 0x10000 ≤ c.toNat)
    (hhigh : HexUnit high (0xd800 + (c.toNat - 0x10000) / 0x400))
    (hlow : HexUnit low (0xdc00 + (c.toNat - 0x10000) % 0x400)) (rest : Bytes) :
    Reads unicodeEscape (high ++ (word ['\\', 'u'] ++ low) ++ rest) c rest := by
  have hvalid : c.toNat < 0xd800 ∨ 0xdfff < c.toNat ∧ c.toNat < 0x110000 := c.valid
  have hleading : isLeading (0xd800 + (c.toNat - 0x10000) / 0x400) = true := by
    rw [isLeading_iff]
    omega
  have hnot : ¬isTrailing (0xd800 + (c.toNat - 0x10000) / 0x400) = true := by
    rw [isTrailing_iff]
    omega
  have htrailing : isTrailing (0xdc00 + (c.toNat - 0x10000) % 0x400) = true := by
    rw [isTrailing_iff]
    omega
  -- The first unit is told from a character by its range, and the second has to follow it.
  rw [List.append_assoc]
  refine (reads_hexUnit hhigh _).bind ?_
  rw [if_neg hnot, if_pos hleading]
  refine (reads_expectPair (by decide) _).bind ((reads_expectPair (by decide) _).bind ?_)
  refine (reads_hexUnit hlow rest).bind ?_
  rw [if_pos htrailing, joinPair_split hplane]
  exact .pure c rest

theorem reads_escape_unicode {c : Char} {digits rest : Bytes}
    (h : Reads unicodeEscape digits c rest) :
    Reads escape (byte 'u' :: digits) (String.utf8EncodeChar c) rest :=
  (reads_next? (by decide) digits).bind (h.map String.utf8EncodeChar)

theorem reads_skipEscape_unit {digits : Bytes} {n : Nat} (h : HexUnit digits n) (rest : Bytes) :
    Reads skipEscape (byte 'u' :: (digits ++ rest)) [] rest :=
  (reads_next? (by decide) _).bind ((reads_hexUnit h rest).map fun _ => [])

theorem reads_escape_short {letter c : Char} (h : (letter, c) ∈ shortEscapes) (rest : Bytes) :
    Reads escape (byte letter :: rest) (String.utf8EncodeChar c) rest ∧
      Reads skipEscape (byte letter :: rest) [] rest := by
  simp only [shortEscapes, List.mem_cons, Prod.mk.injEq, List.not_mem_nil, or_false] at h
  obtain ⟨rfl, rfl⟩ | ⟨rfl, rfl⟩ | ⟨rfl, rfl⟩ | ⟨rfl, rfl⟩ | ⟨rfl, rfl⟩ | ⟨rfl, rfl⟩ | ⟨rfl, rfl⟩ |
    ⟨rfl, rfl⟩ := h <;> exact ⟨rfl, rfl⟩

theorem isPlain_utf8EncodeChar {c : Char} (h : StandsAlone c) :
    ∀ b ∈ String.utf8EncodeChar c, isPlain b = true := by
  intro b hb
  obtain ⟨hlow, hquote, hbackslash⟩ := h
  have hspace : 32 ≤ c.toNat := hlow
  have hplain : 32 ≤ b.toNat ∧ b.toNat ≠ 34 ∧ b.toNat ≠ 92 := by
    rcases Text.Utf8.mem_encodeChar hb with hascii | hlarge
    · rw [hascii]
      exact ⟨hspace, fun h => hquote (Char.toNat_inj.mp h),
        fun h => hbackslash (Char.toNat_inj.mp h)⟩
    · omega
  simp only [isPlain, quoteByte, backslashByte, Bool.and_eq_true, decide_eq_true_eq, bne_iff_ne,
    ne_eq, UInt8.le_iff_toNat_le, ← UInt8.toNat_inj]
  exact ⟨⟨hplain.1, hplain.2.1⟩, hplain.2.2⟩

inductive Passes (escape : Reader Bytes) : Bytes → Bytes → Prop
  | plain {piece : Bytes} (h : ∀ b ∈ piece, isPlain b = true) : Passes escape piece piece
  | escaped {tail value : Bytes} (h : ∀ rest, Reads escape (tail ++ rest) value rest) :
      Passes escape (byte '\\' :: tail) value

theorem passes_of_spells {c : Char} {piece : Bytes} (h : Spells c piece) :
    Passes escape piece (String.utf8EncodeChar c) := by
  cases h with
  | plain halone => exact .plain (isPlain_utf8EncodeChar halone)
  | short hmem => exact .escaped fun rest => (reads_escape_short hmem rest).1
  | unit hdigits =>
    exact .escaped fun rest => reads_escape_unicode (reads_unicodeEscape_unit hdigits rest)
  | pair hplane hhigh hlow =>
    exact .escaped fun rest =>
      reads_escape_unicode (reads_unicodeEscape_pair hplane hhigh hlow rest)

theorem passes_of_piece {piece : Bytes} (h : Piece piece) :
    ∃ value, Passes skipEscape piece value := by
  cases h with
  | plain halone => exact ⟨_, .plain (isPlain_utf8EncodeChar halone)⟩
  | short hmem => exact ⟨[], .escaped fun rest => (reads_escape_short hmem rest).2⟩
  | unit hdigits => exact ⟨[], .escaped fun rest => reads_skipEscape_unit hdigits rest⟩

section Loop

variable {escape : Reader Bytes} (control : Reader Bytes)

theorem reads_textStep_quote {run : Bytes} (hrun : ∀ b ∈ run, isPlain b = true)
    (done rest : Bytes) :
    Reads (textStep escape control done) (run ++ byte '"' :: rest) (.last (done ++ run)) rest :=
  (reads_takeWhile hrun (by simp; rfl)).bind
    ((reads_peek?_mark (by decide) rest).bind ((reads_advance _ rest).bind (.pure _ rest)))

theorem reads_textStep_escape {run : Bytes} (hrun : ∀ b ∈ run, isPlain b = true)
    {tail value rest : Bytes} (hescape : Reads escape tail value rest) (done : Bytes) :
    Reads (textStep escape control done) (run ++ byte '\\' :: tail)
      (.more (done ++ (run ++ value))) rest :=
  (reads_takeWhile hrun (by simp; rfl)).bind
    ((reads_peek?_mark (by decide) tail).bind ((reads_advance _ tail).bind (hescape.map _)))

theorem reads_iterate_textStep {pieces values : List Bytes}
    (h : List.Forall₂ (Passes escape) pieces values) (rest : Bytes) :
    ∀ done run : Bytes, (∀ b ∈ run, isPlain b = true) →
      Reads (iterate (textStep escape control) done)
        (run ++ (pieces.flatten ++ byte '"' :: rest)) (done ++ (run ++ values.flatten)) rest := by
  induction h with
  | nil =>
    intro done run hrun
    rw [List.flatten_nil, List.nil_append, List.append_nil]
    exact reads_iterate_of_last (reads_textStep_quote control hrun done rest)
  | @cons piece value pieces values hpiece _ ih =>
    intro done run hrun
    cases hpiece with
    | plain hplain =>
      -- No step of the reader: the piece joins the run that the next step takes.
      have hlonger := ih done (run ++ piece) fun b hb =>
        (List.mem_append.mp hb).elim (hrun b) (hplain b)
      simp only [List.flatten_cons, List.append_assoc] at hlonger ⊢
      exact hlonger
    | @escaped tail value hescape =>
      -- One step takes the run and the escape, and the next one starts with an empty run.
      have hstep := reads_textStep_escape control hrun
        (hescape (pieces.flatten ++ byte '"' :: rest)) done
      have hrest := ih (done ++ (run ++ value)) [] fun b hb => absurd hb List.not_mem_nil
      simp only [List.flatten_cons, List.append_assoc, List.nil_append, List.cons_append] at hrest ⊢
      refine reads_iterate_of_more hstep ?_ hrest
      simp only [List.length_append, List.length_cons]
      omega

end Loop

theorem reads_textBytes {s : List Char} {pieces : List Bytes} (h : List.Forall₂ Spells s pieces)
    (rest : Bytes) :
    Reads textBytes (pieces.flatten ++ byte '"' :: rest) (s.flatMap String.utf8EncodeChar)
      rest := by
  have hpasses : List.Forall₂ (Passes escape) pieces (s.map String.utf8EncodeChar) := by
    rw [List.forall₂_map_right_iff]
    exact h.flip.imp fun piece c hspells => passes_of_spells hspells
  exact reads_iterate_textStep refuseControl hpasses rest [] []
    fun b hb => absurd hb List.not_mem_nil

theorem reads_text {s : String} {bytes : Bytes} (h : Quotes s bytes) :
    ∃ tail, bytes = byte '"' :: tail ∧ ∀ rest, Reads text (tail ++ rest) s rest := by
  obtain ⟨pieces, hpieces, rfl⟩ := h
  refine ⟨_, rfl, fun rest => ?_⟩
  have hbytes := reads_textBytes hpieces rest
  rw [← Text.Utf8.encode] at hbytes
  rw [List.append_assoc, List.singleton_append]
  refine hbytes.bind ?_
  rw [Text.Utf8.decode?_encode]
  exact .pure s rest

theorem reads_skipText {bytes : Bytes} (h : Quoted bytes) :
    ∃ tail, bytes = byte '"' :: tail ∧ ∀ rest, Reads skipText (tail ++ rest) () rest := by
  obtain ⟨pieces, hpieces, rfl⟩ := h
  have hvalues : ∃ values, List.Forall₂ (Passes skipEscape) pieces values := by
    induction pieces with
    | nil => exact ⟨[], .nil⟩
    | cons piece pieces ih =>
      obtain ⟨hpiece, hpieces⟩ := List.forall_mem_cons.mp hpieces
      obtain ⟨value, hvalue⟩ := passes_of_piece hpiece
      obtain ⟨values, hvalues⟩ := ih hpieces
      exact ⟨value :: values, .cons hvalue hvalues⟩
  obtain ⟨values, hvalues⟩ := hvalues
  refine ⟨_, rfl, fun rest => ?_⟩
  rw [List.append_assoc, List.singleton_append]
  exact (reads_iterate_textStep (fail .controlCharacter) hvalues rest [] []
    fun b hb => absurd hb List.not_mem_nil).map fun _ => ()

end Gatehouse.Json.Reader
