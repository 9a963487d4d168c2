import Gatehouse.Text.Hex
import Gatehouse.Text.Utf8
import Mathlib.Data.List.Forall2

/-! JSON texts as their grammar derives them, byte by byte and without a reader. A text between
quotes is told with the characters it spells; every other value only has to be well formed. -/

namespace Gatehouse.Json.Grammar

def byte (c : Char) : UInt8 := UInt8.ofNat c.toNat

def word (cs : List Char) : Bytes := cs.map byte

def Blanks (bytes : Bytes) : Prop := ∀ b ∈ bytes, b ∈ [' ', '\n', '\t', '\r'].map byte

instance (bytes : Bytes) : Decidable (Blanks bytes) := List.decidableBAll _ bytes

theorem Blanks.nil : Blanks [] := fun _ hb => absurd hb List.not_mem_nil

def isDigit (b : UInt8) : Prop := byte '0' ≤ b ∧ b ≤ byte '9'

instance (b : UInt8) : Decidable (isDigit b) := inferInstanceAs (Decidable (_ ∧ _))

def Digits (bytes : Bytes) : Prop := bytes ≠ [] ∧ ∀ b ∈ bytes, isDigit b

instance (bytes : Bytes) : Decidable (Digits bytes) :=
  @instDecidableAnd _ _ inferInstance (List.decidableBAll _ bytes)

def HexUnit (bytes : Bytes) (n : Nat) : Prop :=
  ∃ a b c d,
    bytes.map (fun digit => Text.hexValue? digit.toNat) = [some a, some b, some c, some d] ∧
    n = 4096 * a + 256 * b + 16 * c + d

def shortEscapes : List (Char × Char) :=
  [('"', '"'), ('\\', '\\'), ('/', '/'), ('b', '\x08'), ('f', '\x0c'), ('n', '\n'), ('r', '\r'),
    ('t', '\t')]

def StandsAlone (c : Char) : Prop := ' ' ≤ c ∧ c ≠ '"' ∧ c ≠ '\\'

instance (c : Char) : Decidable (StandsAlone c) := inferInstanceAs (Decidable (_ ∧ _))

/-- The ways a character can be spelled between quotes. -/
inductive Spells : Char → Bytes → Prop
  | plain {c : Char} (h : StandsAlone c) : Spells c (String.utf8EncodeChar c)
  | short {letter c : Char} (h : (letter, c) ∈ shortEscapes) : Spells c (word ['\\', letter])
  | unit {c : Char} {digits : Bytes} (h : HexUnit digits c.toNat) :
      Spells c (word ['\\', 'u'] ++ digits)
  | pair {c : Char} {high low : Bytes} (hplane : 0x10000 ≤ c.toNat)
      (hhigh : HexUnit high (0xd800 + (c.toNat - 0x10000) / 0x400))
      (hlow : HexUnit low (0xdc00 + (c.toNat - 0x10000) % 0x400)) :
      Spells c (word ['\\', 'u'] ++ (high ++ (word ['\\', 'u'] ++ low)))

def Quotes (s : String) (bytes : Bytes) : Prop :=
  ∃ pieces, List.Forall₂ Spells s.toList pieces ∧
    bytes = byte '"' :: (pieces.flatten ++ [byte '"'])

inductive Piece : Bytes → Prop
  | plain {c : Char} (h : StandsAlone c) : Piece (String.utf8EncodeChar c)
  | short {letter c : Char} (h : (letter, c) ∈ shortEscapes) : Piece (word ['\\', letter])
  | unit {digits : Bytes} {n : Nat} (h : HexUnit digits n) : Piece (word ['\\', 'u'] ++ digits)

def Quoted (bytes : Bytes) : Prop :=
  ∃ pieces : List Bytes, (∀ piece ∈ pieces, Piece piece) ∧
    bytes = byte '"' :: (pieces.flatten ++ [byte '"'])

theorem Spells.exists_pieces {c : Char} {bytes : Bytes} (h : Spells c bytes) :
    ∃ pieces : List Bytes, (∀ piece ∈ pieces, Piece piece) ∧ bytes = pieces.flatten := by
  cases h with
  | plain halone => exact ⟨[_], List.forall_mem_singleton.mpr (.plain halone), by simp⟩
  | short hmem => exact ⟨[_], List.forall_mem_singleton.mpr (.short hmem), by simp⟩
  | unit hdigits => exact ⟨[_], List.forall_mem_singleton.mpr (.unit hdigits), by simp⟩
  | pair _ hhigh hlow =>
    -- A reader that skips texts passes the two halves one after the other.
    exact ⟨[_, _], List.forall_mem_cons.mpr
      ⟨.unit hhigh, List.forall_mem_singleton.mpr (.unit hlow)⟩, by simp⟩

theorem exists_pieces {cs : List Char} {spellings : List Bytes}
    (h : List.Forall₂ Spells cs spellings) :
    ∃ pieces : List Bytes, (∀ piece ∈ pieces, Piece piece) ∧
      spellings.flatten = pieces.flatten := by
  induction h with
  | nil => exact ⟨[], List.forall_mem_nil _, rfl⟩
  | cons hspell _ ih =>
    obtain ⟨first, hfirst, rfl⟩ := hspell.exists_pieces
    obtain ⟨pieces, hpieces, hflatten⟩ := ih
    exact ⟨first ++ pieces, List.forall_mem_append.mpr ⟨hfirst, hpieces⟩, by simp [hflatten]⟩

theorem Quotes.quoted {s : String} {bytes : Bytes} (h : Quotes s bytes) : Quoted bytes := by
  obtain ⟨spellings, hspells, rfl⟩ := h
  obtain ⟨pieces, hpieces, hflatten⟩ := exists_pieces hspells
  exact ⟨pieces, hpieces, by rw [hflatten]⟩

def Unescaped (s : String) : Prop := ∀ c ∈ s.toList, StandsAlone c

instance (s : String) : Decidable (Unescaped s) := List.decidableBAll _ s.toList

theorem quotes_encode {s : String} (h : Unescaped s) :
    Quotes s (byte '"' :: (Text.Utf8.encode s ++ [byte '"'])) := by
  refine ⟨s.toList.map String.utf8EncodeChar, ?_, rfl⟩
  rw [List.forall₂_map_right_iff, List.forall₂_same]
  exact fun c hc => .plain (h c hc)

def Whole (bytes : Bytes) : Prop :=
  bytes = [byte '0'] ∨ Digits bytes ∧ bytes.head? ≠ some (byte '0')

def Fraction (bytes : Bytes) : Prop :=
  bytes = [] ∨ ∃ digits, Digits digits ∧ bytes = byte '.' :: digits

def Exponent (bytes : Bytes) : Prop :=
  bytes = [] ∨ ∃ mark sign digits, mark ∈ ['e', 'E'] ∧ sign ∈ [[], ['+'], ['-']] ∧ Digits digits ∧
    bytes = byte mark :: (word sign ++ digits)

def Number (bytes : Bytes) : Prop :=
  ∃ sign whole fraction exponent, sign ∈ [[], ['-']] ∧ Whole whole ∧ Fraction fraction ∧
    Exponent exponent ∧ bytes = word sign ++ (whole ++ (fraction ++ exponent))

def wholeValue (digits : Bytes) : Nat := digits.foldl (fun n b => 10 * n + (b.toNat - 48)) 0

inductive Integer : Int → Bytes → Prop
  | positive {whole : Bytes} (h : Whole whole) : Integer (wholeValue whole) whole
  | negative {whole : Bytes} (h : Whole whole) (hzero : wholeValue whole ≠ 0) :
      Integer (-wholeValue whole) (byte '-' :: whole)

def Padded (inside bytes : Bytes) : Prop :=
  ∃ before after, Blanks before ∧ Blanks after ∧ bytes = before ++ (inside ++ after)

def Mark (c : Char) (bytes : Bytes) : Prop := Padded [byte c] bytes

inductive Kind where
  | value
  | elements
  | members

inductive Derives : Kind → Bytes → Prop
  | literal {cs : List Char} (h : cs ∈ ["null".toList, "true".toList, "false".toList]) :
      Derives .value (word cs)
  | number {bytes : Bytes} (h : Number bytes) : Derives .value bytes
  | text {bytes : Bytes} (h : Quoted bytes) : Derives .value bytes
  | emptyList {blanks : Bytes} (h : Blanks blanks) :
      Derives .value (byte '[' :: (blanks ++ [byte ']']))
  | list {elements bytes : Bytes} (h : Derives .elements elements)
      (hpadded : Padded elements bytes) :
      Derives .value (byte '[' :: (bytes ++ [byte ']']))
  | emptyObject {blanks : Bytes} (h : Blanks blanks) :
      Derives .value (byte '\x7b' :: (blanks ++ [byte '\x7d']))
  | object {members bytes : Bytes} (h : Derives .members members) (hpadded : Padded members bytes) :
      Derives .value (byte '\x7b' :: (bytes ++ [byte '\x7d']))
  | element {value : Bytes} (hvalue : Derives .value value) : Derives .elements value
  | elements {value comma more : Bytes} (hvalue : Derives .value value) (hcomma : Mark ',' comma)
      (hmore : Derives .elements more) : Derives .elements (value ++ (comma ++ more))
  | member {name colon value : Bytes} (hname : Quoted name) (hcolon : Mark ':' colon)
      (hvalue : Derives .value value) : Derives .members (name ++ (colon ++ value))
  | members {name colon value comma more : Bytes} (hname : Quoted name) (hcolon : Mark ':' colon)
      (hvalue : Derives .value value) (hcomma : Mark ',' comma) (hmore : Derives .members more) :
      Derives .members (name ++ (colon ++ (value ++ (comma ++ more))))

abbrev Member := String × Bytes

inductive Members : List Member → Bytes → Prop
  | last {name : String} {quoted colon value : Bytes} (hname : Quotes name quoted)
      (hcolon : Mark ':' colon) (hvalue : Derives .value value) :
      Members [(name, value)] (quoted ++ (colon ++ value))
  | cons {name : String} {quoted colon value comma more : Bytes} {members : List Member}
      (hname : Quotes name quoted) (hcolon : Mark ':' colon) (hvalue : Derives .value value)
      (hcomma : Mark ',' comma) (hmore : Members members more) :
      Members ((name, value) :: members) (quoted ++ (colon ++ (value ++ (comma ++ more))))

theorem Members.derives {members : List Member} {bytes : Bytes} (h : Members members bytes) :
    ∀ member ∈ members, Derives .value member.2 := by
  induction h with
  | last _ _ hvalue => exact List.forall_mem_singleton.mpr hvalue
  | cons _ _ hvalue _ _ ih => exact List.forall_mem_cons.mpr ⟨hvalue, ih⟩

def Object (members : List Member) (bytes : Bytes) : Prop :=
  ∃ listed inside, (members = [] ∧ listed = [] ∨ Members members listed) ∧ Padded listed inside ∧
    Padded (byte '\x7b' :: (inside ++ [byte '\x7d'])) bytes

def null : Bytes := word "null".toList

/-- A name that stands for itself: a text, or the only key of an object without a value. -/
inductive Variant (name : String) : Bytes → Prop
  | text {quoted : Bytes} (h : Quotes name quoted) : Variant name quoted
  | object {quoted colon inside : Bytes} (hname : Quotes name quoted) (hcolon : Mark ':' colon)
      (hpadded : Padded (quoted ++ (colon ++ null)) inside) :
      Variant name (byte '\x7b' :: (inside ++ [byte '\x7d']))

def OrNull {α : Type} (means : α → Bytes → Prop) : Option α → Bytes → Prop
  | none, bytes => bytes = null
  | some a, bytes => means a bytes

end Gatehouse.Json.Grammar
