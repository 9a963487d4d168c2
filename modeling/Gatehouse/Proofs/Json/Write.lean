import Gatehouse.Json.Write
import Gatehouse.Proofs.Json.Grammar
import Gatehouse.Proofs.Text.Decimal
import Gatehouse.Proofs.Text.Utf8

/-! What is written is JSON: a text between quotes spells itself, an integer is a number without
leading zeros, and an object has the members that it was made of. -/

namespace Gatehouse.Json

open Grammar Text.Utf8 Text.Decimal

theorem encode_toString_nat (n : Nat) : encode (toString n) = word (digits n) := by
  rw [encode, Nat.toString_eq_repr, Nat.toList_repr]
  refine flatMap_encodeChar fun c hc => ?_
  have hdigit := toNat_of_isDigit (isDigit_of_mem_digits hc)
  omega

theorem toNat_byte {c : Char} (h : c.toNat < 256) : (byte c).toNat = c.toNat := by
  rw [byte, UInt8.toNat_ofNat', Nat.mod_eq_of_lt h]

theorem isDigit_of_mem_word {n : Nat} : ∀ b ∈ word (digits n), Grammar.isDigit b := by
  intro b hb
  obtain ⟨c, hc, rfl⟩ := List.mem_map.mp hb
  obtain ⟨hlow, hhigh⟩ := toNat_of_isDigit (isDigit_of_mem_digits hc)
  have hbyte : (byte c).toNat = c.toNat := toNat_byte (by omega)
  rw [Grammar.isDigit, UInt8.le_iff_toNat_le, UInt8.le_iff_toNat_le, hbyte]
  exact ⟨hlow, hhigh⟩

theorem whole_digits (n : Nat) : Whole (word (digits n)) := by
  by_cases hzero : n = 0
  · subst hzero
    exact .inl rfl
  · refine .inr ⟨⟨List.map_eq_nil_iff.not.mpr (digits_ne_nil n), isDigit_of_mem_word⟩, ?_⟩
    intro hhead
    rw [word, List.head?_map] at hhead
    obtain ⟨c, hc, hbyte⟩ := Option.map_eq_some_iff.mp hhead
    obtain ⟨hlow, hhigh⟩ := toNat_of_isDigit (isDigit_of_mem_digits (List.mem_of_mem_head? hc))
    have hnat : c.toNat = '0'.toNat := by
      rw [← toNat_byte (by omega), hbyte]
      rfl
    exact head?_digits_ne (Nat.pos_of_ne_zero hzero) (Char.toNat_inj.mp hnat ▸ hc)

def signChars (n : Int) : List Char := if n < 0 then ['-'] else []

theorem encode_toString (n : Int) :
    encode (toString n) = word (signChars n) ++ word (digits n.natAbs) := by
  cases n with
  | ofNat n =>
    have hsign : ¬Int.ofNat n < 0 := Int.not_lt.mpr (Int.natCast_nonneg n)
    rw [signChars, if_neg hsign]
    exact encode_toString_nat n
  | negSucc n =>
    rw [signChars, if_pos (Int.negSucc_lt_zero n), ← encode_toString_nat]
    exact encode_append "-" (toString (n + 1))

theorem number_toString (n : Int) : Grammar.Number (encode (toString n)) := by
  refine ⟨signChars n, word (digits n.natAbs), [], [], ?_, whole_digits n.natAbs, .inl rfl,
    .inl rfl, ?_⟩
  · unfold signChars
    split <;> decide
  · rw [encode_toString, List.append_nil, List.append_nil]

theorem Grammar.Members.listed {members : List Member} {bytes : Bytes} (h : Members members bytes) :
    Derives .members bytes := by
  induction h with
  | last hname hcolon hvalue => exact .member hname.quoted hcolon hvalue
  | cons hname hcolon hvalue hcomma _ ih => exact .members hname.quoted hcolon hvalue hcomma ih

namespace Value

theorem hexUnit_control {n : Nat} (h : n < 32) :
    HexUnit ((if n < 16 then '0' :: '0' :: '0' :: Text.hexDigits n
      else '0' :: '0' :: Text.hexDigits n).flatMap String.utf8EncodeChar) n := by
  have hall : ∀ n : Fin 32, ((if n.val < 16 then '0' :: '0' :: '0' :: Text.hexDigits n.val
      else '0' :: '0' :: Text.hexDigits n.val).flatMap String.utf8EncodeChar).map
        (fun digit => Text.hexValue? digit.toNat) =
      [some 0, some 0, some (n.val / 16), some (n.val % 16)] := by
    decide
  exact ⟨0, 0, n / 16, n % 16, hall ⟨n, h⟩, by omega⟩

theorem spells_escape (c : Char) : Spells c ((escape c).flatMap String.utf8EncodeChar) := by
  unfold escape
  split
  · exact .short (by decide : ('"', '"') ∈ shortEscapes)
  · exact .short (by decide : ('\\', '\\') ∈ shortEscapes)
  · exact .short (by decide : ('b', '\x08') ∈ shortEscapes)
  · exact .short (by decide : ('t', '\t') ∈ shortEscapes)
  · exact .short (by decide : ('n', '\n') ∈ shortEscapes)
  · exact .short (by decide : ('f', '\x0c') ∈ shortEscapes)
  · exact .short (by decide : ('r', '\r') ∈ shortEscapes)
  · next hquote hbackslash _ _ _ _ _ =>
    by_cases hcontrol : c.toNat < 32
    · have hunit := Spells.unit (hexUnit_control hcontrol)
      by_cases hlow : c.toNat < 16
      · rw [if_pos hlow] at hunit ⊢
        exact hunit
      · rw [if_neg hlow] at hunit ⊢
        rw [if_pos hcontrol]
        exact hunit
    · rw [if_neg (by omega), if_neg hcontrol, List.flatMap_singleton]
      have hspace : ' ' ≤ c := Nat.not_lt.mp hcontrol
      exact .plain ⟨hspace, hquote, hbackslash⟩

theorem quotes_quote (s : String) : Quotes s (encode (quote s)) := by
  refine ⟨s.toList.map fun c => (escape c).flatMap String.utf8EncodeChar, ?_, ?_⟩
  · rw [List.forall₂_map_right_iff, List.forall₂_same]
    exact fun c _ => spells_escape c
  · rw [quote, encode, String.toList_ofList, quoteChars, List.flatMap_append, List.flatMap_cons,
      List.flatMap_assoc, ← List.flatMap_def]
    rfl

theorem quotes_render (s : String) : Quotes s (encode (text s).render) := quotes_quote s

def written (member : String × Value) : Member := (member.1, encode member.2.render)

mutual

theorem derives_render : (value : Value) → Derives .value (encode value.render)
  | .null => .literal (by decide : "null".toList ∈ _)
  | .integer n => .number (number_toString n)
  | .text s => .text (quotes_quote s).quoted
  | .list [] => .emptyList .nil
  | .list (item :: items) => by
    have hitems := derives_renderItems (item :: items) (List.cons_ne_nil _ _)
    rw [render, encode_append, encode_append]
    exact .list hitems ⟨[], [], .nil, .nil, (List.append_nil _).symm⟩
  | .object [] => .emptyObject .nil
  | .object (member :: members) => by
    have hmembers := members_renderMembers (member :: members) (List.cons_ne_nil _ _)
    rw [render, encode_append, encode_append]
    exact .object hmembers.listed ⟨[], [], .nil, .nil, (List.append_nil _).symm⟩

theorem derives_renderItems : (items : List Value) → items ≠ [] →
    Derives .elements (encode (",".intercalate (renderItems items)))
  | [], h => absurd rfl h
  | [item], _ => by
    rw [renderItems, renderItems, String.intercalate_singleton]
    exact .element (derives_render item)
  | item :: next :: items, _ => by
    rw [renderItems, renderItems, String.intercalate_cons_cons, ← renderItems, encode_append,
      encode_append, List.append_assoc]
    exact .elements (derives_render item) ⟨[], [], .nil, .nil, rfl⟩
      (derives_renderItems (next :: items) (List.cons_ne_nil _ _))

theorem members_renderMembers : (members : List (String × Value)) → members ≠ [] →
    Members (members.map written) (encode (",".intercalate (renderMembers members)))
  | [], h => absurd rfl h
  | [(name, value)], _ => by
    rw [renderMembers, renderMembers, String.intercalate_singleton, encode_append, encode_append,
      List.append_assoc]
    exact .last (quotes_quote name) ⟨[], [], .nil, .nil, rfl⟩ (derives_render value)
  | (name, value) :: (next, other) :: members, _ => by
    rw [renderMembers, renderMembers, String.intercalate_cons_cons, ← renderMembers, encode_append,
      encode_append, encode_append, encode_append]
    simp only [List.append_assoc]
    exact .cons (quotes_quote name) ⟨[], [], .nil, .nil, rfl⟩ (derives_render value)
      ⟨[], [], .nil, .nil, rfl⟩
      (members_renderMembers ((next, other) :: members) (List.cons_ne_nil _ _))

end

theorem object_render (members : List (String × Value)) :
    Object (members.map written) (encode (Value.object members).render) := by
  rw [render, encode_append, encode_append]
  cases members with
  | nil => exact ⟨[], [], .inl ⟨rfl, rfl⟩, ⟨[], [], .nil, .nil, rfl⟩, [], [], .nil, .nil, rfl⟩
  | cons member members =>
    have hmembers := members_renderMembers (member :: members) (List.cons_ne_nil _ _)
    exact ⟨_, _, .inr hmembers, ⟨[], [], .nil, .nil, (List.append_nil _).symm⟩, [], [], .nil, .nil,
      (List.append_nil _).symm⟩

end Value

end Gatehouse.Json
