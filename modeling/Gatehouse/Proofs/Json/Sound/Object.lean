import Gatehouse.Proofs.Json.Sound.Record
import Gatehouse.Proofs.Json.Unambiguous

/-! The text of an object is read as a record exactly if its members lead to one. There is nothing
in it to be mended, it is no list, and its members are known from the text. -/

namespace Gatehouse.Json

open Grammar Reader Text.Utf8

theorem mendsTo_of_padded {inside bytes : Bytes} (hpadded : Padded inside bytes)
    (h : MendsTo inside inside) : MendsTo bytes bytes := by
  obtain ⟨before, after, hbefore, hafter, rfl⟩ := hpadded
  exact (mendsTo_of_ascii (ascii_of_blanks hbefore)).append
    (h.append (mendsTo_of_ascii (ascii_of_blanks hafter)))

theorem mendsTo_of_brackets {opening closing : UInt8} (hopening : opening.toNat < 128)
    (hclosing : closing.toNat < 128) {inside : Bytes} (h : MendsTo inside inside) :
    MendsTo (opening :: (inside ++ [closing])) (opening :: (inside ++ [closing])) :=
  (mendsTo_of_lt hopening).append (h.append (mendsTo_of_lt hclosing))

theorem mendsTo_of_derives {kind : Kind} {bytes : Bytes} (h : Derives kind bytes) :
    MendsTo bytes bytes := by
  have hmark {c : Char} (hc : (byte c).toNat < 128) {mark : Bytes} (hmark : Mark c mark) :
      MendsTo mark mark := mendsTo_of_ascii (ascii_of_mark hc hmark)
  induction h with
  | literal hcs =>
    have hascii : ∀ cs ∈ ["null".toList, "true".toList, "false".toList], Ascii (word cs) := by
      decide
    exact mendsTo_of_ascii (hascii _ hcs)
  | number hnumber => exact mendsTo_of_ascii (ascii_of_number hnumber)
  | text hquoted => exact mendsTo_of_quoted hquoted
  | emptyList hblanks =>
    exact mendsTo_of_brackets (by decide) (by decide) (mendsTo_of_ascii (ascii_of_blanks hblanks))
  | list _ hpadded ih =>
    exact mendsTo_of_brackets (by decide) (by decide) (mendsTo_of_padded hpadded ih)
  | emptyObject hblanks =>
    exact mendsTo_of_brackets (by decide) (by decide) (mendsTo_of_ascii (ascii_of_blanks hblanks))
  | object _ hpadded ih =>
    exact mendsTo_of_brackets (by decide) (by decide) (mendsTo_of_padded hpadded ih)
  | element _ ih => exact ih
  | elements _ hcomma _ ih ihMore => exact ih.append ((hmark (by decide) hcomma).append ihMore)
  | member hname hcolon _ ih =>
    exact (mendsTo_of_quoted hname).append ((hmark (by decide) hcolon).append ih)
  | members hname hcolon _ hcomma _ ih ihMore =>
    exact (mendsTo_of_quoted hname).append ((hmark (by decide) hcolon).append
      (ih.append ((hmark (by decide) hcomma).append ihMore)))

namespace Grammar

theorem Members.derives_members {members : List Member} {bytes : Bytes}
    (h : Members members bytes) : Derives .members bytes := by
  induction h with
  | last hname hcolon hvalue => exact .member hname.quoted hcolon hvalue
  | cons hname hcolon hvalue hcomma _ ih => exact .members hname.quoted hcolon hvalue hcomma ih

theorem Padded.blanks {bytes : Bytes} (h : Padded [] bytes) : Blanks bytes := by
  obtain ⟨before, after, hbefore, hafter, rfl⟩ := h
  exact List.forall_mem_append.mpr ⟨hbefore, hafter⟩

theorem derives_object {members : List Member} {listed inside : Bytes}
    (hlisted : members = [] ∧ listed = [] ∨ Members members listed)
    (hpadded : Padded listed inside) :
    Derives .value (byte '\x7b' :: (inside ++ [byte '\x7d'])) := by
  rcases hlisted with ⟨-, rfl⟩ | hmembers
  · exact .emptyObject hpadded.blanks
  · exact .object hmembers.derives_members hpadded

namespace Object

variable {members : List Member} {bytes : Bytes}

theorem exists_value (h : Object members bytes) :
    ∃ inside, Derives .value (byte '\x7b' :: inside) ∧ Padded (byte '\x7b' :: inside) bytes := by
  obtain ⟨listed, inside, hlisted, hpadded, hobject⟩ := h
  exact ⟨_, derives_object hlisted hpadded, hobject⟩

theorem mended_eq (h : Object members bytes) : mended bytes = bytes := by
  obtain ⟨inside, hvalue, hpadded⟩ := h.exists_value
  exact (mendsTo_of_padded hpadded (mendsTo_of_derives hvalue)).mended_eq

theorem ne_list (h : Object members bytes) {before tail : Bytes} (hbefore : Blanks before) :
    bytes ≠ before ++ byte '[' :: tail := by
  rintro rfl
  obtain ⟨inside, -, front, behind, hfront, -, hsame⟩ := h.exists_value
  have hbracket := reads_peekSolid?_mark hbefore (c := '[') (by decide) tail
  rw [hsame] at hbracket
  cases hbracket.symm.trans (reads_peekSolid?_mark hfront (c := '\x7b') (by decide) _)

end Object

end Grammar

theorem Record.decode_eq_ok_iff {σ α : Type} {r : Record σ α}
    (hfields : ∀ field ∈ r.fields, Field.Sound field) {members : List Member} {bytes : Bytes}
    (h : Object members bytes) {a : α} : r.reader.decode bytes = .ok a ↔
      ∃ draft, TakesAll r r.blank members draft ∧ r.finish draft = .ok a := by
  constructor
  · intro hread
    obtain ⟨others, draft, hobject, hall, hfinish⟩ | ⟨before, _, tail, hbefore, -, hlist, -⟩ :=
      decode_sound hfields hread
    · rw [h.mended_eq] at hobject
      obtain rfl := h.unique hobject
      exact ⟨draft, hall, hfinish⟩
    · exact absurd hlist (h.ne_list hbefore)
  · rintro ⟨draft, hall, hfinish⟩
    exact decode_object h hall hfinish

end Gatehouse.Json
