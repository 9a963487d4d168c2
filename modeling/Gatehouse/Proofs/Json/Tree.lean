import Gatehouse.Json.Tree
import Gatehouse.Proofs.Json.FieldValue
import Gatehouse.Proofs.Json.Record

/-! Reading values of any kind. A quoted text reads as the string that it spells, an integer as
itself, and an object as its members, in their order and none left out. -/

namespace Gatehouse.Json.Tree

open Grammar Reader

theorem exists_enter (depth : Nat) : ∃ enter, reader depth = readerWith enter := by
  cases depth <;> exact ⟨_, rfl⟩

theorem accepts_text {s : String} {bytes : Bytes} (h : Quotes s bytes) (depth : Nat) :
    Accepts (reader depth) bytes (.text s) := by
  intro blanks rest hblanks _
  obtain ⟨enter, hreader⟩ := exists_enter depth
  obtain ⟨tail, rfl, htail⟩ := reads_text h
  rw [hreader]
  exact (reads_peekSolid?_mark hblanks (by decide) _).bind
    ((reads_advance _ _).bind ((htail rest).map text))

theorem accepts_integer {n : Int} (hlow : Int64.minValue.toInt ≤ n) (hhigh : n < UInt64.size)
    (depth : Nat) :
    Accepts (reader depth) (Text.Utf8.encode (toString n)) (.number (.integer n)) := by
  intro blanks rest hblanks hrest
  obtain ⟨enter, hreader⟩ := exists_enter depth
  have hnumber := reads_number (integer_toString n) hlow hhigh hrest
  obtain ⟨b, tail, htext, hb⟩ := number_head (number_toString n)
  rw [htext] at hnumber ⊢
  rw [hreader]
  refine (reads_peekSolid? (s := b :: (tail ++ rest)) hblanks ?_).bind ?_
  · intro first hfirst
    cases hfirst
    exact isBlank_of_number hb
  · split
    · next heq => cases heq
    · next heq => exact absurd heq (ne_mark_of_number hb (by decide) (by decide))
    · next heq => exact absurd heq (ne_mark_of_number hb (by decide) (by decide))
    · next heq => exact absurd heq (ne_mark_of_number hb (by decide) (by decide))
    · next heq => exact absurd heq (ne_mark_of_number hb (by decide) (by decide))
    · next heq => exact absurd heq (ne_mark_of_number hb (by decide) (by decide))
    · next heq => exact absurd heq (ne_mark_of_number hb (by decide) (by decide))
    · next heq =>
      cases heq
      rw [if_pos (opensNumber_of_head hb)]
      exact hnumber.map number

inductive Holds (value : Reader Tree) : Member → String × Tree → Prop
  | intro {name : String} {bytes : Bytes} {tree : Tree} (h : Accepts value bytes tree) :
      Holds value (name, bytes) (name, tree)

def Extends (value : Reader Tree) (before : List (String × Tree)) (members : List Member)
    (entries : List (String × Tree)) : Prop :=
  ∃ more, List.Forall₂ (Holds value) members more ∧ entries = before ++ more

theorem memberLoop (value : Reader Tree) :
    Record.MemberLoop (memberStep value) (Extends value) where
  none h := by
    obtain ⟨_, _ | _, rfl⟩ := h
    rw [List.append_nil]
  more hlead hname hcolon hvalue hrest h := by
    obtain ⟨_, _ | ⟨⟨haccepts⟩, hmore⟩, rfl⟩ := h
    obtain ⟨before, after, hbefore, hafter, rfl⟩ := hcolon
    simp only [List.append_assoc, List.singleton_append]
    refine ⟨_, (Record.reads_nextKey? hlead hname _).bind ((reads_colon hbefore _).bind
      ((haccepts after _ hafter hrest).map _)), _, hmore, ?_⟩
    rw [List.append_assoc, List.singleton_append]
  closing hbehind state rest :=
    (Record.reads_nextKey?_closing hbehind state.1 rest).bind (.pure _ _)

theorem decode_object {depth : Nat} {members : List Member} {bytes : Bytes}
    (h : Object members bytes) {entries : List (String × Tree)}
    (hentries : List.Forall₂ (Holds (reader depth)) members entries) :
    (reader (depth + 1)).decode bytes = .ok (.object entries) := by
  obtain ⟨listed, inside, hlisted, hpadded, before, after, hbefore, hafter, rfl⟩ := h
  have hextends : Extends (reader depth) [] members entries := ⟨entries, hentries, rfl⟩
  obtain ⟨isFirst, hloop⟩ := (memberLoop (reader depth)).reads_inside hlisted hpadded hextends after
  have hmembers : Reads (Tree.members (reader depth)) _ entries _ := hloop.map _
  have hclosed := reads_closedBy (hmembers.map object) (reads_closeObject after)
  simp only [List.cons_append, List.append_assoc, List.nil_append]
  refine decode_of_reads hafter ?_
  exact (reads_peekSolid?_mark hbefore (by decide) _).bind ((reads_advance _ _).bind hclosed)

end Gatehouse.Json.Tree
