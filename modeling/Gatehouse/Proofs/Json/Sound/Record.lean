import Gatehouse.Proofs.Json.Record
import Gatehouse.Proofs.Json.Sound.Skip

/-! What is read as a record is the text of an object with members that lead to it, or a list. -/

namespace Gatehouse.Json

open Grammar Text.Utf8

namespace Reader

variable {α : Type} {s rest : Bytes}

theorem wrongType_sound {expected : String} {a : α} : ¬Reads (wrongType expected) s a rest := by
  intro h
  obtain ⟨c, _, -, hmore⟩ := h.of_bind
  split at hmore
  · obtain ⟨_, _, -, hfault⟩ := hmore.of_bind
    exact absurd hfault (Reads.not_of_fault rfl)
  · obtain ⟨_, _, -, hfault⟩ := hmore.of_bind
    exact absurd hfault (Reads.not_of_fault rfl)
  · obtain ⟨_, _, -, hfault⟩ := hmore.of_bind
    exact absurd hfault (Reads.not_of_fault rfl)
  · obtain ⟨_, _, -, hmore⟩ := hmore.of_bind
    obtain ⟨_, _, -, hfault⟩ := hmore.of_bind
    exact absurd hfault (Reads.not_of_fault rfl)
  · exact absurd hmore (Reads.not_of_fault rfl)
  · exact absurd hmore (Reads.not_of_fault rfl)
  · split at hmore
    · obtain ⟨_, _, -, hfault⟩ := hmore.of_bind
      exact absurd hfault (Reads.not_of_fault rfl)
    · exact absurd hmore (Reads.not_of_fault rfl)
  · exact absurd hmore (Reads.not_of_fault rfl)

theorem string_sound {string : String} (h : Reads Reader.string s string rest) :
    ∃ blanks quoted, Blanks blanks ∧ Quotes string quoted ∧ s = blanks ++ (quoted ++ rest) := by
  obtain ⟨c, _, hpeek, hmore⟩ := h.of_bind
  split at hmore
  · exact absurd hmore (Reads.not_of_fault rfl)
  · obtain ⟨blanks, tail, hblanks, rfl, rfl⟩ := peekSolid?_mark_sound (by decide) hpeek
    have htext := hmore.of_advance
    obtain ⟨quoted, htail, hquotes⟩ := text_sound htext
    rw [List.tail_cons] at htail
    exact ⟨blanks, _, hblanks, hquotes, by rw [htail, List.cons_append]⟩
  · exact absurd hmore wrongType_sound

theorem closeObject_sound {u : Unit} (h : Reads closeObject s u rest) :
    ∃ blanks, Blanks blanks ∧ s = blanks ++ byte '\x7d' :: rest := by
  obtain ⟨c, _, hpeek, hmore⟩ := h.of_bind
  split at hmore
  · exact absurd hmore (Reads.not_of_fault rfl)
  · obtain ⟨blanks, tail, hblanks, rfl, rfl⟩ := peekSolid?_mark_sound (by decide) hpeek
    obtain rfl := advance_sound hmore
    exact ⟨blanks, hblanks, rfl⟩
  · exact absurd hmore (Reads.not_of_fault rfl)
  · exact absurd hmore (Reads.not_of_fault rfl)

theorem closeList_sound {u : Unit} (h : Reads closeList s u rest) :
    ∃ blanks, Blanks blanks ∧ s = blanks ++ byte ']' :: rest := by
  obtain ⟨c, _, hpeek, hmore⟩ := h.of_bind
  split at hmore
  · exact absurd hmore (Reads.not_of_fault rfl)
  · obtain ⟨blanks, tail, hblanks, rfl, rfl⟩ := peekSolid?_mark_sound (by decide) hpeek
    obtain rfl := advance_sound hmore
    exact ⟨blanks, hblanks, rfl⟩
  · obtain ⟨_, _, -, hmore⟩ := hmore.of_bind
    obtain ⟨_, _, -, hmore⟩ := hmore.of_bind
    split at hmore <;> exact absurd hmore (Reads.not_of_fault rfl)
  · exact absurd hmore (Reads.not_of_fault rfl)

theorem nextElement?_sound {answer : Bool} (h : Reads (nextElement? true) s answer rest) :
    ∃ blanks, Blanks blanks ∧ s = blanks ++ rest := by
  obtain ⟨c, _, hpeek, hmore⟩ := h.of_bind
  obtain ⟨blanks, hblanks, rfl, -⟩ := peekSolid?_sound hpeek
  split at hmore
  · exact absurd hmore (Reads.not_of_fault rfl)
  · obtain ⟨-, rfl⟩ := hmore.of_pure
    exact ⟨blanks, hblanks, rfl⟩
  · obtain ⟨-, rfl⟩ := hmore.of_pure
    exact ⟨blanks, hblanks, rfl⟩

end Reader

namespace Record

open Reader

variable {σ α : Type} {r : Record σ α} {s rest : Bytes}

theorem key_sound {tail : Bytes} {name? : Option String}
    (h : Reads key (byte '"' :: tail) name? rest) :
    ∃ name quoted, name? = some name ∧ Quotes name quoted ∧ byte '"' :: tail = quoted ++ rest := by
  have hmore := h.of_advance
  obtain ⟨name, htext, rfl⟩ := hmore.of_map
  obtain ⟨quoted, htail, hquotes⟩ := text_sound htext
  rw [List.tail_cons] at htail
  exact ⟨name, _, rfl, hquotes, by rw [htail, List.cons_append]⟩

theorem nextKey?_sound {isFirst : Bool} {name? : Option String}
    (h : Reads (nextKey? isFirst) s name? rest) :
    name? = none ∧ (∃ blanks, Blanks blanks ∧ s = blanks ++ rest) ∨
      ∃ name lead quoted, name? = some name ∧ Before isFirst lead ∧ Quotes name quoted ∧
        Took s (lead ++ quoted) rest := by
  have hkey {front tail : Bytes} (htook : Took s front (byte '"' :: tail))
      (hlead : Before isFirst front) (h : Reads key (byte '"' :: tail) name? rest) :
      ∃ name lead quoted, name? = some name ∧ Before isFirst lead ∧ Quotes name quoted ∧
        Took s (lead ++ quoted) rest := by
    obtain ⟨name, quoted, rfl, hquotes, hsplit⟩ := key_sound h
    rw [hsplit] at htook
    exact ⟨name, front, quoted, rfl, hlead, hquotes, htook.trans (.of_quotes hquotes rest)⟩
  obtain ⟨c, _, hpeek, hmore⟩ := h.of_bind
  split at hmore
  · exact absurd hmore (Reads.not_of_fault rfl)
  · obtain ⟨blanks, hblanks, hs, -⟩ := peekSolid?_sound hpeek
    obtain ⟨rfl, rfl⟩ := hmore.of_pure
    exact .inl ⟨rfl, blanks, hblanks, hs⟩
  · next c _ =>
    refine .inr ?_
    split at hmore
    · next hfirst =>
      split at hmore
      · next hquote =>
        subst hquote
        obtain ⟨blanks, tail, hblanks, rfl, rfl⟩ := peekSolid?_mark_sound (by decide) hpeek
        exact hkey (.of_ascii (ascii_of_blanks hblanks) _) (hfirst ▸ .first hblanks) hmore
      · exact absurd hmore (Reads.not_of_fault rfl)
    · next hlater =>
      split at hmore
      · next hcomma =>
        subst hcomma
        obtain ⟨blanks, tail, hblanks, rfl, rfl⟩ := peekSolid?_mark_sound (by decide) hpeek
        replace hmore := hmore.of_advance
        obtain ⟨c, _, hnext, hlast⟩ := hmore.of_bind
        split at hlast
        · exact absurd hlast (Reads.not_of_fault rfl)
        · obtain ⟨gap, more, hgap, htail, rfl⟩ := peekSolid?_mark_sound (by decide) hnext
          have hmark : Mark ',' (blanks ++ ([byte ','] ++ gap)) := ⟨blanks, gap, hblanks, hgap, rfl⟩
          have hbefore : Before isFirst (blanks ++ ([byte ','] ++ gap)) := by
            rw [Bool.eq_false_iff.mpr hlater]
            exact .later hmark
          rw [List.tail_cons] at htail
          subst htail
          refine hkey ?_ hbefore hlast
          simpa using Took.of_ascii (ascii_of_mark (by decide) hmark) (byte '"' :: more)
        · exact absurd hlast (Reads.not_of_fault rfl)
        · exact absurd hlast (Reads.not_of_fault rfl)
      · exact absurd hmore (Reads.not_of_fault rfl)

def Field.Sound (field : Field σ) : Prop :=
  ∀ {draft draft' s rest}, Reads (field.read draft) s draft' rest →
    ∃ blanks value, Blanks blanks ∧ Derives .value value ∧ Took s (blanks ++ value) rest ∧
      Accepts (field.read draft) value draft'

theorem member_sound (hfields : ∀ field ∈ r.fields, Field.Sound field) {draft draft' : σ}
    {name : String} (h : Reads (r.member draft name) s draft' rest) :
    ∃ colon value, Mark ':' colon ∧ Derives .value value ∧ Takes r draft (name, value) draft' ∧
      Took s (colon ++ value) rest := by
  rw [member] at h
  have hcolon {before blanks value middle : Bytes} (hbefore : Blanks before)
      (hblanks : Blanks blanks) (hvalue : Took middle (blanks ++ value) rest) :
      ∃ colon, Mark ':' colon ∧ Took (before ++ byte ':' :: middle) (colon ++ value) rest := by
    refine ⟨_, ⟨before, blanks, hbefore, hblanks, rfl⟩, ?_⟩
    simpa using (Took.mark hbefore (c := ':') (by decide) middle).trans hvalue
  cases hfield : r.field? name with
  | none =>
    rw [hfield] at h
    obtain ⟨_, _, hread, hmore⟩ := h.of_bind
    obtain ⟨before, hbefore, rfl⟩ := colon_sound hread
    obtain ⟨_, hskip, rfl⟩ := hmore.of_map
    obtain ⟨blanks, value, hblanks, hvalue, htook⟩ := skipValue_sound hskip
    obtain ⟨colon, hmark, hall⟩ := hcolon hbefore hblanks htook
    exact ⟨colon, value, hmark, hvalue, .unknown hfield, hall⟩
  | some field =>
    rw [hfield] at h
    dsimp only at h
    split at h
    · exact absurd h (Reads.not_of_fault rfl)
    · next hset =>
      obtain ⟨_, _, hread, hmore⟩ := h.of_bind
      obtain ⟨before, hbefore, rfl⟩ := colon_sound hread
      obtain ⟨blanks, value, hblanks, hvalue, htook, hagain⟩ :=
        hfields field (List.mem_of_find?_eq_some hfield) hmore
      obtain ⟨colon, hmark, hall⟩ := hcolon hbefore hblanks htook
      exact ⟨colon, value, hmark, hvalue,
        .field hfield (Bool.eq_false_iff.mpr hset) hagain, hall⟩

theorem memberStep_sound (hfields : ∀ field ∈ r.fields, Field.Sound field) {isFirst : Bool}
    {draft : σ} {turn : Turn (Bool × σ)} (h : Reads (r.memberStep (isFirst, draft)) s turn rest) :
    turn = .last (isFirst, draft) ∧ (∃ blanks, Blanks blanks ∧ s = blanks ++ rest) ∨
      ∃ lead name quoted colon value draft', turn = .more (false, draft') ∧ Before isFirst lead ∧
        Quotes name quoted ∧ Mark ':' colon ∧ Derives .value value ∧
        Takes r draft (name, value) draft' ∧
        Took s (lead ++ (quoted ++ (colon ++ value))) rest := by
  obtain ⟨name?, _, hkey, hmore⟩ := h.of_bind
  obtain ⟨rfl, hblanks⟩ | ⟨name, lead, quoted, rfl, hlead, hquotes, htook⟩ := nextKey?_sound hkey
  · obtain ⟨rfl, rfl⟩ := hmore.of_pure
    exact .inl ⟨rfl, hblanks⟩
  · obtain ⟨draft', hmember, rfl⟩ := hmore.of_map
    obtain ⟨colon, value, hcolon, hvalue, htakes, htookMember⟩ := member_sound hfields hmember
    refine .inr ⟨lead, name, quoted, colon, value, draft', rfl, hlead, hquotes, hcolon, hvalue,
      htakes, ?_⟩
    simpa using htook.trans htookMember

inductive TookMembers (isFirst : Bool) (s : Bytes) : List Member → Bytes → Prop
  | none {blanks rest : Bytes} (hblanks : Blanks blanks) (htook : Took s blanks rest) :
      TookMembers isFirst s [] rest
  | some {lead listed behind rest : Bytes} {members : List Member} (hlead : Before isFirst lead)
      (hmembers : Members members listed) (hbehind : Blanks behind)
      (htook : Took s (lead ++ (listed ++ behind)) rest) : TookMembers isFirst s members rest

theorem memberLoop_sound (hfields : ∀ field ∈ r.fields, Field.Sound field) {isFirst : Bool}
    {draft : σ} {state : Bool × σ}
    (h : Reads (iterate r.memberStep (isFirst, draft)) s state rest) :
    ∃ members, TakesAll r draft members state.2 ∧ TookMembers isFirst s members rest := by
  induction hlength : s.length using Nat.strongRecOn generalizing s isFirst draft with
  | ind n ih =>
    subst hlength
    obtain hlast | ⟨next, middle, hstep, hmore⟩ := iterate_sound h
    · obtain ⟨hturn, blanks, hblanks, rfl⟩ | ⟨_, _, _, _, _, _, hturn, -⟩ :=
        memberStep_sound hfields hlast
      · cases hturn
        exact ⟨[], .nil draft, .none hblanks (.of_ascii (ascii_of_blanks hblanks) rest)⟩
      · cases hturn
    · obtain ⟨hturn, -⟩ | ⟨lead, name, quoted, colon, value, draft', hturn, hlead, hquotes, hcolon,
        hvalue, htakes, htook⟩ := memberStep_sound hfields hstep
      · cases hturn
      · cases hturn
        have hless : middle.length < s.length := by
          refine htook.length_lt (List.append_ne_nil_of_right_ne_nil _ ?_)
          obtain ⟨pieces, -, rfl⟩ := hquotes
          exact List.cons_ne_nil _ _
        obtain ⟨-, hloop⟩ | ⟨hlong, -, -⟩ := hmore
        · obtain ⟨members, hall, htookMore⟩ := ih middle.length hless hloop rfl
          refine ⟨(name, value) :: members, .cons htakes hall, ?_⟩
          cases htookMore with
          | none hblanks htookBlanks =>
            refine .some hlead (.last hquotes hcolon hvalue) hblanks ?_
            simpa using htook.trans htookBlanks
          | some hnext hmembers hbehind htookMembers =>
            cases hnext with
            | later hcomma =>
              refine .some hlead (.cons hquotes hcolon hvalue hcomma hmembers) hbehind ?_
              simpa using htook.trans htookMembers
        · exact absurd hless hlong

theorem object_sound (hfields : ∀ field ∈ r.fields, Field.Sound field) {a : α}
    (h : Reads r.object s a rest) :
    ∃ members draft listed inside, TakesAll r r.blank members draft ∧ r.finish draft = .ok a ∧
      (members = [] ∧ listed = [] ∨ Members members listed) ∧ Padded listed inside ∧
      Took s inside rest := by
  obtain ⟨state, _, hloop, hmore⟩ := h.of_bind
  obtain ⟨members, hall, htook⟩ := memberLoop_sound hfields hloop
  rw [finished] at hmore
  split at hmore
  · next hfinish =>
    obtain ⟨rfl, rfl⟩ := hmore.of_pure
    cases htook with
    | none hblanks htookBlanks =>
      exact ⟨[], _, [], _, hall, hfinish, .inl ⟨rfl, rfl⟩, ⟨_, [], hblanks, .nil, by simp⟩,
        htookBlanks⟩
    | some hlead hmembers hbehind htookMembers =>
      cases hlead with
      | first hblanks =>
        exact ⟨members, _, _, _, hall, hfinish, .inr hmembers, ⟨_, _, hblanks, hbehind, rfl⟩,
          htookMembers⟩
  · exact absurd hmore (Reads.not_of_fault rfl)

theorem decode_sound (hfields : ∀ field ∈ r.fields, Field.Sound field) {bytes : Bytes} {a : α}
    (h : r.reader.decode bytes = .ok a) :
    (∃ members draft, Object members (mended bytes) ∧ TakesAll r r.blank members draft ∧
      r.finish draft = .ok a) ∨
    ∃ before after tail, Blanks before ∧ Blanks after ∧ bytes = before ++ byte '[' :: tail ∧
      Reads (closedBy r.list closeList) tail a after := by
  obtain ⟨after, hread, hafter⟩ := Reader.decode_sound h
  obtain ⟨c, _, hpeek, hmore⟩ := Reads.of_bind (settle_sound hread)
  split at hmore
  · exact absurd hmore (Reads.not_of_fault rfl)
  · obtain ⟨before, tail, hbefore, rfl, rfl⟩ := peekSolid?_mark_sound (by decide) hpeek
    have hlist := hmore.of_advance
    exact .inr ⟨before, after, tail, hbefore, hafter, rfl, hlist⟩
  · obtain ⟨before, tail, hbefore, rfl, rfl⟩ := peekSolid?_mark_sound (by decide) hpeek
    have hobject := hmore.of_advance
    obtain ⟨middle, hobject, hclose⟩ := closedBy_sound hobject
    obtain ⟨members, draft, listed, inside, hall, hfinish, hlisted, hpadded, htook⟩ :=
      object_sound hfields hobject
    obtain ⟨blanks, hblanks, rfl⟩ := closeObject_sound hclose
    obtain ⟨lead, behind, hlead, hbehind, rfl⟩ := hpadded
    have hend := Took.of_ascii (ascii_of_blanks hafter) []
    rw [List.append_nil] at hend
    have hwhole := ((Took.mark hbefore (c := '\x7b') (by decide) _).trans htook).trans
      ((Took.mark hblanks (c := '\x7d') (by decide) after).trans hend)
    have hpadded : Padded listed (lead ++ (listed ++ (behind ++ blanks))) :=
      ⟨lead, behind ++ blanks, hlead, List.forall_mem_append.mpr ⟨hbehind, hblanks⟩, rfl⟩
    refine .inl ⟨members, draft, ?_, hall, hfinish⟩
    refine ⟨listed, _, hlisted, hpadded, before, after, hbefore, hafter, ?_⟩
    simpa using hwhole.mended_eq
  · exact absurd hmore wrongType_sound

end Record

end Gatehouse.Json
