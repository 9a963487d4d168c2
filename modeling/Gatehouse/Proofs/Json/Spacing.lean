import Gatehouse.Proofs.Json.Sound.FieldValue
import Gatehouse.Proofs.Json.Sound.Object

/-! Values that differ in their blanks only. Scalars have no blanks to differ in, and an object with
other blanks in it has the same members. -/

namespace Gatehouse.Json

open Reader

theorem Reader.Reads.rest_unique {α : Type} {x : Reader α} {a b : α} {s rest rest' : Bytes}
    (h : Reads x s a rest) (h' : Reads x s b rest') : rest = rest' :=
  (Prod.mk.inj (h.symm.trans h')).2

namespace Grammar

inductive Respaced : Kind → Bytes → Bytes → Prop
  | same {value : Bytes} (h : Derives .value value) : Respaced .value value value
  | emptyList {blanks blanks' : Bytes} (h : Blanks blanks) (h' : Blanks blanks') :
      Respaced .value (byte '[' :: (blanks ++ [byte ']'])) (byte '[' :: (blanks' ++ [byte ']']))
  | list {elements elements' bytes bytes' : Bytes} (h : Respaced .elements elements elements')
      (hpadded : Padded elements bytes) (hpadded' : Padded elements' bytes') :
      Respaced .value (byte '[' :: (bytes ++ [byte ']'])) (byte '[' :: (bytes' ++ [byte ']']))
  | emptyObject {blanks blanks' : Bytes} (h : Blanks blanks) (h' : Blanks blanks') :
      Respaced .value (byte '\x7b' :: (blanks ++ [byte '\x7d']))
        (byte '\x7b' :: (blanks' ++ [byte '\x7d']))
  | object {members members' bytes bytes' : Bytes} (h : Respaced .members members members')
      (hpadded : Padded members bytes) (hpadded' : Padded members' bytes') :
      Respaced .value (byte '\x7b' :: (bytes ++ [byte '\x7d']))
        (byte '\x7b' :: (bytes' ++ [byte '\x7d']))
  | element {value value' : Bytes} (h : Respaced .value value value') :
      Respaced .elements value value'
  | elements {value value' comma comma' more more' : Bytes} (hvalue : Respaced .value value value')
      (hcomma : Mark ',' comma) (hcomma' : Mark ',' comma')
      (hmore : Respaced .elements more more') :
      Respaced .elements (value ++ (comma ++ more)) (value' ++ (comma' ++ more'))
  | member {name colon colon' value value' : Bytes} (hname : Quoted name) (hcolon : Mark ':' colon)
      (hcolon' : Mark ':' colon') (hvalue : Respaced .value value value') :
      Respaced .members (name ++ (colon ++ value)) (name ++ (colon' ++ value'))
  | members {name colon colon' value value' comma comma' more more' : Bytes} (hname : Quoted name)
      (hcolon : Mark ':' colon) (hcolon' : Mark ':' colon') (hvalue : Respaced .value value value')
      (hcomma : Mark ',' comma) (hcomma' : Mark ',' comma')
      (hmore : Respaced .members more more') :
      Respaced .members (name ++ (colon ++ (value ++ (comma ++ more))))
        (name ++ (colon' ++ (value' ++ (comma' ++ more'))))

namespace Respaced

variable {kind : Kind} {bytes bytes' : Bytes}

theorem symm (h : Respaced kind bytes bytes') : Respaced kind bytes' bytes := by
  induction h with
  | same h => exact .same h
  | emptyList h h' => exact .emptyList h' h
  | list _ hpadded hpadded' ih => exact .list ih hpadded' hpadded
  | emptyObject h h' => exact .emptyObject h' h
  | object _ hpadded hpadded' ih => exact .object ih hpadded' hpadded
  | element _ ih => exact .element ih
  | elements _ hcomma hcomma' _ ih ihMore => exact .elements ih hcomma' hcomma ihMore
  | member hname hcolon hcolon' _ ih => exact .member hname hcolon' hcolon ih
  | members hname hcolon hcolon' _ hcomma hcomma' _ ih ihMore =>
    exact .members hname hcolon' hcolon ih hcomma' hcomma ihMore

theorem derives (h : Respaced kind bytes bytes') : Derives kind bytes := by
  induction h with
  | same h => exact h
  | emptyList h => exact .emptyList h
  | list _ hpadded _ ih => exact .list ih hpadded
  | emptyObject h => exact .emptyObject h
  | object _ hpadded _ ih => exact .object ih hpadded
  | element _ ih => exact .element ih
  | elements _ hcomma _ _ ih ihMore => exact .elements ih hcomma ihMore
  | member hname hcolon _ _ ih => exact .member hname hcolon ih
  | members hname hcolon _ _ hcomma _ _ ih ihMore => exact .members hname hcolon ih hcomma ihMore

theorem eq_of_head {b : UInt8} {tail value : Bytes} (h : Respaced .value (b :: tail) value)
    (hlist : b ≠ byte '[') (hobject : b ≠ byte '\x7b') : value = b :: tail := by
  cases h with
  | same => rfl
  | emptyList => exact absurd rfl hlist
  | list => exact absurd rfl hlist
  | emptyObject => exact absurd rfl hobject
  | object => exact absurd rfl hobject

theorem eq_null {value : Bytes} (h : Respaced .value null value) : value = null := by
  change Respaced .value (byte 'n' :: word ['u', 'l', 'l']) value at h
  exact h.eq_of_head (by decide) (by decide)

end Respaced

section Unambiguous

variable {a b s t : Bytes}

-- A front is found in one way: the reader that passes it by leaves one rest.
theorem Quoted.append_inj (ha : Quoted a) (hb : Quoted b) (h : a ++ s = b ++ t) :
    a = b ∧ s = t := by
  obtain ⟨tail, rfl, htail⟩ := reads_skipText ha
  obtain ⟨tail', rfl, htail'⟩ := reads_skipText hb
  have hsame : tail ++ s = tail' ++ t := (List.cons.inj h).2
  have hread := htail s
  rw [hsame] at hread
  obtain rfl := hread.rest_unique (htail' t)
  exact ⟨congrArg (byte '"' :: ·) (List.append_cancel_right hsame), rfl⟩

theorem value_append_inj (ha : Derives .value a) (hb : Derives .value b) (hs : EndsNumber s)
    (ht : EndsNumber t) (h : a ++ s = b ++ t) : a = b ∧ s = t := by
  have hread := reads_skipValue Blanks.nil ha hs
  rw [List.nil_append, h] at hread
  obtain rfl := hread.rest_unique (reads_skipValue Blanks.nil hb ht)
  exact ⟨List.append_cancel_right h, rfl⟩

def Solid (bytes : Bytes) : Prop := ∀ b ∈ bytes.head?, isBlank b = false

theorem solid_value {value : Bytes} (h : Derives .value value) (rest : Bytes) :
    Solid (value ++ rest) := by
  obtain ⟨b, tail, rfl, hsolid, -⟩ := value_head h
  intro first hfirst
  cases hfirst
  exact hsolid

theorem solid_mark {c : Char} (hc : IsMark c) (rest : Bytes) : Solid (byte c :: rest) := by
  intro first hfirst
  cases hfirst
  exact hc.2

theorem members_head {members : Bytes} (h : Derives .members members) :
    ∃ tail, members = byte '"' :: tail := by
  cases h with
  | member hname =>
    obtain ⟨pieces, -, rfl⟩ := hname
    exact ⟨_, rfl⟩
  | members hname =>
    obtain ⟨pieces, -, rfl⟩ := hname
    exact ⟨_, rfl⟩

theorem solid_members {members : Bytes} (h : Derives .members members) (rest : Bytes) :
    Solid (members ++ rest) := by
  obtain ⟨tail, rfl⟩ := members_head h
  exact solid_mark (by decide) _

theorem not_blanks_mark {c : Char} (hc : IsMark c) (before rest : Bytes) :
    ¬Blanks (before ++ byte c :: rest) := by
  intro h
  have hblank := isBlank_of_blanks h (byte c) (by simp)
  rw [hc.2] at hblank
  cases hblank

theorem Blanks.append_inj (ha : Blanks a) (hb : Blanks b) (hs : Solid s) (ht : Solid t)
    (h : a ++ s = b ++ t) : s = t := by
  have hread := reads_peekSolid? ha hs
  rw [h] at hread
  exact hread.rest_unique (reads_peekSolid? hb ht)

theorem Mark.append_inj {c : Char} (hc : IsMark c) (ha : Mark c a) (hb : Mark c b) (hs : Solid s)
    (ht : Solid t) (h : a ++ s = b ++ t) : s = t := by
  obtain ⟨before, after, hbefore, hafter, rfl⟩ := ha
  obtain ⟨before', after', hbefore', hafter', rfl⟩ := hb
  simp only [List.append_assoc, List.cons_append, List.nil_append] at h
  have hbehind := hbefore.append_inj hbefore' (solid_mark hc _) (solid_mark hc _) h
  exact hafter.append_inj hafter' hs ht (List.cons.inj hbehind).2

end Unambiguous

theorem endsNumber_blanks {blanks : Bytes} (h : Blanks blanks) : EndsNumber blanks := by
  have hends := EndsNumber.append h endsNumber_nil
  rwa [List.append_nil] at hends

theorem Mark.not_blanks {c : Char} (hc : IsMark c) {mark rest : Bytes} (h : Mark c mark) :
    ¬Blanks (mark ++ rest) := by
  obtain ⟨before, after, -, -, rfl⟩ := h
  rw [List.append_assoc]
  exact not_blanks_mark hc _ _

theorem member_append_inj {name name' colon colon' value value' s t : Bytes} (hname : Quoted name)
    (hname' : Quoted name') (hcolon : Mark ':' colon) (hcolon' : Mark ':' colon')
    (hvalue : Derives .value value) (hvalue' : Derives .value value') (hs : EndsNumber s)
    (ht : EndsNumber t)
    (h : name ++ (colon ++ (value ++ s)) = name' ++ (colon' ++ (value' ++ t))) :
    name = name' ∧ value = value' ∧ s = t := by
  obtain ⟨rfl, hbehindName⟩ := hname.append_inj hname' h
  have hbehindColon := hcolon.append_inj (by decide) hcolon' (solid_value hvalue _)
    (solid_value hvalue' _) hbehindName
  exact ⟨rfl, value_append_inj hvalue hvalue' hs ht hbehindColon⟩

abbrev MembersRespaced : List Member → List Member → Prop :=
  List.Forall₂ fun member other => member.1 = other.1 ∧ Respaced .value member.2 other.2

theorem Members.respaced {members : List Member} {listed text text' after behind : Bytes}
    (h : Members members listed) (hspacing : Respaced .members text text') (hafter : Blanks after)
    (hbehind : Blanks behind) (hsame : listed ++ after = text ++ behind) :
    ∃ others, Members others text' ∧ MembersRespaced members others := by
  have hends := endsNumber_blanks hafter
  have hends' := endsNumber_blanks hbehind
  -- Where one of the two ends and the other goes on, there would be a comma among the blanks.
  induction h generalizing text text' with
  | last hname hcolon hvalue =>
    cases hspacing with
    | member hname' hmark hmark' hrespaced =>
      simp only [List.append_assoc] at hsame
      obtain ⟨rfl, rfl, -⟩ := member_append_inj hname.quoted hname' hcolon hmark hvalue
        hrespaced.derives hends hends' hsame
      exact ⟨_, .last hname hmark' hrespaced.symm.derives, .cons ⟨rfl, hrespaced⟩ .nil⟩
    | members hname' hmark _ hrespaced hcomma =>
      simp only [List.append_assoc] at hsame
      obtain ⟨-, -, rfl⟩ := member_append_inj hname.quoted hname' hcolon hmark hvalue
        hrespaced.derives hends (endsNumber_append_comma hcomma _) hsame
      exact absurd hafter (hcomma.not_blanks (by decide))
  | cons hname hcolon hvalue hcomma hlisted ih =>
    cases hspacing with
    | member hname' hmark _ hrespaced =>
      simp only [List.append_assoc] at hsame
      obtain ⟨-, -, rfl⟩ := member_append_inj hname.quoted hname' hcolon hmark hvalue
        hrespaced.derives (endsNumber_append_comma hcomma _) hends' hsame
      exact absurd hbehind (hcomma.not_blanks (by decide))
    | members hname' hmark hmark' hrespaced hcommaMark hcommaMark' hmore =>
      simp only [List.append_assoc] at hsame
      obtain ⟨rfl, rfl, hbehindValue⟩ := member_append_inj hname.quoted hname' hcolon hmark hvalue
        hrespaced.derives (endsNumber_append_comma hcomma _)
        (endsNumber_append_comma hcommaMark _) hsame
      have hbehindComma := hcomma.append_inj (by decide) hcommaMark
        (solid_members hlisted.derives_members _) (solid_members hmore.derives _) hbehindValue
      obtain ⟨others, hothers, hsame⟩ := ih hmore hbehindComma
      exact ⟨_, .cons hname hmark' hrespaced.symm.derives hcommaMark' hothers,
        .cons ⟨rfl, hrespaced⟩ hsame⟩

theorem Members.respaced_object {members : List Member} {listed inside value : Bytes}
    (h : Members members listed) (hpadded : Padded listed inside)
    (hspacing : Respaced .value (byte '\x7b' :: (inside ++ [byte '\x7d'])) value) :
    ∃ others listed' inside', Members others listed' ∧ Padded listed' inside' ∧
      value = byte '\x7b' :: (inside' ++ [byte '\x7d']) ∧ MembersRespaced members others := by
  have hlisted := h.derives_members
  -- The whole text is set aside, since the cases have texts of their own between the brackets.
  generalize hvalue : byte '\x7b' :: (inside ++ [byte '\x7d']) = text at hspacing
  cases hspacing with
  | same =>
    refine ⟨members, listed, inside, h, hpadded, hvalue.symm, List.forall₂_same.mpr ?_⟩
    exact fun member hmember => ⟨rfl, .same (h.derives member hmember)⟩
  | emptyList => exact absurd (List.cons.inj hvalue).1 (by decide)
  | list => exact absurd (List.cons.inj hvalue).1 (by decide)
  | emptyObject hblanks =>
    obtain rfl := List.append_cancel_right (List.cons.inj hvalue).2
    obtain ⟨before, after, -, -, rfl⟩ := hpadded
    obtain ⟨tail, rfl⟩ := members_head hlisted
    exact absurd hblanks (not_blanks_mark (by decide) _ _)
  | object hmembers hpadded' hother =>
    obtain rfl := List.append_cancel_right (List.cons.inj hvalue).2
    obtain ⟨before, after, hbefore, hafter, rfl⟩ := hpadded
    obtain ⟨front, behind, hfront, hbehind, hinside⟩ := hpadded'
    have hsame := hbefore.append_inj hfront (solid_members hlisted _)
      (solid_members hmembers.derives _) hinside
    obtain ⟨others, hothers, hrespaced⟩ := h.respaced hmembers hafter hbehind hsame
    exact ⟨others, _, _, hothers, hother, rfl, hrespaced⟩

theorem respaced_emptyObject {blanks value : Bytes} (h : Blanks blanks)
    (hspacing : Respaced .value (byte '\x7b' :: (blanks ++ [byte '\x7d'])) value) :
    ∃ blanks', Blanks blanks' ∧ value = byte '\x7b' :: (blanks' ++ [byte '\x7d']) := by
  generalize hvalue : byte '\x7b' :: (blanks ++ [byte '\x7d']) = text at hspacing
  cases hspacing with
  | same => exact ⟨blanks, h, hvalue.symm⟩
  | emptyList => exact absurd (List.cons.inj hvalue).1 (by decide)
  | list => exact absurd (List.cons.inj hvalue).1 (by decide)
  | emptyObject _ hblanks' => exact ⟨_, hblanks', rfl⟩
  | object hmembers hpadded =>
    obtain rfl := List.append_cancel_right (List.cons.inj hvalue).2
    obtain ⟨before, after, -, -, rfl⟩ := hpadded
    obtain ⟨tail, hhead⟩ := members_head hmembers.derives
    rw [hhead] at h
    exact absurd h (not_blanks_mark (by decide) _ _)

theorem Object.respaced {members : List Member} {value value' bytes bytes' : Bytes}
    (h : Object members bytes) (hpadded : Padded value bytes)
    (hspacing : Respaced .value value value') (hpadded' : Padded value' bytes') :
    ∃ others, Object others bytes' ∧ MembersRespaced members others := by
  obtain ⟨listed, inside, hlisted, hinside, before, after, hbefore, hafter, rfl⟩ := h
  obtain ⟨front, behind, hfront, hbehind, hsame⟩ := hpadded
  have hbrace := hbefore.append_inj hfront (solid_mark (by decide) _)
    (solid_value hspacing.derives _) hsame
  obtain ⟨rfl, -⟩ := value_append_inj (derives_object hlisted hinside) hspacing.derives
    (endsNumber_blanks hafter) (endsNumber_blanks hbehind) hbrace
  rcases hlisted with ⟨rfl, rfl⟩ | hmembers
  · obtain ⟨blanks, hblanks, rfl⟩ := respaced_emptyObject hinside.blanks hspacing
    exact ⟨[], ⟨[], blanks, .inl ⟨rfl, rfl⟩, ⟨blanks, [], hblanks, .nil, by simp⟩, hpadded'⟩, .nil⟩
  · obtain ⟨others, listed', inside', hothers, hinside', rfl, hrespaced⟩ :=
      hmembers.respaced_object hinside hspacing
    exact ⟨others, ⟨listed', inside', .inr hothers, hinside', hpadded'⟩, hrespaced⟩

theorem Variant.respaced {name : String} {value value' : Bytes} (h : Variant name value)
    (hspacing : Respaced .value value value') : Variant name value' := by
  cases h with
  | text hquotes =>
    obtain ⟨pieces, -, rfl⟩ := hquotes.quoted
    rw [hspacing.eq_of_head (by decide) (by decide)]
    exact .text hquotes
  | object hquotes hcolon hpadded =>
    have hmembers : Members [(name, null)] _ := .last hquotes hcolon (.literal (by decide))
    obtain ⟨others, listed, inside, hothers, hinside, rfl, hrespaced⟩ :=
      hmembers.respaced_object hpadded hspacing
    obtain ⟨⟨other, value⟩, _, ⟨rfl, hnull⟩, hnone, rfl⟩ := List.forall₂_cons_left_iff.mp hrespaced
    obtain rfl := List.forall₂_nil_left_iff.mp hnone
    obtain rfl := hnull.eq_null
    cases hothers with
    | last hquotes' hcolon' => exact .object hquotes' hcolon' hinside
    | cons _ _ _ _ hmore => cases hmore

end Grammar

end Gatehouse.Json
