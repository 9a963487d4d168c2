import Gatehouse.Proofs.Json.Spacing
import Gatehouse.Proofs.Json.Sound.Slot
import Mathlib.Logic.Relation

/-! Edits of the members of an object that leave untouched what a reader looks for: it knows some
names, and asks for one value under each of them. -/

namespace Gatehouse.Json.Grammar

def Once (name : String) (p : Bytes → Prop) (members : List Member) : Prop :=
  ∃ value, valuesOf name members = [value] ∧ p value

def AtMostOnce {α : Type} (name : String) (means : α → Bytes → Prop) (a? : Option α)
    (members : List Member) : Prop :=
  valuesOf name members = [] ∧ a? = none ∨ Once name (OrNull means a?) members

/-- An edit that keeps the values of the known names. For some of them it is one to have no value
any more instead of the only one, which stands for none. -/
inductive Edit (known mayLack : List String) : List Member → List Member → Prop
  | permute {members others : List Member} (h : members.Perm others) :
      Edit known mayLack members others
  | respace {members others : List Member} (h : MembersRespaced members others) :
      Edit known mayLack members others
  | unknown {member : Member} {members : List Member} (h : member.1 ∉ known) :
      Edit known mayLack members (member :: members)
  | lack {name : String} {members : List Member} (hname : name ∈ mayLack)
      (h : ∀ member ∈ members, member.1 ≠ name) :
      Edit known mayLack ((name, null) :: members) members

abbrev Edited (known mayLack : List String) : List Member → List Member → Prop :=
  Relation.EqvGen (Edit known mayLack)

variable {name : String} {members others : List Member} {known mayLack : List String}

theorem Edited.iff {p : List Member → Prop}
    (hp : ∀ members others, Edit known mayLack members others → (p members ↔ p others))
    (h : Edited known mayLack members others) : p members ↔ p others := by
  induction h with
  | rel members others hedit => exact hp members others hedit
  | refl => exact Iff.rfl
  | symm _ _ _ ih => exact ih.symm
  | trans _ _ _ _ _ ih ih' => exact ih.trans ih'

theorem MembersRespaced.valuesOf (h : MembersRespaced members others) :
    List.Forall₂ (Respaced .value) (valuesOf name members) (valuesOf name others) := by
  induction h with
  | nil => exact .nil
  | @cons member other members others hmember _ ih =>
    obtain ⟨first, value⟩ := member
    obtain ⟨_, value'⟩ := other
    obtain ⟨rfl, hspacing⟩ := hmember
    by_cases hname : name = first
    · subst hname
      rw [valuesOf_cons_self, valuesOf_cons_self]
      exact .cons hspacing ih
    · rw [valuesOf_cons_of_ne hname, valuesOf_cons_of_ne hname]
      exact ih

/-- What an edit does to the values under a known name: it permutes them, changes their blanks or
takes away one that stands for none. -/
theorem Edit.values (h : Edit known mayLack members others) (hname : name ∈ known) :
    (valuesOf name members).Perm (valuesOf name others) ∨
      List.Forall₂ (Respaced .value) (valuesOf name members) (valuesOf name others) ∨
      name ∈ mayLack ∧ valuesOf name members = [null] ∧ valuesOf name others = [] := by
  cases h with
  | permute hperm => exact .inl ((hperm.filter _).map _)
  | respace hspacing => exact .inr (.inl hspacing.valuesOf)
  | @unknown member _ hunknown =>
    obtain ⟨other, value⟩ := member
    have hother : name ≠ other := fun heq => hunknown (heq ▸ hname)
    rw [valuesOf_cons_of_ne hother]
    exact .inl (.refl _)
  | @lack other _ hmay hnone =>
    by_cases hother : name = other
    · subst hother
      have hnil : valuesOf name others = [] := by
        rw [valuesOf, List.filter_eq_nil_iff.mpr (by simpa using hnone), List.map_nil]
      exact .inr (.inr ⟨hmay, by rw [valuesOf_cons_self, hnil], hnil⟩)
    · rw [valuesOf_cons_of_ne hother]
      exact .inl (.refl _)

namespace Once

variable {p : Bytes → Prop}

theorem of_perm (honce : Once name p members)
    (h : (valuesOf name members).Perm (valuesOf name others)) : Once name p others := by
  obtain ⟨value, hvalues, hp⟩ := honce
  rw [hvalues] at h
  exact ⟨value, List.perm_singleton.mp h.symm, hp⟩

theorem of_respaced (honce : Once name p members)
    (hp : ∀ value value', p value → Respaced .value value value' → p value')
    (h : List.Forall₂ (Respaced .value) (valuesOf name members) (valuesOf name others)) :
    Once name p others := by
  obtain ⟨value, hvalues, hvalue⟩ := honce
  rw [hvalues] at h
  obtain ⟨value', _, hspacing, hnone, hothers⟩ := List.forall₂_cons_left_iff.mp h
  obtain rfl := List.forall₂_nil_left_iff.mp hnone
  exact ⟨value', hothers, hp value value' hvalue hspacing⟩

theorem edit_iff (hp : ∀ value value', p value → Respaced .value value value' → p value')
    (hname : name ∈ known) (hlack : name ∉ mayLack) (h : Edit known mayLack members others) :
    Once name p members ↔ Once name p others := by
  obtain hperm | hspacing | ⟨hmay, -⟩ := h.values hname
  · exact ⟨(of_perm · hperm), (of_perm · hperm.symm)⟩
  · have hback := hspacing.flip.imp fun _ _ hvalue => hvalue.symm
    exact ⟨(of_respaced · hp hspacing), (of_respaced · hp hback)⟩
  · exact absurd hmay hlack

theorem edited (honce : Once name p members)
    (hp : ∀ value value', p value → Respaced .value value value' → p value')
    (hname : name ∈ known) (hlack : name ∉ mayLack) (h : Edited known mayLack members others) :
    Once name p others :=
  (h.iff fun _ _ => edit_iff hp hname hlack).mp honce

end Once

namespace AtMostOnce

variable {α : Type} {means : α → Bytes → Prop} {a? : Option α}

theorem of_perm (honce : AtMostOnce name means a? members)
    (h : (valuesOf name members).Perm (valuesOf name others)) :
    AtMostOnce name means a? others := by
  obtain ⟨hnone, hlack⟩ | honce := honce
  · rw [hnone] at h
    exact .inl ⟨List.nil_perm.mp h, hlack⟩
  · exact .inr (honce.of_perm h)

theorem of_respaced (honce : AtMostOnce name means a? members)
    (hmeans : ∀ a value value', means a value → Respaced .value value value' → means a value')
    (h : List.Forall₂ (Respaced .value) (valuesOf name members) (valuesOf name others)) :
    AtMostOnce name means a? others := by
  obtain ⟨hnone, hlack⟩ | honce := honce
  · rw [hnone] at h
    exact .inl ⟨List.forall₂_nil_left_iff.mp h, hlack⟩
  · refine .inr (honce.of_respaced (fun value value' hvalue hspacing => ?_) h)
    cases a? with
    | none =>
      obtain rfl : value = null := hvalue
      exact hspacing.eq_null
    | some a => exact hmeans a value value' hvalue hspacing

theorem null_iff (hnull : ∀ a, ¬means a null) (h : valuesOf name members = [null])
    (hnil : valuesOf name others = []) :
    AtMostOnce name means a? members ↔ AtMostOnce name means a? others := by
  rw [AtMostOnce, AtMostOnce, Once, Once, h, hnil]
  cases a? with
  | none => simp [OrNull]
  | some a => simp [OrNull, hnull a]

theorem edited (honce : AtMostOnce name means a? members)
    (hmeans : ∀ a value value', means a value → Respaced .value value value' → means a value')
    (hnull : ∀ a, ¬means a null) (hname : name ∈ known) (h : Edited known mayLack members others) :
    AtMostOnce name means a? others := by
  refine (h.iff fun members others hedit => ?_).mp honce
  obtain hperm | hspacing | ⟨-, hvalues, hnil⟩ := hedit.values hname
  · exact ⟨(of_perm · hperm), (of_perm · hperm.symm)⟩
  · have hback := hspacing.flip.imp fun _ _ hvalue => hvalue.symm
    exact ⟨(of_respaced · hmeans hspacing), (of_respaced · hmeans hback)⟩
  · exact null_iff hnull hvalues hnil

end AtMostOnce

end Gatehouse.Json.Grammar
