import Gatehouse.Proofs.Json.Sound.FieldValue
import Gatehouse.Proofs.Json.Sound.Object
import Mathlib.Data.List.Nodup

/-! What a record is read from, told without an order. Each field of the draft is a slot of its own,
which the values under its name leave as it is or fill: there may be one value or none. -/

namespace Gatehouse.Json

open Grammar Reader Text.Utf8

namespace Grammar

def valuesOf (name : String) (members : List Member) : List Bytes :=
  (members.filter fun member => member.1 = name).map Prod.snd

variable {name other : String} {value : Bytes} {members : List Member}

@[simp]
theorem valuesOf_nil : valuesOf name [] = [] := rfl

@[simp]
theorem valuesOf_cons_self : valuesOf name ((name, value) :: members) =
    value :: valuesOf name members := by
  simp [valuesOf]

@[simp]
theorem valuesOf_cons_of_ne (h : name ≠ other) :
    valuesOf name ((other, value) :: members) = valuesOf name members := by
  simp [valuesOf, h.symm]

theorem exists_of_valuesOf (h : valuesOf name members = [value]) :
    ∃ before after, members = before ++ (name, value) :: after ∧
      ∀ member ∈ before ++ after, member.1 ≠ name := by
  induction members with
  | nil => cases h
  | cons member members ih =>
    obtain ⟨other, first⟩ := member
    by_cases hname : name = other
    · subst hname
      rw [valuesOf_cons_self] at h
      obtain ⟨rfl, hnone⟩ := List.cons.inj h
      refine ⟨[], members, rfl, fun member hmember hsame => ?_⟩
      have hmem : member.2 ∈ valuesOf name members := by
        simp only [valuesOf, List.mem_map, List.mem_filter, decide_eq_true_eq]
        exact ⟨member, ⟨hmember, hsame⟩, rfl⟩
      rw [hnone] at hmem
      cases hmem
    · rw [valuesOf_cons_of_ne hname] at h
      obtain ⟨before, after, rfl, hothers⟩ := ih h
      exact ⟨(other, first) :: before, after, rfl,
        List.forall_mem_cons.mpr ⟨Ne.symm hname, hothers⟩⟩

end Grammar

namespace Record

variable {σ α β : Type}

structure Slot (σ : Type) where
  Value : Type
  name : String
  mayLack : Bool
  get : σ → Option Value
  put : σ → Value → σ
  reader : Reader Value
  means : Value → Bytes → Prop
  recognises : Recognises reader means
  get_put (draft : σ) (value : Value) : get (put draft value) = some value

/-- What the values under its name make of a slot: it is set once at most, if it is not set yet. -/
inductive Fills (means : β → Bytes → Prop) : Option β → List Bytes → Option β → Prop
  | keep (held : Option β) : Fills means held [] held
  | fill {b : β} {value : Bytes} (h : means b value) : Fills means none [value] (some b)

namespace Fills

variable {means : β → Bytes → Prop} {first last : Option β} {b : β} {value : Bytes}
  {values : List Bytes}

theorem of_nil (h : Fills means first [] last) : first = last := by
  cases h
  rfl

theorem of_cons (h : Fills means first (value :: values) last) :
    ∃ held, first = none ∧ means held value ∧ values = [] ∧ last = some held := by
  cases h with
  | fill hmeans => exact ⟨_, rfl, hmeans, rfl, rfl⟩

theorem of_some (h : Fills means (some b) values last) : values = [] ∧ last = some b := by
  cases h
  exact ⟨rfl, rfl⟩

end Fills

namespace Slot

variable (slot : Slot σ)

def field : Field σ where
  name := slot.name
  mayLack := slot.mayLack
  isSet draft := (slot.get draft).isSome
  read draft := do return slot.put draft (← slot.reader)

theorem field_sound : Field.Sound slot.field := by
  intro draft draft' s rest h
  obtain ⟨value, hread, rfl⟩ := h.of_map
  obtain ⟨blanks, bytes, hblanks, hmeans, rfl⟩ := slot.recognises.sound hread
  have hderives := slot.recognises.derives hmeans
  refine ⟨blanks, bytes, hblanks, hderives, ?_, (slot.recognises.accepts hmeans).map _⟩
  exact (Took.of_ascii (ascii_of_blanks hblanks) _).trans
    ⟨bytes, rfl, mendsTo_of_derives hderives⟩

end Slot

structure Layout (r : Record σ α) (slots : List (Slot σ)) : Prop where
  fields : r.fields = slots.map Slot.field
  names : (slots.map Slot.name).Nodup
  frame : ∀ a ∈ slots, ∀ b ∈ slots, a.name ≠ b.name → ∀ draft value,
    b.get (a.put draft value) = b.get draft
  ext : ∀ draft draft', (∀ slot ∈ slots, slot.get draft = slot.get draft') → draft = draft'

namespace Layout

variable {r : Record σ α} {slots : List (Slot σ)} (layout : Layout r slots) {draft draft' : σ}
  {name : String} {value : Bytes} {members : List Member}

include layout

theorem eq_of_name {a b : Slot σ} (ha : a ∈ slots) (hb : b ∈ slots) (h : a.name = b.name) :
    a = b :=
  (List.nodup_map_iff_inj_on (layout.names.of_map _)).mp layout.names a ha b hb h

theorem exists_of_field? {field : Field σ} (h : r.field? name = some field) :
    ∃ slot ∈ slots, slot.name = name ∧ slot.field = field := by
  have hmem := List.mem_of_find?_eq_some h
  rw [layout.fields] at hmem
  obtain ⟨slot, hslot, rfl⟩ := List.mem_map.mp hmem
  have hname := List.find?_some h
  exact ⟨slot, hslot, eq_of_beq hname, rfl⟩

theorem field?_eq {slot : Slot σ} (h : slot ∈ slots) : r.field? slot.name = some slot.field := by
  cases hfield : r.field? slot.name with
  | none =>
    rw [field?, layout.fields, List.find?_eq_none] at hfield
    exact absurd (beq_self_eq_true slot.name) (hfield slot.field (List.mem_map_of_mem h))
  | some field =>
    obtain ⟨other, hother, hname, rfl⟩ := layout.exists_of_field? hfield
    rw [layout.eq_of_name hother h hname]

theorem field?_eq_none (h : ∀ slot ∈ slots, slot.name ≠ name) : r.field? name = none := by
  rw [Option.eq_none_iff_forall_ne_some]
  intro field hfield
  obtain ⟨slot, hslot, hname, -⟩ := layout.exists_of_field? hfield
  exact h slot hslot hname

theorem takes_slot {slot : Slot σ} (hslot : slot ∈ slots) (hnone : slot.get draft = none)
    {held : slot.Value} (h : slot.means held value) :
    Takes r draft (slot.name, value) (slot.put draft held) :=
  .field (layout.field?_eq hslot) (congrArg Option.isSome hnone)
    ((slot.recognises.accepts h).map (slot.put draft))

theorem of_takes (h : Takes r draft (name, value) draft') (hvalue : Derives .value value) :
    (∀ slot ∈ slots, slot.name ≠ name) ∧ draft' = draft ∨
      ∃ slot ∈ slots, slot.name = name ∧ slot.get draft = none ∧
        ∃ held, slot.means held value ∧ draft' = slot.put draft held := by
  cases h with
  | unknown hfield =>
    refine .inl ⟨fun slot hslot hname => ?_, rfl⟩
    rw [← hname, layout.field?_eq hslot] at hfield
    cases hfield
  | field hfield hset hread =>
    obtain ⟨slot, hslot, hname, rfl⟩ := layout.exists_of_field? hfield
    obtain ⟨held, hheld, rfl⟩ := (hread [] [] Blanks.nil endsNumber_nil).of_map
    obtain ⟨blanks, bytes, hblanks, hmeans, hsplit⟩ := slot.recognises.sound hheld
    rw [List.nil_append, List.append_nil, List.append_nil] at hsplit
    -- A value has no blanks in front of it.
    obtain ⟨b, tail, rfl, hsolid, -⟩ := value_head hvalue
    cases blanks with
    | nil =>
      rw [List.nil_append] at hsplit
      refine .inr ⟨slot, hslot, hname, ?_, held, hsplit ▸ hmeans, rfl⟩
      simpa [Slot.field] using hset
    | cons blank blanks =>
      obtain ⟨rfl, -⟩ := List.cons.inj hsplit
      rw [isBlank_of_blanks hblanks b List.mem_cons_self] at hsolid
      cases hsolid

theorem fills_of_takesAll (hvalues : ∀ member ∈ members, Derives .value member.2)
    (h : TakesAll r draft members draft') :
    ∀ slot ∈ slots,
      Fills slot.means (slot.get draft) (valuesOf slot.name members) (slot.get draft') := by
  induction members generalizing draft with
  | nil =>
    cases h
    exact fun slot _ => .keep _
  | cons member members ih =>
    obtain ⟨name, value⟩ := member
    obtain ⟨hvalue, hvalues⟩ := List.forall_mem_cons.mp hvalues
    cases h with
    | cons hmember hmore =>
      have hfills := ih hvalues hmore
      obtain ⟨hunknown, rfl⟩ | ⟨filled, hfilled, rfl, hnone, held, hmeans, rfl⟩ :=
        layout.of_takes hmember hvalue
      · intro slot hslot
        rw [valuesOf_cons_of_ne (hunknown slot hslot)]
        exact hfills slot hslot
      · intro slot hslot
        by_cases hname : slot.name = filled.name
        · obtain rfl := layout.eq_of_name hslot hfilled hname
          have hkept := hfills slot hslot
          rw [slot.get_put] at hkept
          rw [valuesOf_cons_self, hnone, hkept.of_some.1, hkept.of_some.2]
          exact .fill hmeans
        · have hframe := layout.frame filled hfilled slot hslot (Ne.symm hname) draft held
          rw [valuesOf_cons_of_ne hname, ← hframe]
          exact hfills slot hslot

theorem takesAll_of_fills
    (h : ∀ slot ∈ slots,
      Fills slot.means (slot.get draft) (valuesOf slot.name members) (slot.get draft')) :
    TakesAll r draft members draft' := by
  induction members generalizing draft with
  | nil =>
    obtain rfl := layout.ext draft draft' fun slot hslot => (h slot hslot).of_nil
    exact .nil draft
  | cons member members ih =>
    obtain ⟨name, value⟩ := member
    by_cases hknown : ∃ slot ∈ slots, slot.name = name
    · obtain ⟨filled, hfilled, rfl⟩ := hknown
      have hfill := h filled hfilled
      rw [valuesOf_cons_self] at hfill
      obtain ⟨held, hnone, hmeans, hnoMore, hlast⟩ := hfill.of_cons
      refine .cons (layout.takes_slot hfilled hnone hmeans) (ih fun slot hslot => ?_)
      by_cases hname : slot.name = filled.name
      · obtain rfl := layout.eq_of_name hslot hfilled hname
        rw [slot.get_put, hnoMore, hlast]
        exact .keep _
      · have hkept := h slot hslot
        rwa [valuesOf_cons_of_ne hname,
          ← layout.frame filled hfilled slot hslot (Ne.symm hname) draft held] at hkept
    · have hunknown : ∀ slot ∈ slots, slot.name ≠ name := fun slot hslot hname =>
        hknown ⟨slot, hslot, hname⟩
      refine .cons (.unknown (layout.field?_eq_none hunknown)) (ih fun slot hslot => ?_)
      have hfill := h slot hslot
      rwa [valuesOf_cons_of_ne (hunknown slot hslot)] at hfill

theorem field_sound : ∀ field ∈ r.fields, Field.Sound field := by
  rw [layout.fields, List.forall_mem_map]
  exact fun slot _ => slot.field_sound

theorem decode_eq_ok_iff {bytes : Bytes} (h : Object members bytes) {a : α} :
    r.reader.decode bytes = .ok a ↔
      ∃ draft, (∀ slot ∈ slots,
        Fills slot.means (slot.get r.blank) (valuesOf slot.name members) (slot.get draft)) ∧
        r.finish draft = .ok a := by
  rw [Record.decode_eq_ok_iff layout.field_sound h]
  refine exists_congr fun draft => and_congr_left fun _ => ?_
  exact ⟨layout.fills_of_takesAll h.derives, layout.takesAll_of_fills⟩

end Layout

end Record

end Gatehouse.Json
