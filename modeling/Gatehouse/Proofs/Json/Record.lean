import Gatehouse.Json.Record
import Gatehouse.Proofs.Json.Skip

/-! Reading the text of an object as a record. A member either sets its field or, under an unknown
name, is passed by; a draft that the members lead to and that can be finished is what is read. -/

namespace Gatehouse.Json

open Grammar

namespace Reader

theorem reads_string {s : String} {blanks value : Bytes} (hblanks : Blanks blanks)
    (h : Quotes s value) (rest : Bytes) : Reads string (blanks ++ (value ++ rest)) s rest := by
  obtain ⟨tail, rfl, htail⟩ := reads_text h
  exact (reads_peekSolid?_mark hblanks (by decide) _).bind ((reads_advance _ _).bind (htail rest))

/-- A value that is read wherever it stands, blanks before it, as long as a number would end
there. -/
def Accepts {α : Type} (x : Reader α) (value : Bytes) (a : α) : Prop :=
  ∀ blanks rest : Bytes, Blanks blanks → EndsNumber rest →
    Reads x (blanks ++ (value ++ rest)) a rest

theorem Accepts.map {α β : Type} {x : Reader α} {value : Bytes} {a : α} (h : Accepts x value a)
    (f : α → β) : Accepts (do return f (← x)) value (f a) := fun blanks rest hblanks hrest =>
  (h blanks rest hblanks hrest).map f

theorem Accepts.decode {α : Type} {x : Reader α} {value : Bytes} {a : α} (h : Accepts x value a) :
    x.decode value = .ok a := by
  have hread := h [] [] Blanks.nil endsNumber_nil
  rw [List.nil_append, List.append_nil] at hread
  exact decode_of_reads Blanks.nil hread

theorem accepts_string {s : String} {value : Bytes} (h : Quotes s value) : Accepts string value s :=
  fun _ rest hblanks _ => reads_string hblanks h rest

theorem reads_closeObject (rest : Bytes) : Reads closeObject (byte '\x7d' :: rest) () rest :=
  (reads_peekSolid?_mark Blanks.nil (by decide) rest).bind (reads_advance _ rest)

theorem reads_closeList {blanks : Bytes} (hblanks : Blanks blanks) (rest : Bytes) :
    Reads closeList (blanks ++ byte ']' :: rest) () rest :=
  (reads_peekSolid?_mark hblanks (by decide) rest).bind (reads_advance _ rest)

theorem reads_nextElement? {blanks : Bytes} (hblanks : Blanks blanks) {c : Char} (hmark : IsMark c)
    (hc : c ≠ ']') (rest : Bytes) :
    Reads (nextElement? true) (blanks ++ byte c :: rest) true (byte c :: rest) := by
  refine (reads_peekSolid?_mark hblanks hmark rest).bind ?_
  split
  · next heq => cases heq
  · next heq => exact absurd (Option.some.inj heq) hc
  · exact .pure true _

end Reader

namespace Record

open Reader

variable {σ α : Type} {r : Record σ α}

inductive Takes (r : Record σ α) : σ → Member → σ → Prop
  | unknown {draft : σ} {name : String} {value : Bytes} (h : r.field? name = none) :
      Takes r draft (name, value) draft
  | field {draft draft' : σ} {name : String} {value : Bytes} {field : Field σ}
      (h : r.field? name = some field) (hset : field.isSet draft = false)
      (hread : Accepts (field.read draft) value draft') :
      Takes r draft (name, value) draft'

inductive TakesAll (r : Record σ α) : σ → List Member → σ → Prop
  | nil (draft : σ) : TakesAll r draft [] draft
  | cons {draft draft' draft'' : σ} {member : Member} {members : List Member}
      (h : Takes r draft member draft') (hmore : TakesAll r draft' members draft'') :
      TakesAll r draft (member :: members) draft''

theorem TakesAll.append {draft draft' draft'' : σ} {members more : List Member}
    (h : TakesAll r draft members draft') (hmore : TakesAll r draft' more draft'') :
    TakesAll r draft (members ++ more) draft'' := by
  induction h with
  | nil => exact hmore
  | cons hmember _ ih => exact .cons hmember (ih hmore)

theorem TakesAll.unknown {members : List Member} (h : ∀ member ∈ members, r.field? member.1 = none)
    (draft : σ) : TakesAll r draft members draft := by
  induction members with
  | nil => exact .nil draft
  | cons member members ih =>
    obtain ⟨hmember, hmembers⟩ := List.forall_mem_cons.mp h
    exact .cons (.unknown hmember) (ih hmembers)

inductive Before : Bool → Bytes → Prop
  | first {lead : Bytes} (h : Blanks lead) : Before true lead
  | later {lead : Bytes} (h : Mark ',' lead) : Before false lead

theorem reads_key {name : String} {quoted : Bytes} (h : Quotes name quoted) (rest : Bytes) :
    Reads key (quoted ++ rest) (some name) rest := by
  obtain ⟨tail, rfl, htail⟩ := reads_text h
  exact (reads_advance _ _).bind ((htail rest).map some)

theorem reads_nextKey? {isFirst : Bool} {lead : Bytes} (hlead : Before isFirst lead) {name : String}
    {quoted : Bytes} (hname : Quotes name quoted) (rest : Bytes) :
    Reads (nextKey? isFirst) (lead ++ (quoted ++ rest)) (some name) rest := by
  have hkey := reads_key hname rest
  obtain ⟨pieces, -, rfl⟩ := hname
  cases hlead with
  | first hblanks => exact (reads_peekSolid?_mark hblanks (by decide) _).bind hkey
  | later hcomma =>
    obtain ⟨before, after, hbefore, hafter, rfl⟩ := hcomma
    simp only [List.append_assoc, List.singleton_append]
    exact (reads_peekSolid?_mark hbefore (by decide) _).bind
      ((reads_advance _ _).bind ((reads_peekSolid?_mark hafter (by decide) _).bind hkey))

theorem reads_nextKey?_closing {behind : Bytes} (hbehind : Blanks behind) (isFirst : Bool)
    (rest : Bytes) :
    Reads (nextKey? isFirst) (behind ++ byte '\x7d' :: rest) none (byte '\x7d' :: rest) :=
  (reads_peekSolid?_mark hbehind (by decide) rest).bind (.pure none _)

/-- A loop over the members of an object. What several members make of a draft is told by `all`, and
each step takes the first of them off. -/
structure MemberLoop (step : Bool × σ → Reader (Turn (Bool × σ)))
    (all : σ → List Member → σ → Prop) : Prop where
  none {draft draft' : σ} (h : all draft [] draft') : draft = draft'
  more {isFirst : Bool} {name : String} {lead quoted colon value rest : Bytes}
    {members : List Member} {draft draft'' : σ} (hlead : Before isFirst lead)
    (hname : Quotes name quoted) (hcolon : Mark ':' colon) (hvalue : Derives .value value)
    (hrest : EndsNumber rest) (h : all draft ((name, value) :: members) draft'') :
    ∃ draft', Reads (step (isFirst, draft)) (lead ++ (quoted ++ (colon ++ (value ++ rest))))
      (.more (false, draft')) rest ∧ all draft' members draft''
  closing {behind : Bytes} (hbehind : Blanks behind) (state : Bool × σ) (rest : Bytes) :
    Reads (step state) (behind ++ byte '\x7d' :: rest) (.last state) (byte '\x7d' :: rest)

namespace MemberLoop

variable {step : Bool × σ → Reader (Turn (Bool × σ))} {all : σ → List Member → σ → Prop}

theorem iterate_member (loop : MemberLoop step all) {isFirst : Bool} {name : String}
    {lead quoted colon value rest : Bytes} {members : List Member} {draft draft'' : σ}
    (hlead : Before isFirst lead) (hname : Quotes name quoted) (hcolon : Mark ':' colon)
    (hvalue : Derives .value value) (hrest : EndsNumber rest)
    (h : all draft ((name, value) :: members) draft'') :
    ∃ draft', iterate step (isFirst, draft) (lead ++ (quoted ++ (colon ++ (value ++ rest)))) =
      iterate step (false, draft') rest ∧ all draft' members draft'' := by
  obtain ⟨draft', hread, hmore⟩ := loop.more hlead hname hcolon hvalue hrest h
  have hlength := length_lt_of_value hvalue (lead ++ (quoted ++ colon)) rest
  exact ⟨draft', iterate_of_more hread (by simpa only [List.append_assoc] using hlength), hmore⟩

theorem reads_iterate (loop : MemberLoop step all) {members : List Member} {listed : Bytes}
    (h : Members members listed) {behind : Bytes} (hbehind : Blanks behind) (rest : Bytes) :
    ∀ {isFirst : Bool} {lead : Bytes} {draft draft' : σ}, Before isFirst lead →
      all draft members draft' →
      Reads (iterate step (isFirst, draft)) (lead ++ (listed ++ (behind ++ byte '\x7d' :: rest)))
        (false, draft') (byte '\x7d' :: rest) := by
  -- Each member leaves the comma behind it to the next.
  induction h with
  | last hname hcolon hvalue =>
    intro isFirst lead draft draft' hlead hall
    simp only [List.append_assoc]
    obtain ⟨last, hmember, hlast⟩ := loop.iterate_member hlead hname hcolon hvalue
      (EndsNumber.append hbehind (endsNumber_closing .object rest)) hall
    -- No comma follows, so the next step finds the bracket and ends the loop.
    obtain rfl := loop.none hlast
    exact hmember.trans (reads_iterate_of_last (loop.closing hbehind _ rest))
  | cons hname hcolon hvalue hcomma _ ih =>
    intro isFirst lead draft draft' hlead hall
    simp only [List.append_assoc]
    obtain ⟨next, hmember, hmore⟩ := loop.iterate_member hlead hname hcolon hvalue
      (endsNumber_append_comma hcomma _) hall
    exact hmember.trans (ih (.later hcomma) hmore)

theorem reads_inside (loop : MemberLoop step all) {members : List Member} {listed inside : Bytes}
    (h : members = [] ∧ listed = [] ∨ Members members listed) (hpadded : Padded listed inside)
    {draft draft' : σ} (hall : all draft members draft') (rest : Bytes) :
    ∃ isFirst, Reads (iterate step (true, draft)) (inside ++ byte '\x7d' :: rest)
      (isFirst, draft') (byte '\x7d' :: rest) := by
  obtain ⟨before, behind, hbefore, hbehind, rfl⟩ := hpadded
  simp only [List.append_assoc]
  rcases h with ⟨rfl, rfl⟩ | hmembers
  · -- Without members the blanks on both sides of them are one run.
    have hblanks : Blanks (before ++ behind) := fun b hb =>
      (List.mem_append.mp hb).elim (hbefore b) (hbehind b)
    obtain rfl := loop.none hall
    have hloop := reads_iterate_of_last (loop.closing hblanks (true, draft) rest)
    rw [List.append_assoc] at hloop
    exact ⟨true, hloop⟩
  · exact ⟨false, loop.reads_iterate hmembers hbehind rest (.first hbefore) hall⟩

end MemberLoop

theorem reads_member {draft draft' : σ} {name : String} {value colon rest : Bytes}
    (htakes : Takes r draft (name, value) draft') (hcolon : Mark ':' colon)
    (hvalue : Derives .value value) (hrest : EndsNumber rest) :
    Reads (r.member draft name) (colon ++ (value ++ rest)) draft' rest := by
  obtain ⟨before, after, hbefore, hafter, rfl⟩ := hcolon
  simp only [List.append_assoc, List.singleton_append]
  rw [member]
  cases htakes with
  | unknown h =>
    rw [h]
    exact (reads_colon hbefore _).bind ((reads_skipValue hafter hvalue hrest).map _)
  | field h hset hread =>
    rw [h]
    dsimp only
    rw [if_neg (Bool.not_eq_true _ ▸ hset)]
    exact (reads_colon hbefore _).bind (hread after rest hafter hrest)

theorem reads_memberStep {isFirst : Bool} {lead : Bytes} (hlead : Before isFirst lead)
    {draft draft' : σ} {name : String} {quoted colon value rest : Bytes}
    (htakes : Takes r draft (name, value) draft') (hname : Quotes name quoted)
    (hcolon : Mark ':' colon) (hvalue : Derives .value value) (hrest : EndsNumber rest) :
    Reads (r.memberStep (isFirst, draft)) (lead ++ (quoted ++ (colon ++ (value ++ rest))))
      (.more (false, draft')) rest :=
  (reads_nextKey? hlead hname _).bind ((reads_member htakes hcolon hvalue hrest).map _)

theorem memberLoop (r : Record σ α) : MemberLoop r.memberStep (TakesAll r) where
  none h := by
    cases h
    rfl
  more hlead hname hcolon hvalue hrest h := by
    cases h with
    | cons hmember hmore =>
      exact ⟨_, reads_memberStep hlead hmember hname hcolon hvalue hrest, hmore⟩
  closing hbehind state rest := (reads_nextKey?_closing hbehind state.1 rest).bind (.pure _ _)

theorem reads_object {members : List Member} {listed inside : Bytes}
    (h : members = [] ∧ listed = [] ∨ Members members listed) (hpadded : Padded listed inside)
    {draft : σ} (htakes : TakesAll r r.blank members draft) {a : α}
    (hfinish : r.finish draft = .ok a) (rest : Bytes) :
    Reads r.object (inside ++ byte '\x7d' :: rest) a (byte '\x7d' :: rest) := by
  have hfinished : Reads (r.finished draft) (byte '\x7d' :: rest) a (byte '\x7d' :: rest) := by
    rw [finished, hfinish]
    exact .pure a _
  obtain ⟨isFirst, hloop⟩ := r.memberLoop.reads_inside h hpadded htakes rest
  exact hloop.bind hfinished

theorem decode_object {members : List Member} {bytes : Bytes} (h : Object members bytes) {draft : σ}
    (htakes : TakesAll r r.blank members draft) {a : α} (hfinish : r.finish draft = .ok a) :
    r.reader.decode bytes = .ok a := by
  obtain ⟨listed, inside, hlisted, hpadded, before, after, hbefore, hafter, rfl⟩ := h
  have hobject := reads_object hlisted hpadded htakes hfinish after
  have hclosed := reads_closedBy hobject (reads_closeObject after)
  simp only [List.cons_append, List.append_assoc, List.nil_append]
  refine decode_of_reads hafter (reads_settle ?_)
  exact (reads_peekSolid?_mark hbefore (by decide) _).bind ((reads_advance _ _).bind hclosed)

end Record

end Gatehouse.Json
