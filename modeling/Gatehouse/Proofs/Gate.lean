import Gatehouse.Gate
import Mathlib.Data.List.Basic

/-! Gates inside gates. However its gates are nested, a pipeline is the list of their checks: these
are made from left to right up to the first that objects, and its objection is that of the whole. -/

namespace Gatehouse

def Check.test (check : Check) (s : String) : Except Malformed Unit :=
  match check.objection s with
  | some refusal => .error refusal
  | none => .ok ()

/-- The passage of a text through a list of checks: all of them are made, or those up to the first
that objects. -/
inductive Passage.Through (s : String) (checks : List Check) : Passage → Prop
  | refused {before after : List Check} {check : Check} {refusal : Malformed}
    (hchecks : checks = before ++ check :: after)
    (hbefore : ∀ other ∈ before, other.objection s = none)
    (h : check.objection s = some refusal) : Through s checks ⟨before ++ [check], some refusal⟩
  | accepted (h : ∀ check ∈ checks, check.objection s = none) : Through s checks ⟨checks, none⟩

namespace Gate

mutual

def leaves : Gate → List Check
  | .check test => [test]
  | .chain gates => leavesAll gates

def leavesAll : List Gate → List Check
  | [] => []
  | gate :: gates => leaves gate ++ leavesAll gates

end

end Gate

namespace Passage.Through

variable {s : String} {checks more : List Check}

theorem singleton (check : Check) : Through s [check] ⟨[check], check.objection s⟩ := by
  cases h : check.objection s with
  | none => exact .accepted (List.forall_mem_singleton.mpr h)
  | some refusal =>
    have hchecks : [check] = [] ++ check :: [] := rfl
    exact .refused hchecks (List.forall_mem_nil _) h

theorem append_of_refused {trail : List Check} {refusal : Malformed}
    (h : Through s checks ⟨trail, some refusal⟩) (more : List Check) :
    Through s (checks ++ more) ⟨trail, some refusal⟩ := by
  cases h with
  | @refused before after check refusal hchecks hbefore h =>
    have hmore : checks ++ more = before ++ check :: (after ++ more) := by
      rw [hchecks, List.append_assoc, List.cons_append]
    exact .refused hmore hbefore h

theorem append {trail : List Check} {passage : Passage} (h : Through s checks ⟨trail, none⟩)
    (hmore : Through s more passage) :
    Through s (checks ++ more) ⟨trail ++ passage.trail, passage.refusal⟩ := by
  cases h with
  | accepted h =>
    cases hmore with
    | refused hmore hbefore hrefusal =>
      rw [hmore, ← List.append_assoc, ← List.append_assoc]
      exact .refused rfl (List.forall_mem_append.mpr ⟨h, hbefore⟩) hrefusal
    | accepted hmore => exact .accepted (List.forall_mem_append.mpr ⟨h, hmore⟩)

theorem refusal_eq {passage : Passage} (h : Through s checks passage) :
    passage.refusal = checks.findSome? fun check => check.objection s := by
  cases h with
  | refused hchecks hbefore h =>
    rw [hchecks, List.findSome?_append, List.findSome?_eq_none_iff.mpr hbefore, Option.none_or,
      List.findSome?_cons_of_isSome (by rw [h]; rfl), h]
  | accepted h => exact (List.findSome?_eq_none_iff.mpr h).symm

end Passage.Through

namespace Gate

open Passage

mutual

theorem through_pass (s : String) : (gate : Gate) → Through s gate.leaves (gate.pass s)
  | .check test => by
    rw [leaves, pass]
    exact .singleton test
  | .chain gates => by
    rw [leaves, pass]
    exact through_passAll s gates

theorem through_passAll (s : String) :
    (gates : List Gate) → Through s (leavesAll gates) (passAll s gates)
  | [] => .accepted (List.forall_mem_nil _)
  | gate :: gates => by
    -- The first gate decides whether the others are asked.
    have hgate := through_pass s gate
    rw [leavesAll, passAll]
    cases hpass : gate.pass s with
    | mk trail refusal =>
      rw [hpass] at hgate
      cases refusal with
      | some refusal => exact hgate.append_of_refused (leavesAll gates)
      | none => exact hgate.append (through_passAll s gates)

end

theorem leavesAll_append (gates more : List Gate) :
    leavesAll (gates ++ more) = leavesAll gates ++ leavesAll more := by
  induction gates with
  | nil => rfl
  | cons gate gates ih => rw [List.cons_append, leavesAll, leavesAll, ih, List.append_assoc]

end Gate

theorem Check.forM_test (checks : List Check) (s : String) :
    checks.forM (fun check => check.test s) =
      match checks.findSome? fun check => check.objection s with
      | some refusal => .error refusal
      | none => .ok () := by
  induction checks with
  | nil => rfl
  | cons check checks ih =>
    rw [List.findSome?_cons]
    change (check.test s >>= fun _ => checks.forM fun check => check.test s) = _
    rw [test]
    cases check.objection s with
    | some refusal => rfl
    | none => exact ih

namespace Pipeline

open Passage

variable (p : Pipeline) (s : String)

def leaves : List Check := Gate.leavesAll p.gates

theorem leaves_push (gate : Gate) : (p.push gate).leaves = p.leaves ++ gate.leaves := by
  rw [leaves, push, Gate.leavesAll_append, Gate.leavesAll, Gate.leavesAll, List.append_nil]
  rfl

theorem check_eq : p.check s = p.leaves.forM fun check => check.test s := by
  rw [Check.forM_test, leaves, ← (Gate.through_passAll s p.gates).refusal_eq]
  rfl

theorem run_eq : p.run s =
    match (p.pass s).refusal with
    | some refusal => .error refusal
    | none => .ok s := by
  rw [run, check]
  cases (p.pass s).refusal <;> rfl

theorem run_eq_ok_iff : p.run s = .ok s ↔ ∀ check ∈ p.leaves, check.objection s = none := by
  rw [← List.findSome?_eq_none_iff, run, check_eq, Check.forM_test]
  cases p.leaves.findSome? fun check => check.objection s with
  | none => exact iff_of_true rfl rfl
  | some refusal => exact iff_of_false nofun nofun

theorem run_eq_error_iff {refusal : Malformed} : p.run s = .error refusal ↔
    p.leaves.findSome? (fun check => check.objection s) = some refusal := by
  rw [run, check_eq, Check.forM_test]
  cases p.leaves.findSome? fun check => check.objection s with
  | none => exact iff_of_false nofun nofun
  | some found =>
    rw [Option.some.injEq]
    exact ⟨fun h => Except.error.inj h, fun h => congrArg Except.error h⟩

/-- However its gates are nested, a pipeline does what its checks do one after the other. A text is
handed back untouched where no check objects, in whatever order and how often they stand; else it
is refused by the first that objects, and those behind that one are not made. -/
theorem run_leaves (p : Pipeline) (s : String) :
    (p.check s = p.leaves.forM fun check => check.test s) ∧
    (p.run s = do p.leaves.forM fun check => check.test s; return s) ∧
    (p.run s = .ok s ↔ ∀ check ∈ p.leaves, check.objection s = none) ∧
    (∀ q : Pipeline, (∀ check, check ∈ q.leaves ↔ check ∈ p.leaves) →
      (q.run s = .ok s ↔ p.run s = .ok s)) ∧
    (∀ refusal, p.run s = .error refusal ↔
      p.leaves.findSome? (fun check => check.objection s) = some refusal) ∧
    Through s p.leaves (p.pass s) := by
  refine ⟨p.check_eq s, ?_, p.run_eq_ok_iff s, fun q hsame => ?_, fun _ => p.run_eq_error_iff s,
    Gate.through_passAll s p.gates⟩
  · rw [run, check_eq]
  · rw [run_eq_ok_iff, run_eq_ok_iff]
    exact forall_congr' fun check => imp_congr_left (hsame check)

/-- A pipeline that refuses inside another ends that one too; between the marks the UUID gate stands
twice, once in a pipeline of its own. -/
theorem run_leaves_nested :
    let inner := (empty.push empty.toGate).push Pipeline.uuid.toGate
    let outer := ((empty.push (.mark "before")).push inner.toGate).push (.mark "after")
    let flat := ((Pipeline.uuid.push (.mark "after")).push (.mark "before")).push (.uuid .standard)
    let user := "550e8400-e29b-41d4-a716-446655440000"
    outer.run "nope" = .error ⟨"UUID", "nope"⟩ ∧
      (outer.pass "nope").trail.map Check.tag = [some "before", none] ∧
      (outer.pass user).trail.map Check.tag = [some "before", none, some "after"] ∧
      (flat.run user = .ok user ↔ outer.run user = .ok user) := by
  intro inner outer flat user
  have hinner : inner.toGate.leaves = Pipeline.uuid.leaves := rfl
  have hgate : (Gate.uuid .standard).leaves = Pipeline.uuid.leaves := rfl
  have hempty : empty.leaves = [] := rfl
  have hsame : ∀ check, check ∈ flat.leaves ↔ check ∈ outer.leaves := by
    intro check
    simp only [flat, outer, leaves_push, hinner, hgate, hempty, List.nil_append, List.mem_append]
    tauto
  exact ⟨((run_leaves outer "nope").2.2.2.2.1 _).mpr (by decide), by decide, by decide,
    (run_leaves outer user).2.2.2.1 flat hsame⟩

end Pipeline

end Gatehouse
