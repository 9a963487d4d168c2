import Gatehouse.Proofs.Api.ErrorBody

/-! Rejections put together in any way. However the filters that refused a request are nested, what
counts is the list of their causes from left to right: the first error of the service decides the
answer, or else the first unreadable body, and without either the rejection is nobody's. -/

namespace Gatehouse

open Http

namespace Http

/-- Rejections combined in any nesting. -/
inductive Combination where
  | notFound
  | one (cause : Cause)
  | either (left right : Combination)

namespace Combination

def rejection : Combination → Rejection
  | notFound => .notFound
  | one cause => .of cause
  | either left right => left.rejection.combine right.rejection

def causes : Combination → List Cause
  | notFound => []
  | one cause => [cause]
  | either left right => left.causes ++ right.causes

end Combination

theorem Rejection.causes_combine (left right : Rejection) :
    (left.combine right).causes = left.causes ++ right.causes := by
  cases left with
  | notFound => rfl
  | refused causes =>
    cases right with
    | notFound => exact (List.append_nil _).symm
    | refused more => rfl

theorem Combination.causes_rejection (combination : Combination) :
    combination.rejection.causes = combination.causes := by
  induction combination with
  | notFound => rfl
  | one cause => rfl
  | either left right hleft hright =>
    rw [rejection, causes, Rejection.causes_combine, hleft, hright]

theorem Combination.exists_of_causes (causes : Causes) :
    ∃ combination : Combination, combination.rejection = .refused causes := by
  induction causes with
  | one cause => exact ⟨one cause, rfl⟩
  | both left right hleft hright =>
    obtain ⟨first, hfirst⟩ := hleft
    obtain ⟨second, hsecond⟩ := hright
    refine ⟨either first second, ?_⟩
    rw [rejection, hfirst, hsecond]
    rfl

theorem Combination.exists_of_rejection (rejection : Rejection) :
    ∃ combination : Combination, combination.rejection = rejection := by
  cases rejection with
  | notFound => exact ⟨notFound, rfl⟩
  | refused causes => exact exists_of_causes causes

namespace Cause

def IsApi (cause : Cause) : Prop := ∃ error, cause = .api error

def IsBody (cause : Cause) : Prop := ∃ error, cause = .unreadableBody error

def told? : Cause → Option (Status × String × Log.Event)
  | api (.malformed cause) => some (.badRequest, cause.message, .malformedParameter cause.value)
  | api (.store cause) =>
    some (.internalServerError, "an unknown error has occurred", .storeFailed cause)
  | unreadableBody error =>
    some (.badRequest, bodyMessage error, .malformedBody (bodyMessage error))
  | _ => none

/-- The cause that decides an answer: the first error of the service, whatever stands before it, or
else the first unreadable body. -/
inductive Decides : List Cause → Cause → Prop
  | api {before after : List Cause} {error : Api.Error} (h : ∀ cause ∈ before, ¬cause.IsApi) :
      Decides (before ++ .api error :: after) (.api error)
  | body {before after : List Cause} {error : Json.Error}
      (hbefore : ∀ cause ∈ before, ¬cause.IsApi ∧ ¬cause.IsBody)
      (hafter : ∀ cause ∈ after, ¬cause.IsApi) :
      Decides (before ++ .unreadableBody error :: after) (.unreadableBody error)

end Cause

namespace Rejection

variable {rejection : Rejection}

section First

variable {β : Type} {find : Cause → Option β} (wrap : β → Cause)
  (hfind : ∀ cause b, find cause = some b ↔ cause = wrap b) {causes : List Cause}

include hfind

theorem find_eq_none_iff (cause : Cause) : find cause = none ↔ ¬∃ b, cause = wrap b := by
  simp only [Option.eq_none_iff_forall_ne_some, ne_eq, hfind, not_exists]

theorem findSome?_eq_some_iff_first {b : β} :
    causes.findSome? find = some b ↔ ∃ before after, causes = before ++ wrap b :: after ∧
      ∀ cause ∈ before, ¬∃ b, cause = wrap b := by
  rw [List.findSome?_eq_some_iff]
  constructor
  · rintro ⟨before, cause, after, rfl, hcause, hbefore⟩
    obtain rfl := (hfind cause b).mp hcause
    exact ⟨before, after, rfl, fun other hmem =>
      (find_eq_none_iff wrap hfind other).mp (hbefore other hmem)⟩
  · rintro ⟨before, after, rfl, hbefore⟩
    exact ⟨before, _, after, rfl, (hfind _ b).mpr rfl, fun other hmem =>
      (find_eq_none_iff wrap hfind other).mpr (hbefore other hmem)⟩

theorem findSome?_eq_none_iff_forall :
    causes.findSome? find = none ↔ ∀ cause ∈ causes, ¬∃ b, cause = wrap b := by
  rw [List.findSome?_eq_none_iff]
  exact forall₂_congr fun cause _ => find_eq_none_iff wrap hfind cause

end First

theorem apiError?_eq_some_iff {error : Api.Error} :
    rejection.apiError? = some error ↔ ∃ before after,
      rejection.causes = before ++ .api error :: after ∧ ∀ cause ∈ before, ¬cause.IsApi :=
  findSome?_eq_some_iff_first Cause.api fun cause b => by cases cause <;> simp

theorem apiError?_eq_none_iff :
    rejection.apiError? = none ↔ ∀ cause ∈ rejection.causes, ¬cause.IsApi :=
  findSome?_eq_none_iff_forall Cause.api fun cause b => by cases cause <;> simp

theorem bodyError?_eq_some_iff {error : Json.Error} :
    rejection.bodyError? = some error ↔ ∃ before after,
      rejection.causes = before ++ .unreadableBody error :: after ∧
        ∀ cause ∈ before, ¬cause.IsBody :=
  findSome?_eq_some_iff_first Cause.unreadableBody fun cause b => by cases cause <;> simp

theorem bodyError?_eq_none_iff :
    rejection.bodyError? = none ↔ ∀ cause ∈ rejection.causes, ¬cause.IsBody :=
  findSome?_eq_none_iff_forall Cause.unreadableBody fun cause b => by cases cause <;> simp

end Rejection

end Http

namespace Api

variable {rejection : Rejection} {cause : Cause}

theorem recover_of_apiError {error : Error} (h : rejection.apiError? = some error) :
    recover rejection = .ok (error.reply, error.event) := by
  rw [recover, h]

theorem recover_of_bodyError {error : Json.Error} (hapi : rejection.apiError? = none)
    (h : rejection.bodyError? = some error) :
    recover rejection =
      .ok (.ofError .badRequest (bodyMessage error), .malformedBody (bodyMessage error)) := by
  rw [recover, hapi, h]

theorem recover_of_neither (hapi : rejection.apiError? = none) (h : rejection.bodyError? = none) :
    recover rejection = .error rejection := by
  rw [recover, hapi, h]

theorem exists_decides (h : ∃ cause ∈ rejection.causes, cause.IsApi ∨ cause.IsBody) :
    ∃ cause, Cause.Decides rejection.causes cause := by
  cases hapi : rejection.apiError? with
  | some error =>
    obtain ⟨before, after, hcauses, hbefore⟩ := Rejection.apiError?_eq_some_iff.mp hapi
    exact ⟨.api error, hcauses ▸ .api hbefore⟩
  | none =>
    have hnone := Rejection.apiError?_eq_none_iff.mp hapi
    cases hbody : rejection.bodyError? with
    | some error =>
      obtain ⟨before, after, hcauses, hbefore⟩ := Rejection.bodyError?_eq_some_iff.mp hbody
      rw [hcauses, List.forall_mem_append, List.forall_mem_cons] at hnone
      exact ⟨.unreadableBody error, hcauses ▸ .body
        (fun cause hcause => ⟨hnone.1 cause hcause, hbefore cause hcause⟩) hnone.2.2⟩
    | none =>
      obtain ⟨cause, hcause, hkind⟩ := h
      exact absurd hkind
        (not_or.mpr ⟨hnone cause hcause, Rejection.bodyError?_eq_none_iff.mp hbody cause hcause⟩)

theorem recover_of_decides (h : Cause.Decides rejection.causes cause) :
    ∃ status message event, cause.told? = some (status, message, event) ∧
      recover rejection = .ok (.ofError status message, event) := by
  generalize hcauses : rejection.causes = causes at h
  cases h with
  | @api before after error hbefore =>
    have herror := Rejection.apiError?_eq_some_iff.mpr ⟨before, after, hcauses, hbefore⟩
    cases error with
    | malformed cause => exact ⟨_, _, _, rfl, recover_of_apiError herror⟩
    | store cause => exact ⟨_, _, _, rfl, recover_of_apiError herror⟩
  | @body before after error hbefore hafter =>
    have hapi : rejection.apiError? = none := by
      rw [Rejection.apiError?_eq_none_iff, hcauses, List.forall_mem_append, List.forall_mem_cons]
      exact ⟨fun cause hcause => (hbefore cause hcause).1, nofun, hafter⟩
    have herror := Rejection.bodyError?_eq_some_iff.mpr
      ⟨before, after, hcauses, fun cause hcause => (hbefore cause hcause).2⟩
    exact ⟨_, _, _, rfl, recover_of_bodyError hapi herror⟩

theorem recover_of_no_cause (h : ∀ cause ∈ rejection.causes, ¬(cause.IsApi ∨ cause.IsBody)) :
    recover rejection = .error rejection :=
  recover_of_neither
    (Rejection.apiError?_eq_none_iff.mpr fun cause hcause => (not_or.mp (h cause hcause)).1)
    (Rejection.bodyError?_eq_none_iff.mpr fun cause hcause => (not_or.mp (h cause hcause)).2)

/-- A rejection, put together in any way, is answered exactly if it has an error of the service or
an unreadable body among its causes. The one that decides is answered with its status and message
and reported by one event; without any the very same rejection comes back and nothing is reported.
Every rejection can be put together. -/
theorem recover_combination (combination : Combination) :
    let rejection := combination.rejection
    let causes := combination.causes
    ((∃ answer, recover rejection = .ok answer) ↔
      ∃ cause ∈ causes, cause.IsApi ∨ cause.IsBody) ∧
    ((∃ cause, Cause.Decides causes cause) ↔ ∃ cause ∈ causes, cause.IsApi ∨ cause.IsBody) ∧
    (∀ cause, Cause.Decides causes cause → ∃ status message event,
      cause.told? = some (status, message, event) ∧
      recover rejection = .ok (.ofError status message, event) ∧
      Service.refuse true rejection = (.ofError status message, [event])) ∧
    ((¬∃ cause ∈ causes, cause.IsApi ∨ cause.IsBody) →
      recover rejection = .error rejection ∧
      Service.refuse true rejection = (rejection.reply, [])) ∧
    ∀ other : Rejection, ∃ combination : Combination, combination.rejection = other := by
  intro rejection causes
  have hcauses : rejection.causes = causes := combination.causes_rejection
  rw [← hcauses]
  have hanswer : ∀ cause, Cause.Decides rejection.causes cause → ∃ status message event,
      cause.told? = some (status, message, event) ∧
      recover rejection = .ok (.ofError status message, event) :=
    fun cause h => recover_of_decides h
  have hnobody : (¬∃ cause ∈ rejection.causes, cause.IsApi ∨ cause.IsBody) →
      recover rejection = .error rejection := by
    intro h
    exact recover_of_no_cause fun cause hcause hkind => h ⟨cause, hcause, hkind⟩
  refine ⟨⟨?_, ?_⟩, ⟨?_, exists_decides⟩, ?_, ?_, Combination.exists_of_rejection⟩
  · rintro ⟨answer, hok⟩
    by_contra h
    rw [hnobody h] at hok
    cases hok
  · intro h
    obtain ⟨cause, hdecides⟩ := exists_decides h
    obtain ⟨_, _, _, -, hok⟩ := hanswer cause hdecides
    exact ⟨_, hok⟩
  · rintro ⟨cause, hdecides⟩
    by_contra h
    obtain ⟨_, _, _, -, hok⟩ := hanswer cause hdecides
    rw [hnobody h] at hok
    cases hok
  · intro cause hdecides
    obtain ⟨status, message, event, htold, hok⟩ := hanswer cause hdecides
    refine ⟨status, message, event, htold, hok, ?_⟩
    rw [Service.refuse, if_pos rfl, hok]
  · intro h
    refine ⟨hnobody h, ?_⟩
    rw [Service.refuse, if_pos rfl, hnobody h]

/-- An error of the service decides from behind an unreadable body, beside a failure of the store
that comes later, and wherever other causes stand. -/
theorem recover_combination_nested :
    let body : Json.Error := ⟨.endInValue, some ⟨1, 0⟩⟩
    let combination : Combination :=
      .either (.either .notFound (.one (.unreadableBody body)))
        (.either (.either (.one .methodNotAllowed) (.one (.api (.malformed ⟨"UUID", "42"⟩))))
          (.one (.api (.store "down"))))
    ∃ status message event, recover combination.rejection = .ok (.ofError status message, event) ∧
      (status, message, event) =
        (.badRequest, "Invalid UUID format: 42", .malformedParameter "42") := by
  intro body combination
  have hcauses : combination.causes = [.unreadableBody body, .methodNotAllowed] ++
      .api (.malformed ⟨"UUID", "42"⟩) :: [.api (.store "down")] := rfl
  have hdecides : Cause.Decides combination.causes (.api (.malformed ⟨"UUID", "42"⟩)) :=
    hcauses ▸ .api (by simp [Cause.IsApi])
  obtain ⟨-, -, hanswer, -, -⟩ := recover_combination combination
  obtain ⟨status, message, event, htold, hok, -⟩ := hanswer _ hdecides
  exact ⟨status, message, event, hok, (Option.some.inj htold).symm⟩

end Api

end Gatehouse
