import Gatehouse.Api.Action
import Gatehouse.Proofs.Http.Path

/-! The update route as one list of demands on a request. The route walks the path from segment to
segment; said by the places of the segments, its checks no longer depend on each other. -/

namespace Gatehouse.Api

open Http

def require (demand : Prop) [Decidable demand] (rejection : Rejection) : Except Rejection Unit :=
  if demand then .ok () else .error rejection

theorem require_of {demand : Prop} [Decidable demand] (h : demand) (rejection : Rejection) :
    require demand rejection = .ok () := if_pos h

theorem require_of_not {demand : Prop} [Decidable demand] (h : ¬demand) (rejection : Rejection) :
    require demand rejection = .error rejection := if_neg h

theorem methodIs_eq (name : String) (request : Request) :
    methodIs name request = require (request.method = name) (.of .methodNotAllowed) := rfl

def userOf (segment : List Char) : Except Rejection ResourceId :=
  match Param.accept .uuid (String.ofList segment) with
  | .ok id => .ok id
  | .error cause => .error (.of (.api (.malformed cause)))

theorem segment_eq (name : String) (path : Path) :
    segment name path = do
      require (path.segment 0 = name.toList) .notFound
      return path.next.2 := by
  rw [segment, Path.step?_eq]
  by_cases h : path.segment 0 = name.toList
  · rw [if_pos h, require_of h]
    rfl
  · rw [if_neg h, require_of_not h]
    rfl

theorem take_eq (path : Path) :
    Param.take .uuid path = do
      require (path.segment 0 ≠ []) .notFound
      let id ← userOf (path.segment 0)
      return (id, path.next.2) := by
  rw [Param.take, Path.segment_zero]
  obtain ⟨first, rest⟩ := path.next
  by_cases h : first = []
  · rw [require_of_not (by simpa using h), h]
    rfl
  · have hnot : ¬first.isEmpty = true := by simpa using h
    rw [require_of h, userOf]
    simp only [if_neg hnot]
    cases Param.accept .uuid (String.ofList first) with
    | ok id => rfl
    | error cause => rfl

theorem atEnd_eq (path : Path) : atEnd path = require (path.endsAfter 0) .notFound := by
  by_cases h : path = []
  · rw [require_of (path.endsAfter_zero.mpr h), h]
    rfl
  · rw [require_of_not (fun hend => h (path.endsAfter_zero.mp hend)), atEnd,
      if_neg (by simpa using h)]

theorem require_congr {p q : Prop} [Decidable p] [Decidable q] (h : p ↔ q)
    (rejection : Rejection) : require p rejection = require q rejection := by
  by_cases hp : p
  · rw [require_of hp, require_of (h.mp hp)]
  · rw [require_of_not hp, require_of_not (fun hq => hp (h.mpr hq))]

theorem updateAction_eq (request : Request) :
    updateAction request = do
      methodIs "PATCH" request
      require (request.path.segment 0 = "users".toList) .notFound
      require (request.path.segment 1 ≠ []) .notFound
      let id ← userOf (request.path.segment 1)
      require (request.path.segment 2 = "fcm-token".toList) .notFound
      require (request.path.endsAfter 3) .notFound
      checkLength request
      checkType request
      return .update id (← readBody request) := by
  -- Nothing behind the third segment, said from where the walk has come to.
  have hend := ((request.path.endsAfter_succ 2).trans (request.path.next.2.endsAfter_succ 1)).trans
    (request.path.next.2.next.2.endsAfter_succ 0)
  unfold updateAction
  refine bind_congr fun _ => ?_
  rw [segment_eq, bind_assoc]
  refine bind_congr fun _ => ?_
  rw [pure_bind, take_eq, bind_assoc, ← Path.segment_succ]
  refine bind_congr fun _ => ?_
  rw [bind_assoc]
  refine bind_congr fun id => ?_
  rw [pure_bind]
  -- The pair of user and path is taken apart here; no rewriting rule does that.
  change (do
    let path ← segment "fcm-token" request.path.next.2.next.2
    atEnd path
    checkLength request
    checkType request
    return Action.update id (← readBody request)) = _
  rw [segment_eq, bind_assoc, ← Path.segment_succ, ← Path.segment_succ]
  refine bind_congr fun _ => ?_
  rw [pure_bind, atEnd_eq, require_congr hend]

def isHealth (path : Path) : Prop := path.segment 0 = "health".toList ∧ path.endsAfter 1

instance (path : Path) : Decidable (isHealth path) := inferInstanceAs (Decidable (_ ∧ _))

theorem healthAction_eq (request : Request) :
    healthAction request = do
      require (isHealth request.path) .notFound
      methodIs "GET" request
      return .health := by
  rw [healthAction, segment_eq, bind_assoc]
  by_cases hname : request.path.segment 0 = "health".toList
  · have hpath : isHealth request.path ↔ request.path.next.2.endsAfter 0 := by
      rw [isHealth, Path.endsAfter_succ, and_iff_right hname]
    rw [require_of hname, require_congr hpath, ← atEnd_eq]
    rfl
  · rw [require_of_not hname, require_of_not fun h => hname h.1]
    rfl

theorem action_of_not_health {request : Request} (h : ¬isHealth request.path) :
    action request = updateAction request := by
  have hhealth : healthAction request = .error .notFound := by
    rw [healthAction_eq, require_of_not h]
    rfl
  rw [action, hhealth]
  -- That the path is not that of the health route vanishes beside any other refusal.
  cases updateAction request with
  | ok action => rfl
  | error second => cases second <;> rfl

variable {a b : Request}

theorem checkType_congr (h : a.headers.get? "content-type" = b.headers.get? "content-type") :
    checkType a = checkType b := by
  rw [checkType, checkType, h]

theorem healthAction_congr (hmethod : a.method = b.method)
    (hpath : isHealth a.path ↔ isHealth b.path) : healthAction a = healthAction b := by
  rw [healthAction_eq, healthAction_eq, methodIs_eq, methodIs_eq, hmethod, require_congr hpath]

end Gatehouse.Api
