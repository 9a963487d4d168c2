import Gatehouse.Proofs.Api.Respond
import Mathlib.Data.List.Induction

/-! Requests served one after the other on one store. A step either writes one token or changes
nothing; a run therefore leaves, for each user, the token of the last request that was answered
204, and never an identifier or a token that should not be there. -/

namespace Gatehouse

open Http

def Store.empty (refused : TokenSet) (failure : String) : Store := ⟨refused, failure, []⟩

namespace Service

variable (service : Service) (store : Store)

def finalStore (requests : List (Calendar.UtcTime × Request)) : Store :=
  ((service.run store requests).getLast?.map Exchange.store).getD store

def trace (requests : List (Calendar.UtcTime × Request)) : List (Request × Exchange) :=
  (requests.map Prod.snd).zip (service.run store requests)

def isUpdateOf (id : ResourceId) (served : Request × Exchange) : Bool :=
  decide (served.2.reply.status = .noContent) && decide (served.1.userId? = some id)

def lastToken? (trace : List (Request × Exchange)) (id : ResourceId) : Option String :=
  (trace.filter (isUpdateOf id)).getLast?.bind fun served => served.1.token?

theorem length_run (requests : List (Calendar.UtcTime × Request)) :
    (service.run store requests).length = requests.length := by
  induction requests generalizing store with
  | nil => rfl
  | cons step requests ih => rw [run, List.length_cons, ih, List.length_cons]

@[simp] theorem finalStore_nil : service.finalStore store [] = store := rfl

theorem finalStore_cons (now : Calendar.UtcTime) (request : Request)
    (requests : List (Calendar.UtcTime × Request)) :
    service.finalStore store ((now, request) :: requests) =
      service.finalStore (service.respond now store request).store requests := by
  rw [finalStore, run, List.getLast?_cons, finalStore]
  cases (service.run (service.respond now store request).store requests).getLast? <;> rfl

theorem run_getElem? (requests : List (Calendar.UtcTime × Request)) (i : Nat) :
    (service.run store requests)[i]? = requests[i]?.map fun step =>
      service.respond step.1 (service.finalStore store (requests.take i)) step.2 := by
  induction requests generalizing store i with
  | nil => rfl
  | cons step requests ih =>
    obtain ⟨now, request⟩ := step
    cases i with
    | zero => rfl
    | succ i => rw [run, List.getElem?_cons_succ, ih, List.getElem?_cons_succ, List.take_succ_cons,
        finalStore_cons]

theorem run_concat (requests : List (Calendar.UtcTime × Request)) (now : Calendar.UtcTime)
    (request : Request) :
    service.run store (requests ++ [(now, request)]) =
      service.run store requests ++
        [service.respond now (service.finalStore store requests) request] := by
  induction requests generalizing store with
  | nil => rfl
  | cons step requests ih =>
    obtain ⟨before, first⟩ := step
    rw [List.cons_append, run, ih, run, finalStore_cons, List.cons_append]

theorem finalStore_concat (requests : List (Calendar.UtcTime × Request)) (now : Calendar.UtcTime)
    (request : Request) :
    service.finalStore store (requests ++ [(now, request)]) =
      (service.respond now (service.finalStore store requests) request).store := by
  rw [finalStore, run_concat, List.getLast?_concat]
  rfl

theorem trace_concat (requests : List (Calendar.UtcTime × Request)) (now : Calendar.UtcTime)
    (request : Request) :
    service.trace store (requests ++ [(now, request)]) = service.trace store requests ++
      [(request, service.respond now (service.finalStore store requests) request)] := by
  have hlength : (requests.map Prod.snd).length = (service.run store requests).length := by
    rw [List.length_map, length_run]
  rw [trace, List.map_append, run_concat, List.zip_append hlength, trace]
  rfl

theorem lastToken?_concat (trace : List (Request × Exchange)) (served : Request × Exchange)
    (id : ResourceId) :
    lastToken? (trace ++ [served]) id =
      if isUpdateOf id served then served.1.token? else lastToken? trace id := by
  rw [lastToken?, List.filter_append]
  by_cases h : isUpdateOf id served = true
  · rw [List.filter_cons_of_pos h, List.filter_nil, List.getLast?_concat, if_pos h]
    rfl
  · rw [List.filter_cons_of_neg h, List.filter_nil, List.append_nil, if_neg h, lastToken?]

structure Reflects (trace : List (Request × Exchange)) (refused : TokenSet) (store : Store) :
    Prop where
  sameRefusals : store.refused = refused
  lastTokens : ∀ id, store.table.get? id = lastToken? trace id
  entriesFound : ∀ entry ∈ store.table, store.table.get? entry.1 = some entry.2
  admissible : ∀ entry ∈ store.table,
    Uuid.Rule.standard.accepts entry.1.text = true ∧ entry.2 ∉ store.refused

theorem reflects_empty (refused : TokenSet) (failure : String) :
    Reflects [] refused (.empty refused failure) where
  sameRefusals := rfl
  lastTokens _ := rfl
  entriesFound _ h := absurd h List.not_mem_nil
  admissible _ h := absurd h List.not_mem_nil

theorem Reflects.unchanged {trace : List (Request × Exchange)} {refused : TokenSet} {store : Store}
    {served : Request × Exchange} (h : Reflects trace refused store)
    (hstatus : served.2.reply.status ≠ .noContent) :
    Reflects (trace ++ [served]) refused store where
  sameRefusals := h.sameRefusals
  lastTokens id := by
    rw [lastToken?_concat, if_neg (by simp [isUpdateOf, hstatus]), h.lastTokens]
  entriesFound := h.entriesFound
  admissible := h.admissible

theorem Reflects.holding {trace : List (Request × Exchange)} {refused : TokenSet} {store : Store}
    {served : Request × Exchange} {id : ResourceId} {token : String}
    (h : Reflects trace refused store) (hstatus : served.2.reply.status = .noContent)
    (hadmits : Api.Admits served.1 id token) (hfree : token ∉ store.refused) :
    Reflects (trace ++ [served]) refused (store.holding id token) where
  sameRefusals := h.sameRefusals
  lastTokens other := by
    rw [lastToken?_concat, Store.holding]
    by_cases hother : other = id
    · subst hother
      rw [if_pos (by simp [isUpdateOf, hstatus, hadmits.user]), hadmits.body]
      exact TokenTable.get?_put_self _ _ _
    · rw [if_neg (by simp [isUpdateOf, hadmits.user, Ne.symm hother])]
      exact (TokenTable.get?_put_of_ne _ _ hother).trans (h.lastTokens other)
  -- An older entry belongs to another user, since that of this one was removed.
  entriesFound entry hentry := by
    rcases TokenTable.mem_put.mp hentry with rfl | ⟨hold, hne⟩
    · exact TokenTable.get?_put_self _ _ _
    · exact (TokenTable.get?_put_of_ne _ _ hne).trans (h.entriesFound entry hold)
  admissible entry hentry := by
    rcases TokenTable.mem_put.mp hentry with rfl | ⟨hold, -⟩
    · exact ⟨hadmits.accepted, hfree⟩
    · exact h.admissible entry hold

theorem Reflects.step {trace : List (Request × Exchange)} {refused : TokenSet} {store : Store}
    (h : Reflects trace refused store) (now : Calendar.UtcTime) (request : Request) :
    Reflects (trace ++ [(request, service.respond now store request)]) refused
      (service.respond now store request).store := by
  obtain ⟨id, token, hadmits, hfree, hstatus, hstore⟩ | ⟨hstatus, hstore⟩ :=
    service.respond_cases now store request
  · rw [hstore]
    exact h.holding hstatus hadmits hfree
  · rw [hstore]
    exact h.unchanged hstatus

theorem reflects_run (refused : TokenSet) (failure : String)
    (requests : List (Calendar.UtcTime × Request)) :
    Reflects (service.trace (.empty refused failure) requests) refused
      (service.finalStore (.empty refused failure) requests) := by
  -- From the end of the run, because the last request is the one that decides.
  induction requests using List.reverseRecOn with
  | nil => exact reflects_empty refused failure
  | append_singleton requests step ih =>
    obtain ⟨now, request⟩ := step
    rw [trace_concat, finalStore_concat]
    exact ih.step service now request

/-- What a run on an empty store leaves in it, and which requests of the run changed it. -/
theorem run_store_contents (refused : TokenSet) (failure : String)
    (requests : List (Calendar.UtcTime × Request)) :
    (∀ id token,
      (service.finalStore (.empty refused failure) requests).table.get? id = some token ↔
        lastToken? (service.trace (.empty refused failure) requests) id = some token) ∧
    (∀ entry ∈ (service.finalStore (.empty refused failure) requests).table,
      lastToken? (service.trace (.empty refused failure) requests) entry.1 = some entry.2 ∧
        Uuid.Rule.standard.accepts entry.1.text = true ∧ entry.2 ∉ refused) ∧
    (∀ i exchange, (service.run (.empty refused failure) requests)[i]? = some exchange →
      exchange.reply.status ≠ .noContent →
        exchange.store = service.finalStore (.empty refused failure) (requests.take i)) := by
  have hreflects := service.reflects_run refused failure requests
  refine ⟨fun id token => ?_, fun entry hentry => ?_, fun i exchange hexchange hstatus => ?_⟩
  · rw [hreflects.lastTokens id]
  · obtain ⟨haccepts, hfree⟩ := hreflects.admissible entry hentry
    refine ⟨?_, haccepts, hreflects.sameRefusals ▸ hfree⟩
    rw [← hreflects.lastTokens entry.1, hreflects.entriesFound entry hentry]
  · rw [run_getElem?] at hexchange
    obtain ⟨⟨now, request⟩, -, rfl⟩ := Option.map_eq_some_iff.mp hexchange
    rcases service.respond_cases now _ request with ⟨_, _, _, _, hdone, _⟩ | ⟨_, hstore⟩
    · exact absurd hdone hstatus
    · exact hstore

end Service

end Gatehouse
