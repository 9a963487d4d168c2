import Gatehouse.Http.Request
import Gatehouse.Proofs.Text.Decimal

/-! The declared length of a body. It may be declared more than once, in any spelling, as long as
all declarations name one number. -/

namespace Gatehouse.Http

namespace Headers

structure Declares (headers : Headers) (length : Nat) : Prop where
  sent : headers.values "content-length" ≠ []
  agreed : ∀ value ∈ headers.values "content-length", Text.Decimal.Denotes value.toList length

theorem declares_of_values {headers : Headers} {length : Nat}
    (h : headers.values "content-length" = [toString length]) : headers.Declares length where
  sent := by simp [h]
  agreed := by
    rw [h, List.forall_mem_singleton]
    exact Text.Decimal.denotes_toString length

end Headers

theorem Request.contentLength?_eq_some_iff {request : Request} {length : Nat} :
    request.contentLength? = some length ↔
      request.headers.Declares length ∧ length < UInt64.size := by
  have hread (value : String) :
      Text.Decimal.parseBelow? UInt64.size value.toList = some length ↔
        Text.Decimal.Denotes value.toList length ∧ length < UInt64.size :=
    Text.Decimal.parseBelow?_eq_some_iff
  unfold contentLength?
  constructor
  · intro h
    cases hvalues : request.headers.values "content-length" with
    | nil =>
      rw [hvalues] at h
      cases h
    | cons first others =>
      rw [hvalues] at h
      obtain ⟨hfirst, hothers⟩ := Option.filter_eq_some_iff.mp h
      obtain ⟨hdenotes, hbound⟩ := (hread first).mp hfirst
      refine ⟨⟨by simp [hvalues], ?_⟩, hbound⟩
      rw [hvalues, List.forall_mem_cons]
      refine ⟨hdenotes, fun other hother => ?_⟩
      exact ((hread other).mp (eq_of_beq (List.all_eq_true.mp hothers other hother))).1
  · rintro ⟨⟨hsent, hagreed⟩, hbound⟩
    cases hvalues : request.headers.values "content-length" with
    | nil => exact absurd hvalues hsent
    | cons first others =>
      rw [hvalues, List.forall_mem_cons] at hagreed
      refine Option.filter_eq_some_iff.mpr ⟨(hread first).mpr ⟨hagreed.1, hbound⟩, ?_⟩
      refine List.all_eq_true.mpr fun other hother => beq_iff_eq.mpr ?_
      exact (hread other).mpr ⟨hagreed.2 other hother, hbound⟩

end Gatehouse.Http
