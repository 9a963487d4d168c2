import Gatehouse.Device
import Mathlib.Data.List.Basic

/-! What replacing a token does to the table, seen by its look-up and by its entries, and what a
store makes of an update. -/

namespace Gatehouse

namespace TokenTable

theorem mem_put {table : TokenTable} {id : ResourceId} {token : String}
    {entry : ResourceId × String} :
    entry ∈ table.put id token ↔ entry = (id, token) ∨ entry ∈ table ∧ entry.1 ≠ id := by
  simp [put]

@[simp] theorem get?_nil (id : ResourceId) : get? [] id = none := rfl

@[simp] theorem get?_put_self (table : TokenTable) (id : ResourceId) (token : String) :
    (table.put id token).get? id = some token := by
  simp [put, get?]

theorem get?_filter_of_ne (table : TokenTable) {id other : ResourceId} (h : other ≠ id) :
    get? (table.filter fun entry => entry.1 ≠ id) other = table.get? other := by
  induction table with
  | nil => rfl
  | cons entry table ih =>
    obtain ⟨key, value⟩ := entry
    by_cases hkey : key = id
    · subst hkey
      have hne : (other == key) = false := beq_eq_false_iff_ne.mpr h
      rw [List.filter_cons_of_neg (by simp), ih, get?, get?, List.lookup_cons, hne]
    · rw [List.filter_cons_of_pos (by simpa using hkey), get?, get?, List.lookup_cons,
        List.lookup_cons]
      simp only [get?] at ih
      rw [ih]

theorem get?_put_of_ne (table : TokenTable) {id other : ResourceId} (token : String)
    (h : other ≠ id) : (table.put id token).get? other = table.get? other := by
  have hne : (other == id) = false := beq_eq_false_iff_ne.mpr h
  rw [put, get?, List.lookup_cons, hne]
  exact get?_filter_of_ne table h

end TokenTable

namespace Store

def holding (store : Store) (id : ResourceId) (token : String) : Store :=
  { store with table := store.table.put id token }

theorem update_of_refused {store : Store} {token : String} (h : token ∈ store.refused)
    (id : ResourceId) : store.update id token = .error store.failure := by
  rw [update, if_pos h]

theorem update_of_not_refused {store : Store} {token : String} (h : token ∉ store.refused)
    (id : ResourceId) : store.update id token = .ok (store.holding id token) := by
  rw [update, if_neg h, holding]

theorem update_eq_error_iff {store : Store} {id : ResourceId} {token cause : String} :
    store.update id token = .error cause ↔ token ∈ store.refused ∧ store.failure = cause := by
  by_cases h : token ∈ store.refused
  · rw [update_of_refused h, Except.error.injEq, and_iff_right h]
  · rw [update_of_not_refused h]
    simp [h]

theorem update_eq_ok_iff {store after : Store} {id : ResourceId} {token : String} :
    store.update id token = .ok after ↔ token ∉ store.refused ∧ store.holding id token = after := by
  by_cases h : token ∈ store.refused
  · rw [update_of_refused h]
    simp [h]
  · rw [update_of_not_refused h, Except.ok.injEq, and_iff_right h]

end Store

end Gatehouse
