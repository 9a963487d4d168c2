import Gatehouse.Proofs.Net.Address
import Gatehouse.Proofs.Text.Quoted

/-! The text of an address with a port tells which address and which port it is, and has no other
characters than digits and four marks. -/

namespace Gatehouse.Net

open Text

theorem V4.render_inj {a b : V4} (h : a.render = b.render) : a = b := by
  have hparse := V4.parse?_render a
  rw [h, V4.parse?_render b] at hparse
  exact (Option.some.inj hparse).symm

theorem V6.render_inj {a b : V6} (h : a.render = b.render) : a = b := by
  have hparse := V6.parse?_render a
  rw [h, V6.parse?_render b] at hparse
  exact (Option.some.inj hparse).symm

theorem toString_port_inj {port port' : UInt16}
    (h : toString port.toNat = toString port'.toNat) : port = port' := by
  have hport := port?_toString port
  rw [h, port?_toString port'] at hport
  exact (Option.some.inj hport).symm

section NotMem

variable {c : Char} (hdot : c ≠ '.') (hcolon : c ≠ ':') (hhex : hexValue? c.toNat = none)

include hhex

theorem isDigit_of_hexValue?_eq_none : Decimal.isDigit c = false := by
  rw [Bool.eq_false_iff]
  intro hdigit
  have hrange := Decimal.toNat_of_isDigit hdigit
  rw [hexValue?, if_pos hrange] at hhex
  cases hhex

theorem not_mem_toString (n : Nat) : c ∉ (toString n).toList := by
  rw [Nat.toString_eq_repr, Nat.toList_repr]
  intro hmem
  have hdigit := Decimal.isDigit_of_mem_digits hmem
  rw [isDigit_of_hexValue?_eq_none hhex] at hdigit
  cases hdigit

include hdot hcolon

theorem V6.not_mem_render (address : V6) : c ∉ address.render.toList := by
  have hgroups := V6.not_mem_joinGroups hcolon hhex
  rw [V6.render]
  cases address.mapped? with
  | some mapped =>
    have hf : c ≠ 'f' := by
      rintro rfl
      cases hhex
    have hmapped := mapped.not_mem_render hdot (isDigit_of_hexValue?_eq_none hhex)
    simpa [hcolon, hf] using hmapped
  | none =>
    dsimp only
    split
    · rw [String.toList_append, String.toList_append, toList_renderGroups, toList_renderGroups,
        List.mem_append, List.mem_append, not_or, not_or]
      exact ⟨⟨hgroups _, by simpa using hcolon⟩, hgroups _⟩
    · rw [toList_renderGroups]
      exact hgroups _

end NotMem

namespace Socket

theorem toList_render_v4 (address : V4) (port : UInt16) :
    (render ⟨.v4 address, port⟩).toList =
      address.render.toList ++ ':' :: (toString port.toNat).toList := by
  simp [render]

theorem toList_render_v6 (address : V6) (port : UInt16) :
    (render ⟨.v6 address, port⟩).toList =
      '[' :: (address.render.toList ++ ']' :: ':' :: (toString port.toNat).toList) := by
  simp [render]

def marks : List Char := ['.', ':', '[', ']']

theorem not_mem_render {c : Char} (hmarks : c ∉ marks) (hhex : hexValue? c.toNat = none)
    (socket : Socket) : c ∉ socket.render.toList := by
  obtain ⟨hdot, hcolon, hopen, hclose⟩ : c ≠ '.' ∧ c ≠ ':' ∧ c ≠ '[' ∧ c ≠ ']' := by
    simpa [marks] using hmarks
  obtain ⟨address, port⟩ := socket
  have hport := not_mem_toString hhex port.toNat
  cases address with
  | v4 address =>
    have haddress := address.not_mem_render hdot (isDigit_of_hexValue?_eq_none hhex)
    rw [toList_render_v4, List.mem_append, List.mem_cons]
    exact fun hmem => hmem.elim haddress fun hmem => hmem.elim hcolon hport
  | v6 address =>
    have haddress := address.not_mem_render hdot hcolon hhex
    simp only [toList_render_v6, List.mem_cons, List.mem_append, not_or]
    exact ⟨hopen, haddress, hclose, hcolon, hport⟩

theorem render_v4_ne_v6 (a : V4) (b : V6) (port port' : UInt16) :
    render ⟨.v4 a, port⟩ ≠ render ⟨.v6 b, port'⟩ := by
  intro h
  have hmem : '[' ∈ (render ⟨.v4 a, port⟩).toList := by
    rw [h, toList_render_v6]
    exact List.mem_cons_self
  rw [toList_render_v4, List.mem_append, List.mem_cons] at hmem
  rcases hmem with hmem | hmem | hmem
  · exact a.not_mem_render (by decide) (by decide) hmem
  · exact absurd hmem (by decide)
  · exact not_mem_toString (by decide) port.toNat hmem

theorem render_inj {a b : Socket} (h : a.render = b.render) : a = b := by
  -- The address ends at the first of these marks, for it has none of its own.
  have hcut {mark : Char} {run run' rest rest' : List Char} (hrun : mark ∉ run)
      (hrun' : mark ∉ run') (h : run ++ mark :: rest = run' ++ mark :: rest') :
      run = run' ∧ mark :: rest = mark :: rest' :=
    append_inj_of_run (p := (· != mark))
      (fun c hc => bne_iff_ne.mpr fun heq => hrun (heq ▸ hc))
      (fun c hc => bne_iff_ne.mpr fun heq => hrun' (heq ▸ hc)) (by simp) (by simp) h
  obtain ⟨address, port⟩ := a
  obtain ⟨address', port'⟩ := b
  cases address with
  | v4 a =>
    cases address' with
    | v4 b =>
      have hlist := congrArg String.toList h
      rw [toList_render_v4, toList_render_v4] at hlist
      obtain ⟨haddress, hrest⟩ := hcut (a.not_mem_render (by decide) (by decide))
        (b.not_mem_render (by decide) (by decide)) hlist
      obtain rfl := V4.render_inj (String.toList_inj.mp haddress)
      obtain rfl := toString_port_inj (String.toList_inj.mp (List.cons.inj hrest).2)
      rfl
    | v6 b => exact absurd h (render_v4_ne_v6 a b port port')
  | v6 a =>
    cases address' with
    | v4 b => exact absurd h.symm (render_v4_ne_v6 b a port' port)
    | v6 b =>
      have hlist := congrArg String.toList h
      rw [toList_render_v6, toList_render_v6] at hlist
      obtain ⟨haddress, hrest⟩ :=
        hcut (a.not_mem_render (by decide) (by decide) (by decide))
          (b.not_mem_render (by decide) (by decide) (by decide)) (List.cons.inj hlist).2
      obtain rfl := V6.render_inj (String.toList_inj.mp haddress)
      obtain rfl := toString_port_inj
        (String.toList_inj.mp (List.cons.inj (List.cons.inj hrest).2).2)
      rfl

end Socket

end Gatehouse.Net
