import Gatehouse.Proofs.Json.Record

/-! The grammar is unambiguous. Quoted bytes spell one string, and the members of an object are
found in its text in one way: a reader that keeps every member as it stands would answer with both
readings. -/

namespace Gatehouse.Json

open Grammar Reader

theorem Grammar.Quotes.unique {a b : String} {bytes : Bytes} (ha : Quotes a bytes)
    (hb : Quotes b bytes) : a = b :=
  Except.ok.inj ((accepts_string ha).decode.symm.trans (accepts_string hb).decode)

def Reader.verbatim : Reader Bytes := fun s =>
  let solid := s.dropWhile isBlank
  match skipValue solid with
  | (.ok (), rest) => (.ok (solid.take (solid.length - rest.length)), rest)
  | (.error fault, rest) => (.error fault, rest)

theorem Reader.accepts_verbatim {value : Bytes} (h : Derives .value value) :
    Accepts verbatim value value := by
  intro blanks rest hblanks hrest
  have hsolid : (blanks ++ (value ++ rest)).dropWhile isBlank = value ++ rest := by
    obtain ⟨b, tail, rfl, hb, -⟩ := value_head h
    rw [List.dropWhile_append_of_pos (isBlank_of_blanks hblanks), List.cons_append,
      List.dropWhile_cons_of_neg (Bool.eq_false_iff.mp hb)]
  have hskip : skipValue (value ++ rest) = (.ok (), rest) := reads_skipValue .nil h hrest
  have hlength : (value ++ rest).length - rest.length = value.length := by
    rw [List.length_append, Nat.add_sub_cancel]
  rw [Reads, verbatim, hsolid]
  simp only [hskip, hlength, List.take_left]

namespace Record

def kept (name : String) : Field (List Member) :=
  ⟨name, true, fun _ => false, fun members => do return members ++ [(name, ← verbatim)]⟩

def gather (names : List String) : Record (List Member) (List Member) :=
  ⟨"", names.map kept, [], .ok⟩

theorem field?_gather {names : List String} {name : String} (h : name ∈ names) :
    (gather names).field? name = some (kept name) := by
  rw [field?, gather, List.find?_map]
  change (names.find? fun other => other == name).map kept = _
  cases hfound : names.find? fun other => other == name with
  | none => exact absurd (beq_self_eq_true name) (List.find?_eq_none.mp hfound name h)
  | some other =>
    have hother : other = name :=
      eq_of_beq (List.find?_some (p := fun other => other == name) hfound)
    rw [Option.map_some, hother]

theorem gather_takes {names : List String} {name : String} (hname : name ∈ names)
    {value : Bytes} (hvalue : Derives .value value) (before : List Member) :
    Takes (gather names) before (name, value) (before ++ [(name, value)]) :=
  .field (field?_gather hname) rfl ((accepts_verbatim hvalue).map _)

theorem gather_takesAll {names : List String} {members : List Member}
    (hnames : ∀ member ∈ members, member.1 ∈ names)
    (hvalues : ∀ member ∈ members, Derives .value member.2) (before : List Member) :
    TakesAll (gather names) before members (before ++ members) := by
  induction members generalizing before with
  | nil =>
    rw [List.append_nil]
    exact .nil before
  | cons member members ih =>
    obtain ⟨hname, hnames⟩ := List.forall_mem_cons.mp hnames
    obtain ⟨hvalue, hvalues⟩ := List.forall_mem_cons.mp hvalues
    have hmore := ih hnames hvalues (before ++ [member])
    rw [List.append_assoc, List.singleton_append] at hmore
    exact .cons (gather_takes hname hvalue before) hmore

end Record

theorem Grammar.Object.derives {members : List Member} {bytes : Bytes} (h : Object members bytes) :
    ∀ member ∈ members, Derives .value member.2 := by
  obtain ⟨listed, inside, ⟨rfl, -⟩ | hmembers, -⟩ := h
  · exact List.forall_mem_nil _
  · exact hmembers.derives

theorem Grammar.Object.unique {a b : List Member} {bytes : Bytes} (ha : Object a bytes)
    (hb : Object b bytes) : a = b := by
  have hread {members : List Member} (h : Object members bytes) (hsub : members ⊆ a ++ b) :
      (Record.gather ((a ++ b).map Prod.fst)).reader.decode bytes = .ok members :=
    have hnames : ∀ member ∈ members, member.1 ∈ (a ++ b).map Prod.fst :=
      fun _ hmember => List.mem_map_of_mem (hsub hmember)
    Record.decode_object h (Record.gather_takesAll hnames h.derives []) rfl
  exact Except.ok.inj
    ((hread ha (List.subset_append_left a b)).symm.trans (hread hb (List.subset_append_right a b)))

end Gatehouse.Json
