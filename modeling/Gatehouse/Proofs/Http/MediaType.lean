import Gatehouse.Http.MediaType
import Mathlib.Data.List.TakeWhile

/-! Which values name JSON as the type of a body: `application` and `json` in any case, behind the
latter a suffix that opens with `+`, then parameters. They are well formed if they are names with
values between semicolons. -/

namespace Gatehouse.Http.MediaType

def IsToken (cs : List Char) : Prop := cs ≠ [] ∧ ∀ c ∈ cs, isToken c = true

def IsBlank (cs : List Char) : Prop := ∀ c ∈ cs, c = ' '

def IsQuoted (cs : List Char) : Prop := ∀ c ∈ cs, c ≠ '"' ∧ isQuotable c = true

inductive ParameterValue : List Char → Prop
  | token {value : List Char} (h : IsToken value) : ParameterValue value
  -- Behind the quote that opens the value even a quote is taken for text.
  | quoted {first : Char} {text blanks : List Char} (hfirst : isQuotable first = true)
      (htext : IsQuoted text) (hblanks : IsBlank blanks) :
      ParameterValue ('"' :: first :: (text ++ '"' :: blanks))

/-- What may stand behind a semicolon. Nothing but the last value may be missing. -/
inductive Parameters : List Char → Prop
  | blank {blanks : List Char} (h : IsBlank blanks) : Parameters blanks
  | unvalued {blanks name : List Char} (hblanks : IsBlank blanks) (hname : IsToken name) :
      Parameters (blanks ++ (name ++ ['=']))
  | last {blanks name value : List Char} (hblanks : IsBlank blanks) (hname : IsToken name)
      (hvalue : ParameterValue value) : Parameters (blanks ++ (name ++ '=' :: value))
  | cons {blanks name value rest : List Char} (hblanks : IsBlank blanks) (hname : IsToken name)
      (hvalue : ParameterValue value) (hrest : Parameters rest) :
      Parameters (blanks ++ (name ++ '=' :: (value ++ ';' :: rest)))

structure Spells (value : String) (type subtype : List Char) : Prop where
  printable : ∀ c ∈ value.toList, isHeaderChar c = true
  isType : IsToken type
  isSubtype : ∀ c ∈ subtype, isToken c = true
  parts : ∃ rest, value.toList = type ++ '/' :: (subtype ++ rest) ∧
    (rest = [] ∨ subtype ≠ [] ∧ ∃ parameters, rest = ';' :: parameters ∧ Parameters parameters)

/-- A value that names JSON: a suffix of the subtype opens at its last `+`. -/
def IsJson (value : String) : Prop :=
  ∃ type subtype suffix, Spells value type (subtype ++ suffix) ∧
    type.map Char.toLower = "application".toList ∧ subtype.map Char.toLower = "json".toList ∧
    (suffix = [] ∨ ∃ tail, suffix = '+' :: tail ∧ '+' ∉ tail)

section Run

variable {run next : List Char → Bool} {allowed : Char → Bool} {stop : Char}
  (hcons : ∀ c cs, run (c :: cs) = if c = stop then next cs else allowed c && run cs)

include hcons

theorem run_append {front : List Char} (hfront : ∀ c ∈ front, c ≠ stop ∧ allowed c = true)
    (tail : List Char) : run (front ++ tail) = run tail := by
  induction front with
  | nil => rfl
  | cons c front ih =>
    obtain ⟨⟨hstop, hallowed⟩, hfront⟩ := List.forall_mem_cons.mp hfront
    rw [List.cons_append, hcons, if_neg hstop, hallowed, Bool.true_and, ih hfront]

theorem run_iff {cs : List Char} :
    run cs = true ↔ ∃ front tail, cs = front ++ tail ∧
      (∀ c ∈ front, c ≠ stop ∧ allowed c = true) ∧
      (tail = [] ∧ run [] = true ∨ ∃ rest, tail = stop :: rest ∧ next rest = true) := by
  constructor
  · intro h
    induction cs with
    | nil => exact ⟨[], [], rfl, List.forall_mem_nil _, .inl ⟨rfl, h⟩⟩
    | cons c cs ih =>
      rw [hcons] at h
      by_cases hstop : c = stop
      · rw [if_pos hstop] at h
        exact ⟨[], c :: cs, rfl, List.forall_mem_nil _, .inr ⟨cs, by rw [hstop], h⟩⟩
      · rw [if_neg hstop, Bool.and_eq_true] at h
        obtain ⟨front, tail, rfl, hfront, htail⟩ := ih h.2
        exact ⟨c :: front, tail, rfl, List.forall_mem_cons.mpr ⟨⟨hstop, h.1⟩, hfront⟩, htail⟩
  · rintro ⟨front, tail, rfl, hfront, htail⟩
    rw [run_append hcons hfront]
    obtain ⟨rfl, hnil⟩ | ⟨rest, rfl, hrest⟩ := htail
    · exact hnil
    · rw [hcons, if_pos rfl, hrest]

/-- A run that may not end the text has a character that stops it. -/
theorem run_iff_of_nil (hnil : run [] = false) {cs : List Char} :
    run cs = true ↔ ∃ front rest, cs = front ++ stop :: rest ∧
      (∀ c ∈ front, c ≠ stop ∧ allowed c = true) ∧ next rest = true := by
  rw [run_iff hcons, hnil]
  constructor
  · rintro ⟨front, _, rfl, hfront, ⟨-, hfalse⟩ | ⟨rest, rfl, hrest⟩⟩
    · cases hfalse
    · exact ⟨front, rest, rfl, hfront, hrest⟩
  · rintro ⟨front, rest, rfl, hfront, hrest⟩
    exact ⟨front, _, rfl, hfront, .inr ⟨rest, rfl, hrest⟩⟩

end Run

section Parameters

variable {cs : List Char}

theorem token_ne {stop : Char} (hstop : isToken stop = false) (c : Char) :
    c ≠ stop ∧ isToken c = true ↔ isToken c = true :=
  and_iff_right_of_imp fun h heq => Bool.noConfusion (hstop.symm.trans (heq ▸ h))

def Continues (tail : List Char) : Prop :=
  tail = [] ∨ ∃ rest, tail = ';' :: rest ∧ parametersOk .start rest = true

theorem name_iff : parametersOk .name cs = true ↔ ∃ name rest, cs = name ++ '=' :: rest ∧
    (∀ c ∈ name, isToken c = true) ∧ parametersOk .valueStart rest = true := by
  have htoken (c : Char) : c ≠ '=' ∧ isToken c = true ↔ isToken c = true := token_ne (by decide) c
  rw [run_iff_of_nil (fun c cs => by rw [parametersOk]) rfl]
  simp only [htoken]

theorem value_iff : parametersOk .value cs = true ↔ ∃ value tail, cs = value ++ tail ∧
    (∀ c ∈ value, isToken c = true) ∧ Continues tail := by
  have htoken (c : Char) : c ≠ ';' ∧ isToken c = true ↔ isToken c = true := token_ne (by decide) c
  rw [run_iff fun c cs => by rw [parametersOk]]
  simp only [htoken, parametersOk, and_true, Continues]

theorem quoted_iff : parametersOk .quoted cs = true ↔ ∃ text rest, cs = text ++ '"' :: rest ∧
    IsQuoted text ∧ parametersOk .quotedEnd rest = true :=
  run_iff_of_nil (fun c cs => by rw [parametersOk]) rfl

theorem quotedEnd_iff : parametersOk .quotedEnd cs = true ↔ ∃ blanks tail, cs = blanks ++ tail ∧
    IsBlank blanks ∧ Continues tail := by
  have hblank (c : Char) : c ≠ ';' ∧ (c == ' ') = true ↔ c = ' ' := by
    rw [beq_iff_eq]
    exact and_iff_right_of_imp fun h => h ▸ by decide
  rw [run_iff fun c cs => by rw [parametersOk]]
  simp only [hblank, parametersOk, and_true, Continues, IsBlank]

theorem valueStart_iff : parametersOk .valueStart cs = true ↔ cs = [] ∨
    ∃ value tail, cs = value ++ tail ∧ ParameterValue value ∧ Continues tail := by
  constructor
  · intro h
    rcases cs with - | ⟨c, cs⟩
    · exact .inl rfl
    right
    rw [parametersOk] at h
    split at h
    · next hquote =>
      subst hquote
      rcases cs with - | ⟨first, cs⟩
      · cases h
      rw [parametersOk, Bool.and_eq_true, quoted_iff] at h
      obtain ⟨hfirst, text, rest, rfl, htext, hend⟩ := h
      obtain ⟨blanks, tail, rfl, hblanks, htail⟩ := quotedEnd_iff.mp hend
      exact ⟨_, tail, by simp, .quoted hfirst htext hblanks, htail⟩
    · rw [Bool.and_eq_true, value_iff] at h
      obtain ⟨hc, value, tail, rfl, hvalue, htail⟩ := h
      exact ⟨c :: value, tail, rfl,
        .token ⟨List.cons_ne_nil _ _, List.forall_mem_cons.mpr ⟨hc, hvalue⟩⟩, htail⟩
  · rintro (rfl | ⟨value, tail, rfl, hvalue, htail⟩)
    · rfl
    cases hvalue with
    | token h =>
      obtain ⟨c, value, rfl⟩ := List.exists_cons_of_ne_nil h.1
      obtain ⟨hc, hvalue⟩ := List.forall_mem_cons.mp h.2
      have hquote : c ≠ '"' := ((token_ne (by decide) c).mpr hc).1
      rw [List.cons_append, parametersOk, if_neg hquote, hc, Bool.true_and]
      exact value_iff.mpr ⟨value, tail, rfl, hvalue, htail⟩
    | @quoted first text blanks hfirst htext hblanks =>
      have hend := quotedEnd_iff.mpr ⟨blanks, tail, rfl, hblanks, htail⟩
      rw [List.cons_append, List.cons_append, List.append_assoc, parametersOk, if_pos rfl,
        parametersOk, hfirst, Bool.true_and]
      exact quoted_iff.mpr ⟨text, _, rfl, htext, hend⟩

theorem start_iff : parametersOk .start cs = true ↔ IsBlank cs ∨
    ∃ blanks name rest, cs = blanks ++ (name ++ '=' :: rest) ∧ IsBlank blanks ∧ IsToken name ∧
      parametersOk .valueStart rest = true := by
  constructor
  · intro h
    induction cs with
    | nil => exact .inl (List.forall_mem_nil _)
    | cons c cs ih =>
      rw [parametersOk] at h
      split at h
      · next hblank =>
        obtain hblanks | ⟨blanks, name, rest, rfl, hblanks, hname, hrest⟩ := ih h
        · exact .inl (List.forall_mem_cons.mpr ⟨hblank, hblanks⟩)
        · exact .inr ⟨c :: blanks, name, rest, rfl, List.forall_mem_cons.mpr ⟨hblank, hblanks⟩,
            hname, hrest⟩
      · rw [Bool.and_eq_true, name_iff] at h
        obtain ⟨hc, name, rest, rfl, hname, hrest⟩ := h
        exact .inr ⟨[], c :: name, rest, rfl, List.forall_mem_nil _,
          ⟨List.cons_ne_nil _ _, List.forall_mem_cons.mpr ⟨hc, hname⟩⟩, hrest⟩
  · have hskip {blanks : List Char} (hblanks : IsBlank blanks) (rest : List Char) :
        parametersOk .start (blanks ++ rest) = parametersOk .start rest := by
      induction blanks with
      | nil => rfl
      | cons c blanks ih =>
        obtain ⟨hc, hmore⟩ := List.forall_mem_cons.mp hblanks
        rw [List.cons_append, parametersOk, if_pos hc, ih hmore]
    rintro (hblanks | ⟨blanks, name, rest, rfl, hblanks, ⟨hne, hname⟩, hrest⟩)
    · rw [← List.append_nil cs, hskip hblanks, parametersOk]
    · obtain ⟨c, name, rfl⟩ := List.exists_cons_of_ne_nil hne
      obtain ⟨hc, hname⟩ := List.forall_mem_cons.mp hname
      have hblank : c ≠ ' ' := ((token_ne (by decide) c).mpr hc).1
      rw [hskip hblanks, List.cons_append, parametersOk, if_neg hblank, hc, Bool.true_and]
      exact name_iff.mpr ⟨name, rest, rfl, hname, hrest⟩

theorem parametersOk_iff : parametersOk .start cs = true ↔ Parameters cs := by
  constructor
  · -- Every round takes a name at least, so the text behind a semicolon is shorter.
    induction hn : cs.length using Nat.strongRecOn generalizing cs with
    | ind n ih =>
      subst hn
      intro h
      obtain hblank | ⟨blanks, name, rest, rfl, hblanks, hname, hrest⟩ := start_iff.mp h
      · exact .blank hblank
      obtain rfl | ⟨value, tail, rfl, hvalue, htail⟩ := valueStart_iff.mp hrest
      · exact .unvalued hblanks hname
      obtain rfl | ⟨more, rfl, hmore⟩ := htail
      · rw [List.append_nil]
        exact .last hblanks hname hvalue
      · refine .cons hblanks hname hvalue (ih more.length ?_ rfl hmore)
        simp only [List.length_append, List.length_cons]
        omega
  · intro h
    induction h with
    | blank h => exact start_iff.mpr (.inl h)
    | unvalued hblanks hname => exact start_iff.mpr (.inr ⟨_, _, _, rfl, hblanks, hname, rfl⟩)
    | @last blanks name value hblanks hname hvalue =>
      have hrest := valueStart_iff.mpr (.inr ⟨value, [], rfl, hvalue, .inl rfl⟩)
      rw [List.append_nil] at hrest
      exact start_iff.mpr (.inr ⟨_, _, _, rfl, hblanks, hname, hrest⟩)
    | @cons blanks name value rest hblanks hname hvalue _ ih =>
      have hrest := valueStart_iff.mpr (.inr ⟨value, _, rfl, hvalue, .inr ⟨rest, rfl, ih⟩⟩)
      exact start_iff.mpr (.inr ⟨_, _, _, rfl, hblanks, hname, hrest⟩)

end Parameters

section Subtype

theorem beforeLastPlus_of_not_mem {cs : List Char} (h : '+' ∉ cs) : beforeLastPlus cs = cs := by
  have hdrop : cs.reverse.dropWhile (· != '+') = [] := by
    rw [List.dropWhile_eq_nil_iff]
    intro c hc
    exact bne_iff_ne.mpr fun heq => h (heq ▸ List.mem_reverse.mp hc)
  rw [beforeLastPlus, hdrop]
  rfl

theorem beforeLastPlus_append {tail : List Char} (front : List Char) (h : '+' ∉ tail) :
    beforeLastPlus (front ++ '+' :: tail) = front := by
  have hreverse : (front ++ '+' :: tail).reverse = tail.reverse ++ '+' :: front.reverse := by simp
  have htail : ∀ c ∈ tail.reverse, (c != '+') = true := by
    intro c hc
    exact bne_iff_ne.mpr fun heq => h (heq ▸ List.mem_reverse.mp hc)
  have hdrop : (front ++ '+' :: tail).reverse.dropWhile (· != '+') = '+' :: front.reverse := by
    rw [hreverse, List.dropWhile_append_of_pos htail]
    rfl
  rw [beforeLastPlus, hdrop, List.reverse_cons, List.reverse_reverse]
  cases front with
  | nil => rfl
  | cons c front => exact List.dropLast_concat

theorem map_withoutSuffix_iff {cs name : List Char} (hname : name ≠ []) (hplus : '+' ∉ name) :
    (withoutSuffix cs).map Char.toLower = name ↔ ∃ subtype suffix, cs = subtype ++ suffix ∧
      subtype.map Char.toLower = name ∧
      (suffix = [] ∨ ∃ tail, suffix = '+' :: tail ∧ '+' ∉ tail) := by
  constructor
  · intro h
    rcases cs with - | ⟨c, cs⟩
    · exact absurd h.symm hname
    rw [withoutSuffix] at h
    by_cases hmem : '+' ∈ cs
    · obtain ⟨tail, front, hreverse, htail⟩ :=
        List.eq_append_cons_of_mem (List.mem_reverse.mpr hmem)
      have hcs : cs = front.reverse ++ '+' :: tail.reverse := by
        rw [← List.reverse_reverse cs, hreverse]
        simp
      have hlast : '+' ∉ tail.reverse := fun hplus => htail (List.mem_reverse.mp hplus)
      rw [hcs, beforeLastPlus_append _ hlast] at h
      exact ⟨c :: front.reverse, '+' :: tail.reverse, by rw [hcs]; rfl, h, .inr ⟨_, rfl, hlast⟩⟩
    · rw [beforeLastPlus_of_not_mem hmem] at h
      exact ⟨c :: cs, [], (List.append_nil _).symm, h, .inl rfl⟩
  · rintro ⟨subtype, suffix, rfl, h, hsuffix⟩
    rcases subtype with - | ⟨c, front⟩
    · exact absurd h.symm hname
    obtain rfl | ⟨tail, rfl, htail⟩ := hsuffix
    · have hfront : '+' ∉ front := fun hmem =>
        hplus (h ▸ List.mem_map.mpr ⟨'+', List.mem_cons_of_mem c hmem, by decide⟩)
      rw [List.append_nil, withoutSuffix, beforeLastPlus_of_not_mem hfront, h]
    · rw [List.cons_append, withoutSuffix, beforeLastPlus_append front htail, h]

end Subtype

theorem lower_eq_iff {cs : List Char} {s : String} :
    lower cs = s ↔ cs.map Char.toLower = s.toList := by
  rw [lower, ← String.toList_inj, String.toList_ofList]

theorem split_token {run rest : List Char} (hrun : ∀ c ∈ run, isToken c = true)
    (hrest : ∀ c ∈ rest.head?, isToken c = false) :
    (run ++ rest).takeWhile isToken = run ∧ (run ++ rest).dropWhile isToken = rest := by
  rw [List.takeWhile_append_of_pos hrun, List.dropWhile_append_of_pos hrun]
  cases rest with
  | nil => exact ⟨List.append_nil run, rfl⟩
  | cons c rest =>
    have hc : ¬isToken c = true := Bool.eq_false_iff.mp (hrest c rfl)
    rw [List.takeWhile_cons_of_neg hc, List.dropWhile_cons_of_neg hc, List.append_nil]
    exact ⟨rfl, rfl⟩

theorem parse?_eq_some_iff {value : String} {found : MediaType} :
    parse? value = some found ↔ ∃ type subtype, Spells value type subtype ∧
      found = ⟨lower type, lower (withoutSuffix subtype)⟩ := by
  constructor
  · intro h
    unfold parse? at h
    dsimp only at h
    split at h
    · next rest hslash =>
      obtain ⟨hok, hfound⟩ := Option.ite_none_right_eq_some.mp h
      rw [Bool.and_eq_true, Bool.and_eq_true, List.all_eq_true] at hok
      obtain ⟨⟨htype, hcomplete⟩, hprintable⟩ := hok
      have hvalue : value.toList = value.toList.takeWhile isToken ++ '/' ::
          (rest.takeWhile isToken ++ rest.dropWhile isToken) := by
        rw [List.takeWhile_append_dropWhile, ← hslash, List.takeWhile_append_dropWhile]
      refine ⟨_, rest.takeWhile isToken, ⟨hprintable, ⟨?_, fun c => List.mem_takeWhile_imp⟩,
        fun c => List.mem_takeWhile_imp, _, hvalue, ?_⟩, (Option.some.inj hfound).symm⟩
      · simpa using htype
      · split at hcomplete
        · next hend => exact .inl hend
        · next parameters hsemicolon =>
          rw [Bool.and_eq_true, parametersOk_iff] at hcomplete
          exact .inr ⟨by simpa using hcomplete.1, parameters, hsemicolon, hcomplete.2⟩
        · cases hcomplete
    · cases h
  · rintro ⟨type, subtype, ⟨hprintable, ⟨hne, htype⟩, hsubtype, rest, hvalue, hrest⟩, rfl⟩
    have hslashHead : ∀ c ∈ ('/' :: (subtype ++ rest)).head?, isToken c = false := by
      simp only [List.head?_cons, Option.mem_some_iff, forall_eq']
      decide
    have hrestHead : ∀ c ∈ rest.head?, isToken c = false := by
      obtain rfl | ⟨-, parameters, rfl, -⟩ := hrest
      · simp
      · simp only [List.head?_cons, Option.mem_some_iff, forall_eq']
        decide
    obtain ⟨htypeRun, hslash⟩ := split_token htype hslashHead
    obtain ⟨hsubtypeRun, hend⟩ := split_token hsubtype hrestHead
    have hall : value.toList.all isHeaderChar = true := List.all_eq_true.mpr hprintable
    rw [← hvalue] at htypeRun hslash
    simp only [parse?, htypeRun, hslash, hsubtypeRun, hend, hall]
    obtain rfl | ⟨hsome, parameters, rfl, hparameters⟩ := hrest
    · simp [hne]
    · simp [hne, hsome, parametersOk_iff.mpr hparameters]

theorem parse?_eq_json_iff {value : String} : parse? value = some json ↔ IsJson value := by
  rw [parse?_eq_some_iff]
  constructor
  · rintro ⟨type, cs, hspells, hjson⟩
    obtain ⟨htype, hsubtype⟩ := MediaType.mk.inj hjson
    obtain ⟨subtype, suffix, rfl, hname, hsuffix⟩ :=
      (map_withoutSuffix_iff (by decide) (by decide)).mp (lower_eq_iff.mp hsubtype.symm)
    exact ⟨type, subtype, suffix, hspells, lower_eq_iff.mp htype.symm, hname, hsuffix⟩
  · rintro ⟨type, subtype, suffix, hspells, htype, hname, hsuffix⟩
    have hsubtype : lower (withoutSuffix (subtype ++ suffix)) = "json" :=
      lower_eq_iff.mpr ((map_withoutSuffix_iff (by decide) (by decide)).mpr
        ⟨subtype, suffix, rfl, hname, hsuffix⟩)
    exact ⟨type, _, hspells, by rw [lower_eq_iff.mpr htype, hsubtype, json]⟩

example : parse? "Application/JSON+ld; q=\"a;b\" " = some json := by decide

end Gatehouse.Http.MediaType
