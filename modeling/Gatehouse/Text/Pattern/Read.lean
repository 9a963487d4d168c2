import Gatehouse.Text.Alphanumeric
import Gatehouse.Text.Blank
import Gatehouse.Text.Hex
import Gatehouse.Text.Pattern.Basic

/-! Reading patterns, step by step over what is still open. The flag for verbose patterns lets
blanks and comments stand between the steps. Nothing is read that is spelled with a brace, such as
a counted repetition. -/

namespace Gatehouse.Text.Pattern

/-- Passes by blanks, and by comments from a hash sign to the end of the line. -/
def skipBlanks (inComment : Bool) : List Char → List Char
  | [] => []
  | c :: cs =>
    if inComment then skipBlanks (c != '\n') cs
    else if isBlank c then skipBlanks false cs
    else if c == '#' then skipBlanks true cs
    else c :: cs

def skip (verbose : Bool) (cs : List Char) : List Char :=
  if verbose then skipBlanks false cs else cs

/-- The next character behind blanks and one hash sign, but not behind a comment. -/
def glance? (verbose : Bool) (cs : List Char) : Option Char :=
  if verbose then
    match cs.dropWhile isBlank with
    | '#' :: comment => (comment.dropWhile isBlank).head?
    | rest => rest.head?
  else cs.head?

def hexValues? (verbose : Bool) : Nat → List Char → Option (List Nat × List Char)
  | 0, cs => some ([], cs)
  | n + 1, cs =>
    match skip verbose cs with
    | [] => none
    | c :: cs => do
      let value ← hexValue? c.toNat
      let (values, rest) ← hexValues? verbose n cs
      return (value :: values, rest)

def codePoint? (verbose isByte : Bool) (n : Nat) (cs : List Char) : Option (Atom × List Char) := do
  let (values, rest) ← hexValues? verbose n cs
  let code := values.foldl (fun code value => 16 * code + value) 0
  if code.isValidChar then some (.literal ⟨Char.ofNat code, isByte⟩, rest) else none

/-- What the letter behind a backslash stands for. Whatever is no letter of ASCII and no digit
stands for itself. -/
def escaped? (c : Char) : Option Atom :=
  match c with
  | 'a' => some (.literal ⟨'\x07', false⟩)
  | 'f' => some (.literal ⟨'\x0c', false⟩)
  | 'n' => some (.literal ⟨'\n', false⟩)
  | 'r' => some (.literal ⟨'\r', false⟩)
  | 't' => some (.literal ⟨'\t', false⟩)
  | 'v' => some (.literal ⟨'\x0b', false⟩)
  | 'A' | 'z' => some .textEdge
  | 'b' | 'B' | '<' | '>' => some .wordEdge
  | 'd' | 's' | 'w' => some (.shorthand false)
  | 'D' | 'S' | 'W' => some (.shorthand true)
  | c => if c.toNat < 128 && !c.isAlphanum then some (.literal ⟨c, false⟩) else none

def escape? (verbose : Bool) : List Char → Option (Atom × List Char)
  | [] => none
  | 'x' :: cs => codePoint? verbose true 2 cs
  | 'u' :: cs => codePoint? verbose false 4 cs
  | 'U' :: cs => codePoint? verbose false 8 cs
  | c :: cs =>
    if c = 'p' ∨ c = 'P' then
      match skip verbose cs with
      | name :: rest => if name = '\x7b' ∨ name = '\\' then none else some (.property, rest)
      | [] => none
    else (escaped? c).map fun a => (a, cs)

def item? (verbose : Bool) (c : Char) (cs : List Char) : Option (Atom × List Char) :=
  if c = '\\' then escape? verbose cs else some (.literal ⟨c, false⟩, cs)

def Atom.toMembers? : Atom → Option Members
  | literal l => some (.literal l)
  | shorthand negated => some (.shorthand negated)
  | property => some .property
  | _ => none

def range? : Atom → Atom → Option Members
  | .literal first, .literal last =>
    if first.char ≤ last.char then some (.range first last) else none
  | _, _ => none

def members? (verbose : Bool) (c : Char) (cs : List Char) : Option (Members × List Char) := do
  let (first, cs) ← item? verbose c cs
  match skip verbose cs with
  | '-' :: behind =>
    let next := glance? verbose behind
    if next = some ']' ∨ next = some '-' then return (← first.toMembers?, '-' :: behind)
    else
      match skip verbose behind with
      | [] => none
      | c :: cs => do
        let (last, cs) ← item? verbose c cs
        return (← range? first last, cs)
  | rest => return (← first.toMembers?, rest)

def asciiNames : List String :=
  ["alnum", "alpha", "ascii", "blank", "cntrl", "digit", "graph", "lower", "print", "punct",
   "space", "upper", "word", "xdigit"]

def asciiClass? : List Char → Option (Members × List Char)
  | ':' :: cs =>
    let (negated, cs) := match cs with | '^' :: cs => (true, cs) | _ => (false, cs)
    let name := cs.takeWhile (· != ':')
    match cs.drop name.length with
    | ':' :: ']' :: rest =>
      if asciiNames.contains (String.ofList name) then some (.ascii negated, rest) else none
    | _ => none
  | _ => none

def isGroupName : List Char → Bool
  | [] => false
  | c :: cs =>
    (c == '_' || isAlphabetic c) &&
      cs.all fun c => c == '_' || c == '.' || c == '[' || c == ']' || isAlphanumeric c

def groupName? (cs : List Char) : Option (List Char × List Char) :=
  let name := cs.takeWhile (· != '>')
  match cs.drop name.length with
  | _ :: rest => if isGroupName name then some (name, rest) else none
  | [] => none

def switches? (cs : List Char) : Option Switches := do
  let on := cs.takeWhile (· != '-')
  let off ← match cs.drop on.length with
    | [] => some []
    | [_] => none
    | _ :: off => some off
  let on ← on.mapM Flag.ofLetter?
  let off ← off.mapM Flag.ofLetter?
  if (on ++ off).Nodup then some (on.map (·, true) ++ off.map (·, false)) else none

/-- An alternation as far as it is read: the branches before the last, and the parts of the last;
the latest stands first. -/
structure Draft where
  branches : List Pattern
  parts : List Pattern

namespace Draft

def blank : Draft := ⟨[], []⟩

def add (draft : Draft) (part : Pattern) : Draft := { draft with parts := part :: draft.parts }

def nextBranch (draft : Draft) : Draft := ⟨.ofParts draft.parts.reverse :: draft.branches, []⟩

def finish (draft : Draft) : Pattern :=
  match draft.branches with
  | [] => .ofParts draft.parts.reverse
  | _ => .choice draft.nextBranch.branches.reverse

end Draft

structure OpenGroup where
  around : Draft
  switches : Switches
  verbose : Bool

/-- A class that is open: what stands before its last operation, and the parts read since, the
latest first. -/
structure OpenClass where
  negated : Bool
  left : Option Members
  parts : List Members
  atStart : Bool

namespace OpenClass

def add (cls : OpenClass) (part : Members) : OpenClass := { cls with parts := part :: cls.parts }

def addChar (cls : OpenClass) (c : Char) : OpenClass := cls.add (.literal ⟨c, false⟩)

def finish (cls : OpenClass) : Members :=
  match cls.left with
  | none => .ofParts cls.parts.reverse
  | some left => .operation left (.ofParts cls.parts.reverse)

def operate (cls : OpenClass) : OpenClass := { cls with left := some cls.finish, parts := [] }

end OpenClass

structure Reading where
  draft : Draft
  groups : List OpenGroup
  classes : List OpenClass
  names : List (List Char)
  verbose : Bool

namespace Reading

def start : Reading := ⟨.blank, [], [], [], false⟩

def add (r : Reading) (part : Pattern) : Reading := { r with draft := r.draft.add part }

def openGroup (r : Reading) (switches : Switches) : Reading :=
  { r with
    draft := .blank
    groups := ⟨r.draft, switches, r.verbose⟩ :: r.groups
    verbose := (switches.lookup .verbose).getD r.verbose }

def closeGroup? (r : Reading) : Option Reading :=
  match r.groups with
  | [] => none
  | opened :: groups =>
    some { r with
      draft := opened.around.add (.group opened.switches r.draft.finish)
      groups := groups
      verbose := opened.verbose }

def switch (r : Reading) (switches : Switches) : Reading :=
  { r.add (.switch switches) with verbose := (switches.lookup .verbose).getD r.verbose }

def nameGroup? (r : Reading) (cs : List Char) : Option (Reading × List Char) := do
  let (name, rest) ← groupName? cs
  if r.names.contains name then none
  else some ({ r with names := name :: r.names }.openGroup [], rest)

def flagged? (r : Reading) (cs : List Char) : Option (Reading × List Char) := do
  let letters := cs.takeWhile fun c => c != ':' && c != ')'
  let switches ← switches? letters
  match cs.drop letters.length with
  | ':' :: rest => return (r.openGroup switches, rest)
  | ')' :: rest => if letters.isEmpty then none else return (r.switch switches, rest)
  | _ => none

def group? (r : Reading) (cs : List Char) : Option (Reading × List Char) :=
  match skip r.verbose cs with
  | '?' :: 'P' :: '<' :: rest => r.nameGroup? rest
  | '?' :: '<' :: rest => r.nameGroup? rest
  | '?' :: rest => r.flagged? rest
  | rest => some (r.openGroup [], rest)

def repeat? (r : Reading) : Option Reading :=
  match r.draft.parts with
  | [] => none
  | .switch _ :: _ => none
  | part :: parts => some { r with draft := { r.draft with parts := .repetition part :: parts } }

def openClass (r : Reading) (cs : List Char) : Reading × List Char :=
  let enter (negated : Bool) := { r with classes := ⟨negated, none, [], true⟩ :: r.classes }
  match skip r.verbose cs with
  | '^' :: rest => (enter true, rest)
  | rest => (enter false, rest)

def closeClass (r : Reading) (cls : OpenClass) (around : List OpenClass) : Reading :=
  match around with
  | [] => { r.add (.bracketed cls.negated cls.finish) with classes := [] }
  | next :: classes =>
    { r with classes := next.add (.bracketed cls.negated cls.finish) :: classes }

def isOperation (c : Char) (next : Option Char) : Bool :=
  (c == '&' || c == '-' || c == '~') && next == some c

def classStep? (r : Reading) (cls : OpenClass) (around : List OpenClass) (c : Char)
    (cs : List Char) : Option (Reading × List Char) := do
  let within (cls : OpenClass) : Reading := { r with classes := cls :: around }
  if cls.atStart && c == '-' then return (within (cls.addChar c), cs)
  else
    let begun := { cls with atStart := false }
    if cls.atStart && cls.parts.isEmpty && c == ']' then return (within (begun.addChar c), cs)
    else if c = '[' then
      match asciiClass? cs with
      | some (members, rest) => return (within (begun.add members), rest)
      | none => return (within begun).openClass cs
    else if c = ']' then return (r.closeClass cls around, cs)
    else if isOperation c cs.head? then return (within begun.operate, cs.tail)
    else
      let (members, rest) ← members? r.verbose c cs
      return (within (begun.add members), rest)

def outerStep? (r : Reading) (c : Char) (cs : List Char) : Option (Reading × List Char) :=
  match c with
  | '(' => r.group? cs
  | ')' => r.closeGroup?.map fun r => (r, cs)
  | '|' => some ({ r with draft := r.draft.nextBranch }, cs)
  | '[' => some (r.openClass cs)
  | '?' | '*' | '+' =>
    r.repeat?.map fun r => (r, match cs with | '?' :: rest => rest | _ => cs)
  | '\x7b' => none
  | '.' => some (r.add (.atom .dot), cs)
  | '^' | '$' => some (r.add (.atom .textEdge), cs)
  | c => (item? r.verbose c cs).map fun (a, rest) => (r.add (.atom a), rest)

def step? (r : Reading) (c : Char) (cs : List Char) : Option (Reading × List Char) :=
  match r.classes with
  | cls :: around => r.classStep? cls around c cs
  | [] => r.outerStep? c cs

def run? (r : Reading) (cs : List Char) : Option Reading :=
  match skip r.verbose cs with
  | [] => some r
  | c :: rest =>
    match r.step? c rest with
    | none => none
    | some (next, rest) => if rest.length < cs.length then run? next rest else none
  termination_by cs.length

def finish? (r : Reading) : Option Pattern :=
  if r.groups.isEmpty && r.classes.isEmpty then some r.draft.finish else none

end Reading

def parse? (cs : List Char) : Option Pattern := do (← Reading.start.run? cs).finish?

end Gatehouse.Text.Pattern
