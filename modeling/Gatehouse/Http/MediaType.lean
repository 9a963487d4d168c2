/-! Media types such as `application/json; charset=utf-8`. The subtype ends before the last `+` that
is not its first character; parameters have to be well formed but are not kept. -/

namespace Gatehouse.Http

structure MediaType where
  type : String
  subtype : String
  deriving DecidableEq

namespace MediaType

def isToken (c : Char) : Bool := c.isAlphanum || "!#$%&'*+-.^_\x60|~".toList.contains c

def isQuotable (c : Char) : Bool := 0x20 ≤ c.toNat && c.toNat != 0x7f

inductive Spot where
  | start
  | name
  | valueStart
  | value
  | quotedStart
  | quoted
  | quotedEnd

def parametersOk : Spot → List Char → Bool
  | .start, [] => true
  | .start, c :: cs =>
    if c = ' ' then parametersOk .start cs else isToken c && parametersOk .name cs
  | .name, [] => false
  | .name, c :: cs =>
    if c = '=' then parametersOk .valueStart cs else isToken c && parametersOk .name cs
  | .valueStart, [] => true
  | .valueStart, c :: cs =>
    if c = '"' then parametersOk .quotedStart cs else isToken c && parametersOk .value cs
  | .value, [] => true
  | .value, c :: cs =>
    if c = ';' then parametersOk .start cs else isToken c && parametersOk .value cs
  | .quotedStart, [] => false
  | .quotedStart, c :: cs => isQuotable c && parametersOk .quoted cs
  | .quoted, [] => false
  | .quoted, c :: cs =>
    if c = '"' then parametersOk .quotedEnd cs else isQuotable c && parametersOk .quoted cs
  | .quotedEnd, [] => true
  | .quotedEnd, c :: cs =>
    if c = ';' then parametersOk .start cs else c == ' ' && parametersOk .quotedEnd cs

def beforeLastPlus (cs : List Char) : List Char :=
  match (cs.reverse.dropWhile (· != '+')).reverse with
  | [] => cs
  | front => front.dropLast

def withoutSuffix : List Char → List Char
  | [] => []
  | c :: cs => c :: beforeLastPlus cs

def lower (cs : List Char) : String := String.ofList (cs.map Char.toLower)

/-- Header values are read if they are printable ASCII, a tab allowed. -/
def isHeaderChar (c : Char) : Bool := (0x20 ≤ c.toNat && c.toNat < 0x7f) || c == '\t'

def parse? (value : String) : Option MediaType :=
  let cs := value.toList
  let type := cs.takeWhile isToken
  match cs.dropWhile isToken with
  | '/' :: rest =>
    let subtype := rest.takeWhile isToken
    let complete :=
      match rest.dropWhile isToken with
      | [] => true
      | ';' :: parameters => !subtype.isEmpty && parametersOk .start parameters
      | _ => false
    if !type.isEmpty && complete && cs.all isHeaderChar then
      some ⟨lower type, lower (withoutSuffix subtype)⟩
    else none
  | _ => none

def json : MediaType := ⟨"application", "json"⟩

end MediaType

end Gatehouse.Http
