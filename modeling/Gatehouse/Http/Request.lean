import Gatehouse.Text.Decimal
import Gatehouse.Text.Utf8

/-! Requests as the routes see them: a method, the path of the target, headers in the order in which
they were sent, and the bytes of the body. A header may be sent more than once. -/

namespace Gatehouse.Http

abbrev Headers := List (String × String)

namespace Headers

def sameName (a b : String) : Bool := a.toList.map Char.toLower == b.toList.map Char.toLower

def values (headers : Headers) (name : String) : List String :=
  (headers.filter fun entry => sameName entry.1 name).map (·.2)

def get? (headers : Headers) (name : String) : Option String :=
  (headers.find? fun entry => sameName entry.1 name).map (·.2)

def insert (headers : Headers) (name value : String) : Headers :=
  (headers.filter fun entry => !sameName entry.1 name) ++ [(name, value)]

end Headers

abbrev Path := List Char

namespace Path

def afterScheme? : List Char → Option (List Char)
  | ':' :: '/' :: '/' :: rest => some rest
  | _ :: cs => afterScheme? cs
  | [] => none

def isQueryMark (c : Char) : Bool := c == '?' || c == '#'

/-- The path of a target: neither query nor fragment, nor the authority of an absolute target,
whose empty path is `/`. A target that is an authority alone has no path. -/
def ofTarget (target : List Char) : List Char :=
  let cut := target.takeWhile fun c => !isQueryMark c
  match cut with
  | '/' :: _ => cut
  | ['*'] => cut
  | _ =>
    match afterScheme? cut with
    | none => []
    | some rest =>
      match rest.dropWhile (· != '/') with
      | [] => ['/']
      | path => path

def ofRequestTarget (target : String) : Path :=
  match ofTarget target.toList with
  | '/' :: rest => rest
  | path => path

def next (path : Path) : List Char × Path :=
  (path.takeWhile (· != '/'), (path.dropWhile (· != '/')).drop 1)

def step? (segment : String) (path : Path) : Option Path :=
  if path.next.1 = segment.toList then some path.next.2 else none

end Path

structure Request where
  method : String
  target : String
  headers : Headers
  body : Bytes

namespace Request

def path (request : Request) : Path := Path.ofRequestTarget request.target

/-- The declared length of the body: the number of 64 bits that all values of the header read as. -/
def contentLength? (request : Request) : Option Nat :=
  let read := fun value : String => Text.Decimal.parseBelow? UInt64.size value.toList
  match request.headers.values "content-length" with
  | [] => none
  | first :: others =>
    (read first).filter fun length => others.all fun other => read other == some length

end Request

end Gatehouse.Http
