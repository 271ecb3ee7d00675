import DevServer.Http.Method
import DevServer.Http.Uri

/-!
Requests and responses. Names of header fields are in lower case; a name may occur several times.
The body of a request is bytes, that of a response is text.
-/
namespace DevServer.Http

set_option autoImplicit false

/-- Header fields in the order in which they came. -/
abbrev Headers := List (String × String)

namespace Headers

def first? (hs : Headers) (name : String) : Option String := hs.lookup name

def has (hs : Headers) (name : String) : Bool := (hs.first? name).isSome

/-- Adds a field, unless there is one of that name. -/
def addMissing (hs : Headers) (name value : String) : Headers :=
  if hs.has name then hs else hs ++ [(name, value)]

end Headers

def isFieldChar (c : Char) : Bool := (0x20 ≤ c.toNat && c.toNat ≠ 0x7F) || c = '\t'

/-- A header field with its name in lower case, if name and value may be sent. -/
def field? (name value : String) : Option (String × String) :=
  if isToken name && value.toList.all isFieldChar then
    some (String.ofList (name.toList.map Char.toLower), value)
  else none

structure Request where
  method : Method
  uri : Uri
  headers : Headers := []
  body : List UInt8 := []
deriving Repr, DecidableEq

/-- A request from its parts as they are written, if all of them may be sent. -/
def Request.ofParts? (method uri : String) (headers : List (String × String)) (body : List UInt8) :
    Option Request := do
  let uri ← Uri.ofString? uri
  let method ← Method.ofName? method
  let headers ← headers.mapM fun h => field? h.1 h.2
  return { method, uri, headers, body }

structure Response where
  status : Nat := 200
  headers : Headers := []
  body : String := ""
deriving Repr, DecidableEq

namespace Response

def isSuccess (r : Response) : Bool := 200 ≤ r.status && r.status < 300

def plain (status : Nat) (body : String) : Response :=
  { status, headers := [("content-type", "text/plain; charset=utf-8")], body }

def json (body : String) : Response :=
  { headers := [("content-type", "application/json")], body }

end Response
end DevServer.Http
