import DevServer.Http.Message
import DevServer.Text.Percent
import DevServer.Text.Utf8

/-!
What serves a route, and handlers that are ready to be used. A handler sees the request with the
values of the parameters, and its body unless that is longer than is allowed; it answers after
some time. The time is a number here: nothing waits.
-/
namespace DevServer.Http

set_option autoImplicit false

/-- What a handler sees of a request. -/
structure Call where
  method : Method
  uri : Uri
  headers : Headers
  /-- The values as they stand in the path. -/
  params : List (String × String)
  /-- Nothing if the body is longer than is allowed. -/
  body : Option (List UInt8)

/-- A response and the milliseconds until it comes. -/
structure Outcome where
  response : Response
  waits : Nat := 0
deriving Repr, DecidableEq

/-- What serves a route. -/
abbrev Endpoint := Call → Outcome

/-- What serves a route of a blueprint that has a state. -/
abbrev Handler (σ : Type) := σ → Endpoint

def Outcome.now (response : Response) : Outcome := { response }

def bodyTooLong : Response :=
  .plain 413 "Failed to buffer the request body: length limit exceeded"

namespace Endpoint

def text (s : String) : Endpoint := fun _ => .now (.plain 200 s)

def delayed (millis : Nat) (s : String) : Endpoint := fun _ =>
  { response := .plain 200 s, waits := millis }

def withBytes (f : List UInt8 → Response) : Endpoint := fun call =>
  match call.body with
  | none => .now bodyTooLong
  | some bytes => .now (f bytes)

def withText (f : String → Response) : Endpoint := withBytes fun bytes =>
  match Text.Utf8.decode bytes with
  | .ok s => f s
  | .error fault => .plain 400 ("Request body didn't contain valid UTF-8: " ++ fault.message)

def echo : Endpoint := withText (.plain 200)

def bodyLength : Endpoint := withBytes fun bytes => .plain 200 (toString bytes.length)

/-- The values of the parameters, or the first parameter whose value is no text. -/
def decodeParams : List (String × String) → Except String (List (String × String))
  | [] => .ok []
  | (name, raw) :: rest =>
    match Text.Percent.decode? raw with
    | none => .error name
    | some value => (decodeParams rest).map ((name, value) :: ·)

/-- Method, target and the values of the parameters. -/
def info : Endpoint := fun call =>
  match decodeParams call.params with
  | .error name => .now (.plain 400 ("Invalid UTF-8 in `" ++ name ++ "`"))
  | .ok params =>
    let shown := params.map fun p => p.1 ++ "=" ++ p.2 ++ ";"
    .now (.plain 200 (call.method.name ++ " " ++ call.uri.render ++ " " ++ String.join shown))

end Endpoint
end DevServer.Http
