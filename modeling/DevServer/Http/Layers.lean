import DevServer.Http.Serving
import DevServer.Number.Decimal
import DevServer.Settings.Basic

/-!
The layers around the routes. From the outside: a request gets an identifier, which its response
repeats; a body that is announced as too long is refused; what takes too long is given up; and
what the routes have answered is counted.
-/
namespace DevServer.Http

set_option autoImplicit false

def requestIdField : String := "x-request-id"

/-- The length of the body that a request announces, if that is a number. -/
def Request.announced? (req : Request) : Option Nat := do
  let value ← req.headers.first? "content-length"
  (Number.Decimal.readNat Number.Decimal.maxUInt64 value.toList).toOption

def announcedTooLong : Response := .plain 413 "length limit exceeded"

def timedOut : Response := { status := 408 }

/-- A response, and whether the routes have given it. -/
structure Served where
  response : Response
  fromRoutes : Bool
deriving Repr, DecidableEq

/-- The response behind the identifiers. -/
def serveWithin (s : Settings) (found : Found) (req : Request) : Served :=
  let limit := s.security.maxBodySize.toNat
  let announced := req.announced?.getD limit
  if limit < announced then ⟨announcedTooLong, false⟩
  else
    let outcome := found.run (min handlerBodyLimit announced) req
    -- What takes exactly as long as is allowed is given up.
    if s.timeouts.millis ≤ outcome.waits then ⟨timedOut, false⟩
    else ⟨outcome.response, true⟩

/-- The answer of a router within the layers. A request without an identifier gets `fresh`. -/
def Router.serve (r : Router Endpoint) (s : Settings) (fresh : String) (req : Request) : Served :=
  let id := (req.headers.first? requestIdField).getD fresh
  let req := { req with headers := req.headers.addMissing requestIdField fresh }
  let found := r.lookup req
  let served := serveWithin s found req
  -- The identifier is there before the answer is completed, so it stands before the length.
  let resp := { served.response with
    headers := served.response.headers.addMissing requestIdField id }
  { served with response := found.finish req resp }

end DevServer.Http
