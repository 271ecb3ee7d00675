import DevServer.Http.Handler
import DevServer.Http.Route.Router

/-!
Answering requests with a router. What a route answers is completed before it is sent: methods
that are allowed, the length of the body, and no body for a request that wants the head only.
-/
namespace DevServer.Http

set_option autoImplicit false

/-- Bodies that handlers read have at most this many bytes, whatever the settings say. -/
def handlerBodyLimit : Nat := 2097152

/-- What a router has for a request. -/
inductive Found where
  /-- A route; `allow` tells the methods if there is nothing for the one of the request. -/
  | route (endpoint : Endpoint) (params : List (String × String)) (allow : Option String)
  /-- No route has a pattern for the path. -/
  | noRoute
  /-- The target has no path that routes could have patterns for. -/
  | noPath

def methodNotAllowed : Endpoint := fun _ => .now { status := 405 }

def Router.lookup (r : Router Endpoint) (req : Request) : Found :=
  if req.uri.path.toList.head? ≠ some '/' then .noPath
  else match r.find? req.uri.path with
    | none => .noRoute
    | some m =>
      match m.route.endpoints.find? req.method with
      | some endpoint => .route endpoint m.params none
      | none => .route methodNotAllowed m.params (some m.route.endpoints.allowed)

namespace Found

/-- What is answered if bodies may have `limit` bytes. -/
def run (f : Found) (limit : Nat) (req : Request) : Outcome :=
  match f with
  | .route endpoint params _ =>
    endpoint
      { method := req.method, uri := req.uri, headers := req.headers, params,
        body := if req.body.length ≤ limit then some req.body else none }
  | .noRoute => .now { status := 404 }
  | .noPath => .now { status := 404 }

/-- Completes a response. A connection that is opened has neither a body nor a length. -/
def complete (method : Method) (allow : Option String) (resp : Response) : Response :=
  if method = .connect && resp.isSuccess then { resp with body := "" }
  else
    let headers := match allow with
      | some methods => resp.headers.addMissing "allow" methods
      | none => resp.headers
    { resp with
      headers := headers.addMissing "content-length" (toString resp.body.utf8ByteSize)
      body := if method = .head then "" else resp.body }

/-- The response as it is sent. Where no route has a pattern it stays as it is. -/
def finish (f : Found) (req : Request) (resp : Response) : Response :=
  match f with
  | .route _ _ allow => complete req.method allow resp
  | .noRoute => resp
  | .noPath => complete req.method none resp

end Found

def Router.answer (r : Router Endpoint) (req : Request) : Response :=
  let found := r.lookup req
  found.finish req (found.run handlerBodyLimit req).response

end DevServer.Http
