import DevServer.Http.Message
import DevServer.Http.Route.Conflict
import DevServer.Text.Quoted

/-!
Tables of routes. A router has a list of patterns, each with what serves it for some methods and
perhaps for all others. A path is served by the first in precedence of the patterns that match it.
Adding a route fails, and changes nothing, where it would contradict a route that is there.
-/
namespace DevServer.Http

set_option autoImplicit false

/-- The methods that a route serves. -/
inductive Verb where
  | only (method : Method)
  /-- All methods that have no route of their own. -/
  | any
deriving Repr, DecidableEq

/-- What serves a path. Handlers that were added at once, for a method each, are one group. -/
structure Endpoints (α : Type) where
  groups : List (List (Method × α)) := []
  fallback : Option α := none

namespace Endpoints

variable {α : Type}

def single : Verb → α → Endpoints α
  | .only m, a => { groups := [[(m, a)]] }
  | .any, a => { fallback := some a }

/-- The handlers in the order in which they were added. -/
def handlers (e : Endpoints α) : List (Method × α) := e.groups.flatten

/-- The first of the standard methods that both serve. -/
def overlap? (e f : Endpoints α) : Option Method :=
  Method.standard.find? fun m => (e.handlers.lookup m).isSome && (f.handlers.lookup m).isSome

/-- What serves a method. Requests for the head of a resource are served like those for all of it
where nothing else serves them. -/
def find? (e : Endpoints α) (m : Method) : Option α :=
  let own := e.handlers.lookup m
  let own := if m = .head then own.or (e.handlers.lookup .get) else own
  own.or e.fallback

/-- The methods that a group of handlers tells, each of them once. -/
def toldBy (group : List (Method × α)) : List String :=
  (group.flatMap fun h => if h.1 = .get then ["GET", "HEAD"] else [h.1.name]).eraseDups

/-- The methods that are told to a request of another one. Groups do not know of each other, so two
of them may tell the same. -/
def allowed (e : Endpoints α) : String := ",".intercalate (e.groups.flatMap toldBy)

def map {β : Type} (f : α → β) (e : Endpoints α) : Endpoints β where
  groups := e.groups.map fun group => group.map fun h => (h.1, f h.2)
  fallback := e.fallback.map f

end Endpoints

/-- Why a route cannot be added. -/
inductive RouteFault where
  | emptyPath
  | noSlash
  | colonSegment
  | starSegment
  | overlap (method : Method) (path : String)
  | twoFallbacks
  | pattern (path : String) (fault : PatternFault)
deriving Repr, DecidableEq

def PatternFault.message : PatternFault → String
  | .badName => "Parameters must be registered with a valid name"
  | .restNotLast => "Catch-all parameters are only allowed at the end of a route"
  | .twoInSegment => "Only one parameter is allowed per path segment"
  | .tooManyParams => "Too many route parameters."
  | .conflict shown =>
    s!"Insertion failed due to conflict with previously registered route: {shown}"

def RouteFault.message : RouteFault → String
  | .emptyPath => "Paths must start with a `/`. Use \"/\" for root routes"
  | .noSlash => "Paths must start with a `/`"
  | .colonSegment =>
    "Path segments must not start with `:`. For capture groups, use `\x7bcapture\x7d`. If you " ++
      "meant to literally match a segment starting with a colon, call `without_v07_checks` on the router."
  | .starSegment =>
    "Path segments must not start with `*`. For wildcard capture, use `\x7b*wildcard\x7d`. If you " ++
      "meant to literally match a segment starting with an asterisk, call `without_v07_checks` on the router."
  | .overlap method path =>
    s!"Overlapping method route. Handler for `{method.name} {path}` already exists"
  | .twoFallbacks => "Cannot merge two `MethodRouter`s that both have a fallback"
  | .pattern _ .tooManyParams => PatternFault.tooManyParams.message
  | .pattern path fault => "Invalid route " ++ Text.Quoted.quote path ++ ": " ++ fault.message

/-- A pattern and what serves it. -/
structure Route (α : Type) where
  pattern : Pattern
  endpoints : Endpoints α

def Route.literal {α : Type} (path : String) (e : Endpoints α) : Route α :=
  ⟨.literal path, e⟩

/-- Routes in the order in which their patterns were added. -/
structure Router (α : Type) where
  routes : List (Route α) := []

namespace Router

variable {α β : Type}

def segments (path : List Char) : List (List Char) := List.splitOnP (· = '/') path

/-- What must hold of a path before it is read as a pattern. -/
def checkPath (path : String) : Except RouteFault Unit :=
  match path.toList with
  | [] => .error .emptyPath
  | c :: cs =>
    if c ≠ '/' then .error .noSlash
    else match (segments (c :: cs)).find? fun s => s.head? = some ':' || s.head? = some '*' with
      | some (':' :: _) => .error .colonSegment
      | some _ => .error .starSegment
      | none => .ok ()

def paths (r : Router α) : List String := r.routes.map fun t => t.pattern.text

/-- What serves a path beside what served it before. -/
def join (path : String) (e f : Endpoints α) : Except RouteFault (Endpoints α) :=
  match e.overlap? f with
  | some m => .error (.overlap m path)
  | none =>
    if e.fallback.isSome && f.fallback.isSome then .error .twoFallbacks
    else .ok { groups := e.groups ++ f.groups, fallback := e.fallback.or f.fallback }

/-- Adds what serves a path. -/
def insert (r : Router α) (path : String) (e : Endpoints α) : Except RouteFault (Router α) := do
  checkPath path
  match r.routes.find? (·.pattern.text = path) with
  | some there =>
    let joined ← join path there.endpoints e
    return ⟨r.routes.map fun t => if t.pattern.text = path then { t with endpoints := joined } else t⟩
  | none =>
    match Pattern.room path (r.routes.map fun t => t.pattern) with
    | .ok pattern => return ⟨r.routes ++ [⟨pattern, e⟩]⟩
    | .error fault => .error (.pattern path fault)

def merge (r s : Router α) : Except RouteFault (Router α) :=
  s.routes.foldlM (fun r t => r.insert t.pattern.text t.endpoints) r

def map (f : α → β) (r : Router α) : Router β :=
  ⟨r.routes.map fun t => ⟨t.pattern, t.endpoints.map f⟩⟩

/-- A route that matches a path, with the values of its parameters. -/
structure Matched (α : Type) where
  route : Route α
  params : List (String × String)

/-- The routes that match a path. -/
def matching (r : Router α) (path : String) : List (Matched α) :=
  r.routes.filterMap fun t => (t.pattern.match? path).map fun params => ⟨t, params⟩

/-- The first in precedence of some routes. -/
def first? : List (Matched α) → Option (Matched α)
  | [] => none
  | m :: rest =>
    match first? rest with
    | none => some m
    | some n =>
      if Pattern.precedes n.route.pattern.tokens m.route.pattern.tokens then some n else some m

/-- The route that serves a path. -/
def find? (r : Router α) (path : String) : Option (Matched α) := first? (r.matching path)

end Router
end DevServer.Http
