import DevServer.Proofs.Routes.Service

/-!
# Which route is found does not depend on the handlers

A table whose handlers are replaced by others has the same routes at the same places: patterns and
methods decide what is found, and what is told of the methods that are allowed.
-/
namespace DevServer.Http

set_option autoImplicit false

theorem lookup_replaced {κ α β : Type} [BEq κ] (f : α → β) (l : List (κ × α)) (k : κ) :
    (l.map fun h => (h.1, f h.2)).lookup k = (l.lookup k).map f := by
  induction l with
  | nil => rfl
  | cons h l ih =>
    rw [List.map_cons, List.lookup_cons, List.lookup_cons, ih]
    cases k == h.1 <;> rfl

namespace Endpoints

variable {α β : Type}

theorem handlers_map (f : α → β) (e : Endpoints α) :
    (e.map f).handlers = e.handlers.map fun h => (h.1, f h.2) := by
  unfold handlers
  rw [List.map_flatten]
  rfl

theorem find?_map (f : α → β) (e : Endpoints α) (m : Method) :
    (e.map f).find? m = (e.find? m).map f := by
  have hfallback : (e.map f).fallback = e.fallback.map f := rfl
  unfold find?
  simp only [handlers_map, hfallback, lookup_replaced]
  split <;> simp [Option.map_or]

theorem toldBy_map (f : α → β) (group : List (Method × α)) :
    toldBy (group.map fun h => (h.1, f h.2)) = toldBy group := by
  unfold toldBy
  rw [List.flatMap_map]

theorem allowed_map (f : α → β) (e : Endpoints α) : (e.map f).allowed = e.allowed := by
  have htold : (e.map f).groups.flatMap toldBy = e.groups.flatMap toldBy := by
    unfold Endpoints.map
    rw [List.flatMap_map]
    simp only [toldBy_map]
  unfold allowed
  rw [htold]

end Endpoints

namespace Router

variable {α β : Type}

/-- A match with another handler at its route. -/
def Matched.map (f : α → β) (m : Matched α) : Matched β :=
  ⟨⟨m.route.pattern, m.route.endpoints.map f⟩, m.params⟩

theorem matching_map (f : α → β) (r : Router α) (path : String) :
    (r.map f).matching path = (r.matching path).map (Matched.map f) := by
  unfold matching Router.map
  rw [List.filterMap_map, List.map_filterMap]
  congr 1
  funext t
  rw [Option.map_map]
  rfl

theorem first?_map (f : α → β) (ms : List (Matched α)) :
    first? (ms.map (Matched.map f)) = (first? ms).map (Matched.map f) := by
  induction ms with
  | nil => rfl
  | cons m ms ih =>
    rw [List.map_cons, first?, first?, ih]
    cases first? ms with
    | none => rfl
    | some n =>
      -- Precedence is decided by the patterns, which are the same on both sides.
      have hp : Pattern.precedes (Matched.map f n).route.pattern.tokens
          (Matched.map f m).route.pattern.tokens =
          Pattern.precedes n.route.pattern.tokens m.route.pattern.tokens := rfl
      dsimp only [Option.map_some]
      rw [hp]
      split <;> rfl

theorem find?_map (f : α → β) (r : Router α) (path : String) :
    (r.map f).find? path = (r.find? path).map (Matched.map f) := by
  unfold find?
  rw [matching_map, first?_map]

end Router

/-- What a handler sees of a request if bodies may have `limit` bytes. -/
def Request.handed (req : Request) (limit : Nat) (params : List (String × String)) : Call where
  method := req.method
  uri := req.uri
  headers := req.headers
  params := params
  body := if req.body.length ≤ limit then some req.body else none

theorem Found.run_route (endpoint : Endpoint) (params : List (String × String))
    (allow : Option String) (limit : Nat) (req : Request) :
    (Found.route endpoint params allow).run limit req = endpoint (req.handed limit params) := rfl

/-- What is found where handlers have been replaced; what answers other methods is none of them. -/
def Found.map (f : Endpoint → Endpoint) : Found → Found
  | .route endpoint params none => .route (f endpoint) params none
  | .route endpoint params (some allow) => .route endpoint params (some allow)
  | .noRoute => .noRoute
  | .noPath => .noPath

theorem Router.lookup_map (f : Endpoint → Endpoint) (r : Router Endpoint) (req : Request) :
    (r.map f).lookup req = (r.lookup req).map f := by
  unfold Router.lookup
  rw [Router.find?_map]
  split
  · rfl
  · cases r.find? req.uri.path with
    | none => rfl
    | some m =>
      have he := m.route.endpoints.find?_map f req.method
      have ha := m.route.endpoints.allowed_map f
      dsimp only [Option.map_some, Router.Matched.map]
      rw [he, ha]
      cases m.route.endpoints.find? req.method <;> rfl

/-- Handlers are seen through the calls that they get. -/
theorem Found.run_map {f : Endpoint → Endpoint} {found : Found} {limit : Nat} {req : Request}
    (h : ∀ e params, found = .route e params none →
      f e (req.handed limit params) = e (req.handed limit params)) :
    (found.map f).run limit req = found.run limit req := by
  cases found with
  | route e params allow =>
    cases allow with
    | none => exact h e params rfl
    | some methods => rfl
  | noRoute => rfl
  | noPath => rfl

/-- Completing an answer does not look at the handler either. -/
theorem Found.finish_map (f : Endpoint → Endpoint) (found : Found) (req : Request)
    (resp : Response) : (found.map f).finish req resp = found.finish req resp := by
  cases found with
  | route endpoint params allow => cases allow <;> rfl
  | noRoute => rfl
  | noPath => rfl

end DevServer.Http
