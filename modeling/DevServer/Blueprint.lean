import DevServer.Http.Serving

/-!
Blueprints: named groups of routes that share a state. A blueprint lists its paths once each, in
the order in which they were declared, and its router has exactly these.
-/
namespace DevServer

set_option autoImplicit false

open Http (Endpoint Endpoints Handler RouteFault Router Verb)

/-- A named group of routes. -/
structure Blueprint where
  name : String
  paths : List String
  router : Router Endpoint

namespace Blueprint

/-- A blueprint whose state is still missing. -/
structure Draft (σ : Type) where
  name : String
  paths : List String := []
  router : Router (Handler σ) := {}

namespace Draft

variable {σ : Type}

/-- What serves a path is added, for any number of methods at once. -/
def attach (d : Draft σ) (path : String) (e : Endpoints (Handler σ)) :
    Except RouteFault (Draft σ) := do
  let router ← d.router.insert path e
  return { d with router, paths := if d.paths.contains path then d.paths else d.paths ++ [path] }

def route (d : Draft σ) (path : String) (verb : Verb) (h : Handler σ) :
    Except RouteFault (Draft σ) :=
  d.attach path (.single verb h)

/-- The blueprint whose handlers all have the given state. -/
def withState (d : Draft σ) (state : σ) : Blueprint :=
  { name := d.name, paths := d.paths, router := d.router.map fun h => h state }

end Draft

/-- A route as it is declared. -/
structure Declaration (σ : Type) where
  path : String
  verb : Verb
  handler : Handler σ

/-- The blueprint of some declarations, with a state. -/
def ofList {σ : Type} (name : String) (state : σ) (ds : List (Declaration σ)) :
    Except RouteFault Blueprint := do
  let draft ← ds.foldlM (fun (d : Draft σ) r => d.route r.path r.verb r.handler) { name }
  return draft.withState state

end Blueprint
end DevServer
