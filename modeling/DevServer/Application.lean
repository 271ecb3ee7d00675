import DevServer.Health
import DevServer.Reporting
import DevServer.Settings.Basic
import DevServer.Text.Quoted

/-!
Applications: the route of the server's own health and the blueprints that have been registered.
A name is registered once and no blueprint brings a path that is served already. An application
is a value, so that a registration that fails leaves the old one as it was.
-/
namespace DevServer

set_option autoImplicit false

open Http (Endpoint RouteFault Router)

/-- Why an application cannot be built or extended. -/
inductive AppFault where
  | unknownAdapter (unknown : UnknownAdapter)
  | duplicateBlueprint (name : String)
  | pathTaken (blueprint path : String)
  /-- The table of routes cannot hold a route beside those that it has. -/
  | refused (fault : RouteFault)
deriving Repr, DecidableEq

def AppFault.message : AppFault → String
  | .unknownAdapter unknown => unknown.message
  | .duplicateBlueprint name => s!"Blueprint `{name}` is already registered"
  | .pathTaken blueprint path => s!"Blueprint `{blueprint}` route `{path}` is already served"
  | .refused fault => fault.message

/-- The routes of a server and where they come from. -/
structure Application where
  router : Router Endpoint
  blueprints : List String
  paths : List String
  adapter : Option Adapter

namespace Application

def target : String := "reporting_webserver::app"

/-- The application that can only tell its health. -/
def new : Application where
  router := Health.router 0
  blueprints := []
  paths := [Health.path]
  adapter := none

def hasBlueprint (app : Application) (name : String) : Bool := app.blueprints.contains name

def registered (name : String) : Log.Event where
  level := .debug
  target := target
  message := "Blueprint registered"
  fields := [("blueprint", .text name)]

/-- What an operation leaves: the application, the fault if there is one, and what was told. -/
structure Step where
  app : Application
  fault : Option AppFault := none
  events : List Log.Event := []

/-- Registers a blueprint in place. Names and paths that are taken are found before anything is
changed. -/
def attempt (app : Application) (b : Blueprint) : Step :=
  if app.hasBlueprint b.name then { app, fault := some (.duplicateBlueprint b.name) }
  else match b.paths.find? fun p => app.paths.contains p with
    | some path => { app, fault := some (.pathTaken b.name path) }
    | none =>
      -- The table is taken out while the routes are added: one that refuses a route is lost.
      let emptied := { app with router := {} }
      match app.router.merge b.router with
      | .error fault => { app := emptied, fault := some (.refused fault) }
      | .ok router =>
        { app := { emptied with router, blueprints := app.blueprints ++ [b.name],
                                paths := app.paths ++ b.paths },
          events := [registered b.name] }

def register (app : Application) (b : Blueprint) :
    Except AppFault (Application × List Log.Event) :=
  match app.attempt b with
  | { fault := some fault, .. } => .error fault
  | { app, fault := none, events } => .ok (app, events)

def withoutAdapter : Log.Event where
  level := .debug
  target := target
  message := "No reporting adapter selected"

def initialized (app : Application) : Log.Event where
  level := .info
  target := target
  message := "Application initialized"
  fields := [("adapter", .shown (Text.Quoted.quoteOption (app.adapter.map Adapter.name))),
    ("blueprints", .shown (Text.Quoted.quoteList app.blueprints))]

/-- The application with the views of the adapter, if there is one. -/
def withAdapter (adapter : Option Adapter) : Except AppFault (Application × List Log.Event) :=
  match adapter with
  | none => .ok (new, [withoutAdapter])
  | some a =>
    match new.register (Reporting.blueprint a) with
    | .error fault => .error fault
    | .ok (app, events) => .ok ({ app with adapter := some a }, events)

/-- The application that settings describe. Only the adapter and its policy matter. -/
def build (s : Settings) : Except AppFault (Application × List Log.Event) :=
  match (AdapterChoice.ofName s.adapter).resolve s.strictAdapter with
  | .error unknown => .error (.unknownAdapter unknown)
  | .ok (adapter, events) =>
    match withAdapter adapter with
    | .error fault => .error fault
    | .ok (app, more) => .ok (app, events ++ more ++ [app.initialized])

/-- What can be done where there is an application. -/
inductive Operation where
  /-- An application of its own health alone takes its place. -/
  | new
  /-- The application that settings describe takes its place, if there is one. -/
  | build (s : Settings)
  | register (b : Blueprint)

/-- What an operation leaves. -/
def perform (app : Application) : Operation → Step
  | .new => { app := .new }
  | .build s =>
    match build s with
    | .error fault => { app, fault := some fault }
    | .ok (built, events) => { app := built, events }
  | .register b => app.attempt b

/-- What each of some operations leaves, one after the other. -/
def run (app : Application) : List Operation → List Step
  | [] => []
  | op :: ops =>
    let step := app.perform op
    step :: run step.app ops

end Application
end DevServer
