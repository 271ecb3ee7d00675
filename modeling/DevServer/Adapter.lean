import DevServer.Log.Event

/-!
Adapters of the reporting views. The name of an adapter is exact; a name that is none is left out
with a warning, or refused if the policy is strict.
-/
namespace DevServer

set_option autoImplicit false

/-- A backend that the reporting views can read from. -/
inductive Adapter where
  | random
  | mysql
deriving Repr, DecidableEq

namespace Adapter

def all : List Adapter := [.random, .mysql]

def name : Adapter → String
  | .random => "RANDOM"
  | .mysql => "MYSQL"

/-- The adapter of a name, in exactly this spelling. -/
def ofName? (s : String) : Option Adapter := all.find? (·.name = s)

theorem ofName?_name (a : Adapter) : ofName? a.name = some a := by
  cases a <;> decide

end Adapter

structure UnknownAdapter where
  name : String
deriving Repr, DecidableEq

def UnknownAdapter.message (u : UnknownAdapter) : String :=
  "Unrecognized adapter `" ++ u.name ++ "` (expected one of " ++
    ", ".intercalate (Adapter.all.map Adapter.name) ++ ")"

/-- The adapter that settings ask for. -/
inductive AdapterChoice where
  | unset
  | known (adapter : Adapter)
  | unknown (name : String)
deriving Repr, DecidableEq

namespace AdapterChoice

/-- What a name asks for; no name and the empty one ask for nothing. -/
def ofName : Option String → AdapterChoice
  | none => .unset
  | some s =>
    if s = "" then .unset
    else match Adapter.ofName? s with
      | some a => .known a
      | none => .unknown s

def skipped (name : String) : Log.Event where
  level := .warn
  target := "reporting_webserver::app::adapter"
  message := "Unrecognized adapter, reporting views stay disabled"
  fields := [("adapter", .shown name)]

/-- The adapter to use, with the events of the decision. -/
def resolve (strict : Bool) : AdapterChoice → Except UnknownAdapter (Option Adapter × List Log.Event)
  | .unset => .ok (none, [])
  | .known a => .ok (some a, [])
  | .unknown s => if strict then .error ⟨s⟩ else .ok (none, [skipped s])

end AdapterChoice
end DevServer
