import DevServer.Adapter
import DevServer.Blueprint
import DevServer.Text.Json

/-!
The reporting views: an index and a status, both naming the adapter.
-/
namespace DevServer.Reporting

set_option autoImplicit false

open Http (Response)
open Text (Json.Value Json.object)

def name : String := "reporting"

def indexPath : String := "/reporting"

def statusPath : String := "/reporting/status"

/-- The members of an object, each with its value. -/
def body (members : List (String × Json.Value)) : String :=
  Json.object (members.map fun m => (m.1, m.2.render))

/-- Which views there are. -/
def index : Http.Handler Adapter := fun adapter _ =>
  .now (Response.json (body [("blueprint", .text name), ("adapter", .text adapter.name),
    ("endpoints", .list [indexPath, statusPath])]))

/-- That the views work. -/
def status : Http.Handler Adapter := fun adapter _ =>
  .now (Response.json (body [("status", .text "ok"), ("adapter", .text adapter.name)]))

/-- The views for an adapter. -/
def blueprint (adapter : Adapter) : Blueprint where
  name := name
  paths := [indexPath, statusPath]
  router := { routes :=
    [.literal indexPath (.single (.only .get) (index adapter)),
      .literal statusPath (.single (.only .get) (status adapter))] }

end DevServer.Reporting
