import DevServer.Blueprint
import DevServer.Text.Json

/-!
The answer to the question whether the server is up. It is never to be stored by anyone.
-/
namespace DevServer.Health

set_option autoImplicit false

open Text (Json.Value)

def path : String := "/health"

def version : String := "0.1.0"

/-- What is answered when the server has been up for some seconds. -/
def response (uptime : Nat) : Http.Response where
  headers := [("content-type", "application/json"),
    ("cache-control", "no-store, no-cache, must-revalidate"), ("pragma", "no-cache")]
  body := Text.Json.object [("status", Text.Json.quote "up"), ("version", Text.Json.quote version),
    ("uptime", toString uptime)]

def router (uptime : Nat) : Http.Router Http.Endpoint :=
  { routes := [.literal path (.single (.only .get) fun _ => .now (response uptime))] }

end DevServer.Health
