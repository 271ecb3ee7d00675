import DevServer.Log.Event
import DevServer.Settings.Basic
import DevServer.Text.Json
import DevServer.Text.Quoted

/-!
Events as text. A pretty line has the level, the target, the message and the fields; a line of JSON
has them as members of an object. Text that is shown as it is may contain line ends: then one event
takes several lines in the pretty form, which nothing here prevents.
-/
namespace DevServer.Log

set_option autoImplicit false

def FieldValue.pretty : FieldValue → String
  | .text s => Text.Quoted.quote s
  | v => v.plain

def FieldValue.json : FieldValue → String
  | .text s => Text.Json.quote s
  | .shown s => Text.Json.quote s
  | .natural n => (Text.Json.Value.natural n).render
  | .truth b => (Text.Json.Value.truth b).render

/-- The name of a level with blanks before it, five characters wide. -/
def Level.padded (l : Level) : String :=
  String.ofList (List.replicate (5 - l.name.length) ' ') ++ l.name

namespace Event

/-- An event for people, with the time at which it happened. -/
def pretty (time : String) (e : Event) : String :=
  time ++ " " ++ e.level.padded ++ " " ++ e.target ++ ": " ++
    " ".intercalate (e.message :: e.fields.map fun f => f.1 ++ "=" ++ f.2.pretty)

/-- An event for programs, with the time at which it happened. -/
def json (time : String) (e : Event) : String :=
  let fields := ("message", Text.Json.quote e.message) :: e.fields.map fun f => (f.1, f.2.json)
  Text.Json.object [("timestamp", Text.Json.quote time), ("level", Text.Json.quote e.level.name),
    ("fields", Text.Json.object fields), ("target", Text.Json.quote e.target)]

/-- An event in the form that the settings want. -/
def render (format : LogFormat) (time : String) (e : Event) : String :=
  match format with
  | .pretty => e.pretty time
  | .json => e.json time

end Event
end DevServer.Log
