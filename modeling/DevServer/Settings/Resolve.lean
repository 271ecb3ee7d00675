import DevServer.Settings.Decode
import DevServer.Settings.Layers
import DevServer.Settings.Problem
import DevServer.Storage.Files
import DevServer.Text.Utf8

/-!
The settings in force: defaults, a file, the environment and the command line, each above the one
before it. Problems are looked for at the end, so that a value that is replaced does no harm.
-/
namespace DevServer

set_option autoImplicit false

open Storage (Bytes Reader)

inductive SettingsFault where
  | unreadable (path : Bytes) (fault : Storage.Fault)
  | undecodable (fault : DocumentFault)
  | badVariable (bad : BadVariable)
  | invalid (problems : List Problem)

def fileFaultMessage : Storage.Fault → String
  | .notFound => "No such file or directory (os error 2)"
  | .isFolder => "Is a directory (os error 21)"
  | .notFolder => "Not a directory (os error 20)"
  | .nameTooLong => "File name too long (os error 36)"
  | .notText => "stream did not contain valid UTF-8"
  | .nulInName => "file name contained an unexpected NUL byte"

def SettingsFault.message : SettingsFault → String
  | .unreadable path fault =>
    "IO error reading " ++ Text.Utf8.decodeLossy path ++ ": " ++ fileFaultMessage fault
  | .undecodable fault => "Parse error: " ++ fault.render
  | .badVariable bad => bad.message
  | .invalid problems => "Validation failed: " ++ ", ".intercalate (problems.map Problem.message)

namespace Settings

/-- The settings that a file gives, from what reading the file gave. -/
def ofFile (path : Bytes) (content : Except Storage.Fault Bytes) : Except SettingsFault Settings :=
  match content with
  | .error fault => .error (.unreadable path fault)
  | .ok bytes =>
    match Text.Utf8.decode bytes with
    | .error _ => .error (.unreadable path .notText)
    | .ok text =>
      match ofDocument text with
      | .error fault => .error (.undecodable fault)
      | .ok s => .ok s

/-- Settings in which nothing is wrong. -/
def validated (s : Settings) : Except SettingsFault Settings :=
  if s.problems.isEmpty then .ok s else .error (.invalid s.problems)

def read (files : Reader) (path : Bytes) : Except SettingsFault Settings :=
  ofFile path (files path)

/-- The settings of a file in which nothing is wrong. -/
def load (files : Reader) (path : Bytes) : Except SettingsFault Settings := do
  let s ← read files path
  s.validated

/-- The settings that the environment and the command line make of settings. -/
def overlay (env : Environment) (o : Overrides) (s : Settings) : Except SettingsFault Settings :=
  match s.applyEnvironment env with
  | (_, some bad) => .error (.badVariable bad)
  | (s, none) => (s.applyOverrides o).validated

/-- The settings in force, with a file if a path is given. -/
def resolve (files : Reader) (path : Option Bytes) (env : Environment) (o : Overrides) :
    Except SettingsFault Settings := do
  let s ← match path with
    | none => .ok {}
    | some path => read files path
  overlay env o s

end Settings
end DevServer
