import DevServer.Log.Level

/-!
Events as values. Whoever makes events returns them; what is written of them is decided elsewhere.
-/
namespace DevServer.Log

set_option autoImplicit false

/-- The value of a field. -/
inductive FieldValue where
  /-- Text that is quoted where it is written. -/
  | text (s : String)
  /-- Text that is written as it is. -/
  | shown (s : String)
  | natural (n : Nat)
  | truth (b : Bool)
deriving Repr, DecidableEq

/-- The value without any quoting. -/
def FieldValue.plain : FieldValue → String
  | .text s => s
  | .shown s => s
  | .natural n => toString n
  | .truth true => "true"
  | .truth false => "false"

structure Event where
  level : Level
  /-- The part of the program that it happened in. -/
  target : String
  message : String
  fields : List (String × FieldValue) := []
deriving Repr, DecidableEq

end DevServer.Log
