/-!
Methods of requests: the nine standard ones and any other token.
-/
namespace DevServer.Http

set_option autoImplicit false

inductive Method where
  | get
  | head
  | delete
  | options
  | patch
  | post
  | put
  | trace
  | connect
  | other (name : String)
deriving Repr, DecidableEq

def isTokenChar (c : Char) : Bool :=
  c.isAlphanum || "!#$%&'*+-.^_|~".toList.contains c || c.toNat = 0x60

def isToken (s : String) : Bool := s ≠ "" && s.toList.all isTokenChar

namespace Method

/-- The standard methods, in the order in which tables of methods are compared. -/
def standard : List Method := [.get, .head, .delete, .options, .patch, .post, .put, .trace, .connect]

def name : Method → String
  | .get => "GET"
  | .head => "HEAD"
  | .delete => "DELETE"
  | .options => "OPTIONS"
  | .patch => "PATCH"
  | .post => "POST"
  | .put => "PUT"
  | .trace => "TRACE"
  | .connect => "CONNECT"
  | .other name => name

/-- The method that a token names; names are told apart by case. -/
def ofName? (s : String) : Option Method :=
  match standard.find? (·.name = s) with
  | some m => some m
  | none => if isToken s then some (.other s) else none

theorem ofName?_name {m : Method} (h : m ∈ standard) : ofName? m.name = some m := by
  simp only [standard, List.mem_cons, List.not_mem_nil, or_false] at h
  rcases h with h | h | h | h | h | h | h | h | h <;> subst h <;> decide

end Method
end DevServer.Http
