import DevServer.Http.Route.Pattern

/-!
Which patterns can stand beside each other. Two patterns conflict if they have the same parts,
names of parameters aside, or if after the same parts one has a parameter and the other the rest
of the path. The report names one of the patterns that are in the way: from the parameter on, it
follows the branch that most patterns share.
-/
namespace DevServer.Http

set_option autoImplicit false

/-- A pattern that is there already, with the parts that have not been compared. -/
structure Remaining where
  pattern : Pattern
  tokens : List Token
deriving Repr, DecidableEq

def Remaining.tail (r : Remaining) : Remaining := { r with tokens := r.tokens.tail }

/-- Whether the remaining pattern goes on with a parameter. -/
def Remaining.atParam (r : Remaining) : Bool :=
  match r.tokens.head? with
  | some (.param _) => true
  | _ => false

/-- The remaining patterns that go on with a character. -/
def withLiteral (c : Char) (rs : List Remaining) : List Remaining :=
  (rs.filter fun r => r.tokens.head? = some (.literal c)).map Remaining.tail

/-- The remaining patterns that go on with a parameter or the rest of the path. -/
def withWild (rs : List Remaining) : List Remaining :=
  rs.filter fun r => r.tokens.head?.any Token.isWild

/-- The characters with which patterns go on, each with the number of its patterns so far, and the
one that leads: a character leads when it comes to have more patterns than the one that led. -/
structure Branches where
  counts : List (Char × Nat) := []
  leader : Option (Char × Nat) := none

def Branches.add (b : Branches) (c : Char) : Branches :=
  let n := (b.counts.lookup c).getD 0 + 1
  let counts := (c, n) :: b.counts.filter (·.1 ≠ c)
  match b.leader with
  | none => { counts, leader := some (c, n) }
  | some (_, most) => { counts, leader := if most < n then some (c, n) else b.leader }

/-- The character with which most of the patterns go on. -/
def leadingLiteral? (rs : List Remaining) : Option Char :=
  let add (b : Branches) (r : Remaining) : Branches :=
    match r.tokens.head? with
    | some (.literal c) => b.add c
    | _ => b
  (rs.foldl add {}).leader.map Prod.fst

/-- The pattern at the end of the branches that most patterns share, parameters coming last.
`steps` bounds the number of parts that are followed. -/
def farthest : (steps : Nat) → List Remaining → Option Pattern
  | 0, rs => rs.head?.map (·.pattern)
  | steps + 1, rs =>
    match leadingLiteral? rs with
    | some c => farthest steps (withLiteral c rs)
    | none =>
      match withWild rs with
      | [] => rs.head?.map (·.pattern)
      | wild => farthest steps (wild.map Remaining.tail)

/-- The conflict with the pattern that is reported among those in the way. -/
def conflictAmong (rs : List Remaining) : PatternFault :=
  let steps := (rs.map fun r => r.tokens.length).foldl max 0
  .conflict (((farthest steps rs).map Pattern.shown).getD "")

/-- Finds room for parts among the remaining patterns. -/
def findRoom (rs : List Remaining) : List Token → Except PatternFault Unit
  | [] =>
    match rs.find? (·.tokens = []) with
    | some r => .error (.conflict r.pattern.shown)
    | none => .ok ()
  | .literal c :: ts => findRoom (withLiteral c rs) ts
  | .param _ :: ts =>
    match withWild rs with
    | [] => findRoom [] ts
    | wild =>
      -- Beside a parameter only other parameters can stand.
      if wild.all Remaining.atParam then findRoom (wild.map Remaining.tail) ts
      else .error (conflictAmong wild)
  | .rest _ :: ts =>
    match withWild rs with
    | [] => if ts = [] then .ok () else .error .restNotLast
    | wild => .error (conflictAmong wild)

/-- The pattern that a text writes, if it is well formed and can stand beside others, which came
in this order. -/
def Pattern.room (text : String) (others : List Pattern) : Except PatternFault Pattern := do
  let p ← Pattern.ofString text
  findRoom (others.map fun q => ⟨q, q.tokens⟩) p.tokens
  return p

end DevServer.Http
