import DevServer.Toml.Failure

/-!
Reading a text from the left. A scan takes a value from the front of what is left, or fails and
says where. A scan that fails can be tried otherwise unless its failure is final; `committed`
makes failures final. Repetition ends because each round must leave less than it found.
-/
namespace DevServer.Toml

set_option autoImplicit false

/-- What is left of a text, with its length. -/
structure Cursor where
  rest : List Char
  left : Nat
  left_eq : left = rest.length

namespace Cursor

def ofText (s : List Char) : Cursor := ⟨s, s.length, rfl⟩

/-- Some characters further on. -/
def advance (c : Cursor) (n : Nat) : Cursor :=
  ⟨c.rest.drop n, c.left - n, by simp [c.left_eq]⟩

@[simp] theorem rest_advance (c : Cursor) (n : Nat) : (c.advance n).rest = c.rest.drop n := rfl

@[simp] theorem left_advance (c : Cursor) (n : Nat) : (c.advance n).left = c.left - n := rfl

/-- A cursor is no more than what is left. -/
theorem ext_rest {c d : Cursor} (h : c.rest = d.rest) : c = d := by
  cases c; cases d; simp_all

end Cursor

/-- A piece of the text, by its two ends. -/
structure Span where
  start : Nat
  stop : Nat
deriving Repr, DecidableEq

/-- Takes a value from the front of the text. -/
abbrev Scan (α : Type) := StateT Cursor (Except Failure) α

namespace Scan

/-- Fails here. -/
def fail {α : Type} (cause : Option Cause) : Scan α := fun c =>
  .error { left := c.left, cause }

/-- The next character, which stays. -/
def peek : Scan (Option Char) := fun c => .ok (c.rest.head?, c)

/-- What is left. -/
def here : Scan Cursor := fun c => .ok (c, c)

/-- One character of a class. -/
def satisfy (p : Char → Bool) : Scan Char := fun c =>
  match c.rest with
  | [] => .error { left := c.left }
  | x :: _ => if p x then .ok (x, c.advance 1) else .error { left := c.left }

def char (x : Char) : Scan Char := satisfy (· = x)

def literal (s : List Char) : Scan Unit := fun c =>
  if s.isPrefixOf c.rest then .ok ((), c.advance s.length) else .error { left := c.left }

/-- The longest run of characters of a class. -/
def takeWhile (p : Char → Bool) : Scan (List Char) := fun c =>
  .ok (c.rest.takeWhile p, c.advance (c.rest.takeWhile p).length)

/-- The longest run of characters of a class, which may not be empty. -/
def takeWhile1 (p : Char → Bool) : Scan (List Char) := fun c =>
  if (c.rest.takeWhile p).isEmpty then .error { left := c.left } else takeWhile p c

/-- At most `n` characters of a class. -/
def takeUpTo (n : Nat) (p : Char → Bool) : Scan (List Char) := fun c =>
  .ok ((c.rest.take n).takeWhile p, c.advance ((c.rest.take n).takeWhile p).length)

/-- Exactly `n` characters of a class. -/
def takeExactly (n : Nat) (p : Char → Bool) : Scan (List Char) := fun c =>
  if ((c.rest.take n).takeWhile p).length = n then takeUpTo n p c else .error { left := c.left }

def atEnd : Scan Unit := fun c => if c.rest.isEmpty then .ok ((), c) else .error { left := c.left }

/-- The second scan where the first one fails and is not final. -/
def orElse {α : Type} (first second : Scan α) : Scan α := fun c =>
  match first c with
  | .error f => if f.final then .error f else second c
  | .ok r => .ok r

/-- A value, or nothing where the scan fails and is not final. -/
def optional {α : Type} (scan : Scan α) : Scan (Option α) := orElse (some <$> scan) (pure none)

/-- Looks at the text without taking anything. -/
def lookahead {α : Type} (scan : Scan α) : Scan α := fun c =>
  match scan c with
  | .error f => .error f
  | .ok (a, _) => .ok (a, c)

/-- Changes the failures of a scan. -/
def mapFailure {α : Type} (change : Failure → Failure) (scan : Scan α) : Scan α := fun c =>
  match scan c with
  | .error f => .error (change f)
  | .ok r => .ok r

/-- From here on there is no other reading. -/
def committed {α : Type} (scan : Scan α) : Scan α := mapFailure ({ · with final := true }) scan

/-- The failures of the scan are those of a part of the grammar, unless a smaller part has them. -/
def labelled {α : Type} (part : Part) (scan : Scan α) : Scan α :=
  mapFailure (fun f => { f with part := f.part.or (some part) }) scan

/-- The failures of the scan tell what could have stood there. -/
def expecting {α : Type} (what : List Expected) (scan : Scan α) : Scan α :=
  mapFailure (fun f => { f with expected := f.expected ++ what }) scan

/-- Accepts a value, or fails where it began. -/
def check {α β : Type} (accept : α → Except (Option Cause) β) (scan : Scan α) : Scan β := fun c =>
  match scan c with
  | .error f => .error f
  | .ok (a, rest) =>
    match accept a with
    | .error cause => .error { left := c.left, cause }
    | .ok b => .ok (b, rest)

/-- Accepts a value, or fails for good where it began. -/
def require {α β : Type} (accept : α → Except (Option Cause) β) (scan : Scan α) : Scan β := fun c =>
  match scan c with
  | .error f => .error f
  | .ok (a, rest) =>
    match accept a with
    | .error cause => .error { left := c.left, cause, final := true }
    | .ok b => .ok (b, rest)

/-- A value with the piece of text that it was read from. -/
def spanned {α : Type} (scan : Scan α) : Scan (α × Span) := do
  let start ← here
  let a ← scan
  let stop ← here
  return (a, ⟨start.left, stop.left⟩)

/-- Repeats a step from a state until it stops by giving no new state, or takes nothing. -/
def loop {σ : Type} (step : σ → Scan (Option σ)) (s : σ) (c : Cursor) :
    Except Failure (σ × Cursor) :=
  match step s c with
  | .error f => .error f
  | .ok (none, c') => .ok (s, c')
  | .ok (some s', c') => if c'.left < c.left then loop step s' c' else .ok (s', c')
termination_by c.left

/-- Repeats a step from a state while it succeeds and takes something. -/
def iterate {σ : Type} (step : σ → Scan σ) : σ → Scan σ := loop fun s => optional (step s)

/-- As many values as there are. -/
def many {α : Type} (scan : Scan α) : Scan (List α) := do
  let values ← iterate (fun acc => return (← scan) :: acc) []
  return values.reverse

/-- One value or more. -/
def many1 {α : Type} (scan : Scan α) : Scan (List α) := do
  let first ← scan
  return first :: (← many scan)

/-- One value or more, with a separator between any two. -/
def separated1 {α : Type} (separator : Scan Unit) (scan : Scan α) : Scan (List α) := do
  let first ← scan
  return first :: (← many (do separator; scan))

/-- Any number of values, with a separator between any two. -/
def separated {α : Type} (separator : Scan Unit) (scan : Scan α) : Scan (List α) :=
  orElse (separated1 separator scan) (pure [])

end Scan
end DevServer.Toml
