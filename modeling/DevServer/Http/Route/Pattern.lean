/-!
Patterns of paths. A pattern is text with parameters in braces: `{name}` stands for what is left of
a segment and `{*name}` for what is left of the path; a brace that is written twice stands for
itself. A parameter ends its segment. Of two patterns that match the same path, the one with text
where the other has a parameter comes first.
-/
namespace DevServer.Http

set_option autoImplicit false

/-- A part of a pattern. -/
inductive Token where
  | literal (c : Char)
  | param (name : String)
  | rest (name : String)
deriving Repr, DecidableEq

/-- Whether a part stands for text that it does not fix. -/
def Token.isWild : Token → Bool
  | .literal _ => false
  | .param _ => true
  | .rest _ => true

/-- Why a text is no pattern, or cannot stand beside other patterns. -/
inductive PatternFault where
  | badName
  | restNotLast
  | twoInSegment
  | tooManyParams
  /-- The pattern that is there already, as it is shown. -/
  | conflict (shown : String)
deriving Repr, DecidableEq

/-- Patterns have fewer parameters than this, those for the rest of a path apart. -/
def maxParams : Nat := 26

/-- A character of a pattern, and whether it was a brace written twice. -/
structure PatternChar where
  char : Char
  doubled : Bool
deriving Repr, DecidableEq

/-- Reads braces that are written twice as one. -/
def undouble : List Char → List PatternChar
  | '{' :: '{' :: rest => ⟨'{', true⟩ :: undouble rest
  | '}' :: '}' :: rest => ⟨'}', true⟩ :: undouble rest
  | c :: rest => ⟨c, false⟩ :: undouble rest
  | [] => []

/-- What is being read of a pattern: text, or the name of a parameter, backwards. -/
inductive PatternState where
  | text
  | name (soFar : List Char)

/-- Whether text ends or goes on with a slash, as it must behind a parameter. -/
def endsSegment : List PatternChar → Bool
  | [] => true
  | c :: _ => c.char = '/'

def Token.ofName (name : List Char) : Token :=
  if name.head? = some '*' then .rest (String.ofList name.tail) else .param (String.ofList name)

/-- Reads a pattern of which `params` parameters have been read. -/
def readTokens (params : Nat) : PatternState → List PatternChar → Except PatternFault (List Token)
  | .text, [] => .ok []
  | .name _, [] => .error .badName
  | .text, ⟨c, doubled⟩ :: rest =>
    if c = '\x7b' && !doubled then readTokens params (.name []) rest
    else if c = '\x7d' && !doubled then .error .badName
    else (readTokens params .text rest).map (.literal c :: ·)
  | .name [], ⟨c, _⟩ :: rest =>
    if c = '\x7d' then .error .badName else readTokens params (.name [c]) rest
  | .name soFar, ⟨c, doubled⟩ :: rest =>
    if c = '\x7d' && !doubled then
      if soFar = ['*'] then .error .badName
      else if !endsSegment rest then .error .twoInSegment
      else
        let token := Token.ofName soFar.reverse
        -- The rest of a path does not count.
        let params := match token with
          | .param _ => params + 1
          | _ => params
        if maxParams ≤ params then .error .tooManyParams
        else (readTokens params .text rest).map (token :: ·)
    else if c = '*' || c = '/' then .error .badName
    else readTokens params (.name (c :: soFar)) rest

/-- A pattern, with the text that it was written as. -/
structure Pattern where
  text : String
  tokens : List Token
deriving Repr, DecidableEq

namespace Pattern

/-- The pattern that a text writes, wherever in it the rest of the path is. -/
def ofString (text : String) : Except PatternFault Pattern :=
  (readTokens 0 .text (undouble text.toList)).map fun tokens => { text, tokens }

/-- The pattern of a path without parameters. -/
def literal (path : String) : Pattern := ⟨path, path.toList.map .literal⟩

/-- A part as it is shown, with braces written once. -/
def showToken : Token → List Char
  | .literal c => [c]
  | .param name => '\x7b' :: name.toList ++ ['\x7d']
  | .rest name => '\x7b' :: '*' :: name.toList ++ ['\x7d']

def shown (p : Pattern) : String := String.ofList (p.tokens.flatMap showToken)

/-- The values of the parameters if the parts match a path. -/
def matchTokens : List Token → List Char → Option (List (String × String))
  | [], [] => some []
  | [], _ :: _ => none
  | .literal _ :: _, [] => none
  | .literal c :: ts, d :: path => if c = d then matchTokens ts path else none
  | .param name :: ts, path =>
    let value := path.takeWhile (· ≠ '/')
    -- A value may be empty, but not at the end.
    if ts = [] && value = [] then none
    else (matchTokens ts (path.drop value.length)).map ((name, String.ofList value) :: ·)
  | .rest name :: _, path => if path = [] then none else some [(name, String.ofList path)]

/-- The values of the parameters if the pattern matches a path. -/
def match? (p : Pattern) (path : String) : Option (List (String × String)) :=
  matchTokens p.tokens path.toList

/-- Whether the first parts come before the second ones: where they first differ, they have text
and the others a parameter. -/
def precedes : List Token → List Token → Bool
  | .literal c :: ts, .literal d :: us => c = d && precedes ts us
  | .literal _ :: _, .param _ :: _ => true
  | .literal _ :: _, .rest _ :: _ => true
  | .param _ :: ts, .param _ :: us => precedes ts us
  | _, _ => false

end Pattern
end DevServer.Http
