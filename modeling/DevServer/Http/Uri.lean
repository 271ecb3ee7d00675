/-!
Targets of requests: a path with a query, a full address with a scheme, an authority alone, or a
star. A fragment is cut off. Most characters may stand for themselves, also beyond ASCII.
-/
namespace DevServer.Http

set_option autoImplicit false

/-- The target of a request. -/
structure Uri where
  scheme : Option String := none
  authority : Option String := none
  /-- Empty only for an authority that stands alone. -/
  path : String
  query : Option String := none
deriving Repr, DecidableEq

namespace Uri

def render (u : Uri) : String :=
  (u.scheme.elim "" (· ++ "://")) ++ u.authority.getD "" ++ u.path ++ u.query.elim "" ("?" ++ ·)

/-- Targets have at most this many bytes. -/
def maxBytes : Nat := 65534

/-- Schemes have at most this many characters. -/
def maxScheme : Nat := 64

def isWide (c : Char) : Bool := 0x80 ≤ c.toNat

/-- A visible character of ASCII that is none of the given ones. -/
def isVisibleExcept (excluded : String) (c : Char) : Bool :=
  0x21 ≤ c.toNat && c.toNat ≤ 0x7E && !excluded.toList.contains c

def isPathChar (c : Char) : Bool :=
  isWide c || (isVisibleExcept "#<>?" c && c.toNat ≠ 0x60)

def isQueryChar (c : Char) : Bool := isWide c || isVisibleExcept "\"#<>" c

def isSchemeChar (c : Char) : Bool := c.isAlphanum || "+-.~".toList.contains c

/-- A character of an authority, apart from the percent sign. -/
def isAuthorityChar (c : Char) : Bool :=
  c.isAlphanum || "!$&'()*+,-.:;=@[]_~".toList.contains c

/-- Path and query of what follows an authority, or of a whole target. -/
def ofPath? (s : List Char) : Option Uri :=
  let path := s.takeWhile fun c => c ≠ '?' && c ≠ '#'
  let shown := if path = [] then "/" else String.ofList path
  if !path.all isPathChar then none
  else match s.drop path.length with
    | '?' :: rest =>
      let query := rest.takeWhile (· ≠ '#')
      if query.all isQueryChar then some { path := shown, query := some (String.ofList query) }
      else none
    | _ => some { path := shown }

/-- What has been seen of an authority. -/
structure AuthorityState where
  colons : Nat := 0
  opened : Bool := false
  closed : Bool := false
  /-- A percent sign that may yet turn out to stand before `@` or `]`. -/
  percent : Bool := false
  /-- The last character was `@`. -/
  endsWithAt : Bool := false

/-- Reads one character of an authority. -/
def AuthorityState.step? (s : AuthorityState) (c : Char) : Option AuthorityState :=
  let s := { s with endsWithAt := false }
  if c = ':' then if 8 ≤ s.colons then none else some { s with colons := s.colons + 1 }
  else if c = '[' then if s.percent || s.opened then none else some { s with opened := true }
  -- Before `]` and before `@` there may be more colons, and percent signs.
  else if c = ']' then
    if !s.opened || s.closed then none
    else some { s with closed := true, colons := 0, percent := false }
  else if c = '@' then some { s with colons := 0, percent := false, endsWithAt := true }
  else if c = '%' then some { s with percent := true }
  else if isAuthorityChar c then some s
  else none

/-- Whether an authority may end here. -/
def AuthorityState.isFinal (s : AuthorityState) : Bool :=
  s.opened = s.closed && s.colons ≤ 1 && !s.endsWithAt && !s.percent

/-- Splits off an authority, which may be empty. -/
def splitAuthority? (s : List Char) : Option (List Char × List Char) := do
  let authority := s.takeWhile fun c => c ≠ '/' && c ≠ '?' && c ≠ '#'
  let state ← authority.foldlM AuthorityState.step? {}
  if state.isFinal then some (authority, s.drop authority.length) else none

/-- Whether a text begins with a word of lower-case letters, in any case. -/
def startsWith (word s : List Char) : Bool := (s.take word.length).map Char.toLower = word

/-- What a target may begin with. -/
inductive Scheme where
  | none
  | tooLong
  /-- The name of the scheme and the number of characters that it takes with the colon and the
  slashes. -/
  | named (name : String) (length : Nat)

/-- The scheme of a target. The two usual ones are told in lower case. -/
def schemeOf (s : List Char) : Scheme :=
  if startsWith "http://".toList s then .named "http" 7
  else if startsWith "https://".toList s then .named "https" 8
  else
    let name := s.takeWhile isSchemeChar
    if s.length ≤ 3 || !List.isPrefixOf "://".toList (s.drop name.length) then .none
    else if maxScheme < name.length then .tooLong
    else .named (String.ofList name) (name.length + 3)

/-- A full address, or an authority alone. -/
def ofAddress? (s : List Char) : Option Uri :=
  match schemeOf s with
  | .tooLong => none
  | .none => do
    let (authority, rest) ← splitAuthority? s
    if rest = [] && authority ≠ [] then
      some { authority := some (String.ofList authority), path := "" }
    else none
  | .named scheme length => do
    let (authority, rest) ← splitAuthority? (s.drop length)
    if authority = [] then none
    else
      let u ← ofPath? rest
      some { u with scheme, authority := some (String.ofList authority) }

def ofString? (s : String) : Option Uri :=
  if maxBytes < s.utf8ByteSize then none
  else match s.toList with
    | [] => none
    | ['*'] => some { path := "*" }
    | '/' :: rest => ofPath? ('/' :: rest)
    | cs => ofAddress? cs

end Uri
end DevServer.Http
