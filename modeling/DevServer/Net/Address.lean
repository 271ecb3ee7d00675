/-!
Internet addresses and how they are written. An address of version 6 has eight groups; the
longest run of two or more zero groups, the first of equals, is written `::`, and an address that
embeds one of version 4 (`::ffff:0:0/96`) shows it with dots.
-/
namespace DevServer.Net

set_option autoImplicit false

structure IPv4 where
  a : UInt8
  b : UInt8
  c : UInt8
  d : UInt8
deriving Repr, DecidableEq

/-- An address of version 6: its eight groups of sixteen bits. -/
structure IPv6 where
  groups : List UInt16
  length_eq : groups.length = 8
deriving Repr, DecidableEq

inductive IpAddress where
  | v4 (address : IPv4)
  | v6 (address : IPv6)
deriving Repr, DecidableEq

/-- An address and a port. Only an address of version 6 has a scope other than zero. -/
structure SocketAddress where
  ip : IpAddress
  port : UInt16
  scope : UInt32 := 0
deriving Repr, DecidableEq

def IpAddress.isV6 : IpAddress → Bool
  | .v4 _ => false
  | .v6 _ => true

/-- Four numbers with dots between them. -/
def IPv4.render (x : IPv4) : String :=
  ".".intercalate ([x.a, x.b, x.c, x.d].map fun n => toString n.toNat)

/-- A group in hexadecimal without leading zeros. -/
def renderGroup (g : UInt16) : String := String.ofList (Nat.toDigits 16 g.toNat)

def renderGroups (gs : List UInt16) : String := ":".intercalate (gs.map renderGroup)

/-- A run of groups: where it starts and how many groups it has. -/
structure Run where
  start : Nat := 0
  length : Nat := 0
deriving Repr, DecidableEq

/-- The first of the longest runs of zero groups, given the groups from `index` on, the best run
before them and the run that ends there. -/
def longestZeroRun (index : Nat) (best current : Run) : List UInt16 → Run
  | [] => best
  | g :: rest =>
    let current : Run :=
      if g = 0 then ⟨if current.length = 0 then index else current.start, current.length + 1⟩ else {}
    longestZeroRun (index + 1) (if best.length < current.length then current else best) current rest

/-- The embedded address of version 4, if the address is such a mapping. -/
def IPv6.mapped? (x : IPv6) : Option IPv4 :=
  match x.groups with
  | [0, 0, 0, 0, 0, 0xFFFF, hi, lo] =>
    some ⟨(hi >>> 8).toUInt8, hi.toUInt8, (lo >>> 8).toUInt8, lo.toUInt8⟩
  | _ => none

def IPv6.render (x : IPv6) : String :=
  match x.mapped? with
  | some embedded => "::ffff:" ++ embedded.render
  | none =>
    let run := longestZeroRun 0 {} {} x.groups
    if run.length ≤ 1 then renderGroups x.groups
    else renderGroups (x.groups.take run.start) ++ "::" ++
      renderGroups (x.groups.drop (run.start + run.length))

def IpAddress.render : IpAddress → String
  | .v4 x => x.render
  | .v6 x => x.render

/-- An address of version 6 stands in brackets, with its scope if it has one. -/
def SocketAddress.render (s : SocketAddress) : String :=
  match s.ip with
  | .v4 x => s!"{x.render}:{s.port.toNat}"
  | .v6 x =>
    let scope := if s.scope = 0 then "" else s!"%{s.scope.toNat}"
    s!"[{x.render}{scope}]:{s.port.toNat}"

/-- The address that stands for all addresses of a host. -/
def IpAddress.isUnspecified : IpAddress → Bool
  | .v4 x => x = ⟨0, 0, 0, 0⟩
  | .v6 x => x.groups.all (· = 0)

/-- An address of the host itself. -/
def IpAddress.isLoopback : IpAddress → Bool
  | .v4 x => x.a = 127
  | .v6 x => x.groups = [0, 0, 0, 0, 0, 0, 0, 1]

end DevServer.Net
