import DevServer.Net.Address

/-!
Reading addresses. Each reader takes a value from the front of the text and returns what is left;
the readers named `ofString?` take the whole text or nothing. Numbers with dots have no leading
zeros; groups of version 6 have one to four digits.
-/
namespace DevServer.Net

set_option autoImplicit false

/-- A reader of a value at the front of a text. -/
abbrev Reader (α : Type) := List Char → Option (α × List Char)

/-- The value of a digit of the given base, up to sixteen. -/
def digitOf? (base : Nat) (c : Char) : Option Nat :=
  let value :=
    if '0' ≤ c ∧ c ≤ '9' then c.toNat - '0'.toNat
    else if 'a' ≤ c ∧ c ≤ 'f' then c.toNat - 'a'.toNat + 10
    else if 'A' ≤ c ∧ c ≤ 'F' then c.toNat - 'A'.toNat + 10
    else base
  if value < base then some value else none

/-- All the digits at the front of the text. -/
def digitsOf (base : Nat) : List Char → List Nat × List Char
  | [] => ([], [])
  | c :: rest =>
    match digitOf? base c with
    | none => ([], c :: rest)
    | some d => ((d :: (digitsOf base rest).1), (digitsOf base rest).2)

def ofDigits (base : Nat) (ds : List Nat) : Nat := ds.foldl (fun n d => n * base + d) 0

/-- A number up to `limit`, written with at least one and at most `width` digits. -/
def readNumber (base limit : Nat) (width : Option Nat) (leadingZeros : Bool) : Reader Nat := fun s =>
  let (ds, rest) := digitsOf base s
  let tooLong := match width with
    | none => false
    | some w => w < ds.length
  let padded := !leadingZeros && ds.head? = some 0 && 1 < ds.length
  if ds.isEmpty || tooLong || padded || limit < ofDigits base ds then none
  else some (ofDigits base ds, rest)

def readChar (c : Char) : Reader Unit
  | [] => none
  | d :: rest => if c = d then some ((), rest) else none

/-- A number from 0 to 255 without leading zeros. -/
def readOctet : Reader UInt8 := fun s =>
  (readNumber 10 255 (some 3) false s).map fun (n, rest) => (UInt8.ofNat n, rest)

def readIPv4 : Reader IPv4 := fun s => do
  let (a, s) ← readOctet s
  let (_, s) ← readChar '.' s
  let (b, s) ← readOctet s
  let (_, s) ← readChar '.' s
  let (c, s) ← readOctet s
  let (_, s) ← readChar '.' s
  let (d, s) ← readOctet s
  return (⟨a, b, c, d⟩, s)

/-- Groups of an address of version 6. -/
structure Groups where
  groups : List UInt16
  /-- The last two groups were written as an address of version 4. -/
  dotted : Bool

/-- The two groups of an embedded address. -/
def IPv4.toGroups (x : IPv4) : List UInt16 :=
  [x.a.toUInt16 <<< 8 ||| x.b.toUInt16, x.c.toUInt16 <<< 8 ||| x.d.toUInt16]

/-- The colon that stands before every group but the first. -/
def readSeparator (first : Bool) : Reader Unit := fun s =>
  if first then some ((), s) else readChar ':' s

/-- At most `room` groups. An embedded address needs room for two and ends them. -/
def readGroups (first : Bool) : Nat → List Char → Groups × List Char
  | 0, s => (⟨[], false⟩, s)
  | room + 1, s =>
    let embedded := if room = 0 then none else readSeparator first s >>= fun r => readIPv4 r.2
    match embedded with
    | some (x, rest) => (⟨x.toGroups, true⟩, rest)
    | none =>
      match readSeparator first s >>= fun r => readNumber 16 65535 (some 4) true r.2 with
      | none => (⟨[], false⟩, s)
      | some (g, rest) =>
        let (more, rest) := readGroups false room rest
        (⟨UInt16.ofNat g :: more.groups, more.dotted⟩, rest)

/-- Eight groups make an address. -/
def IPv6.ofGroups? (gs : List UInt16) : Option IPv6 :=
  if h : gs.length = 8 then some ⟨gs, h⟩ else none

/-- An address of version 6: eight groups, or groups around `::` for one zero group or more. -/
def readIPv6 : Reader IPv6 := fun s =>
  let (front, rest) := readGroups true 8 s
  if front.groups.length = 8 then (IPv6.ofGroups? front.groups).map fun x => (x, rest)
  else if front.dotted then none
  else do
    -- The two colons stand for one group at least, so at most seven are written.
    let (_, rest) ← readChar ':' rest
    let (_, rest) ← readChar ':' rest
    let (back, rest) := readGroups true (7 - front.groups.length) rest
    let zeros := List.replicate (8 - front.groups.length - back.groups.length) (0 : UInt16)
    let address ← IPv6.ofGroups? (front.groups ++ zeros ++ back.groups)
    return (address, rest)

def readIpAddress : Reader IpAddress := fun s =>
  match readIPv4 s with
  | some (x, rest) => some (.v4 x, rest)
  | none => (readIPv6 s).map fun (x, rest) => (.v6 x, rest)

/-- A port in decimal, with any number of leading zeros. -/
def readPort : Reader UInt16 := fun s =>
  (readNumber 10 65535 none true s).map fun (n, rest) => (UInt16.ofNat n, rest)

/-- A percent sign and a number; nothing stands for zero. -/
def readScope (s : List Char) : UInt32 × List Char :=
  match readChar '%' s >>= fun r => readNumber 10 4294967295 none true r.2 with
  | none => (0, s)
  | some (n, rest) => (UInt32.ofNat n, rest)

/-- An address of version 4 and a port. -/
def readSocketV4 : Reader SocketAddress := fun s => do
  let (x, s) ← readIPv4 s
  let (_, s) ← readChar ':' s
  let (port, s) ← readPort s
  return (⟨.v4 x, port, 0⟩, s)

/-- An address of version 6 in brackets, perhaps with a scope, and a port. -/
def readSocketV6 : Reader SocketAddress := fun s => do
  let (_, s) ← readChar '[' s
  let (x, s) ← readIPv6 s
  let (scope, s) := readScope s
  let (_, s) ← readChar ']' s
  let (_, s) ← readChar ':' s
  let (port, s) ← readPort s
  return (⟨.v6 x, port, scope⟩, s)

/-- The value of a text that the reader takes whole. -/
def Reader.whole? {α : Type} (reader : Reader α) (s : String) : Option α :=
  match reader s.toList with
  | some (x, []) => some x
  | _ => none

def IpAddress.ofString? (s : String) : Option IpAddress := Reader.whole? readIpAddress s

def SocketAddress.ofString? (s : String) : Option SocketAddress :=
  match Reader.whole? readSocketV4 s with
  | some x => some x
  | none => Reader.whole? readSocketV6 s

end DevServer.Net
