/-!
Reading bytes as UTF-8. Overlong forms, surrogates and code points beyond the last are invalid.
`decode` stops at the first ill-formed sequence and says where it starts and how many bytes of it
could have begun a character; `decodeLossy` replaces each such sequence by U+FFFD.
-/
namespace DevServer.Text.Utf8

set_option autoImplicit false

/-- Where decoding stopped. `length` is `none` when the input ends inside a character. -/
structure Fault where
  validUpTo : Nat
  length : Option Nat
deriving Repr, DecidableEq

def Fault.message (f : Fault) : String :=
  match f.length with
  | some n => s!"invalid utf-8 sequence of {n} bytes from index {f.validUpTo}"
  | none => s!"incomplete utf-8 byte sequence from index {f.validUpTo}"

def isTail (b : UInt8) : Bool := 0x80 ≤ b && b ≤ 0xBF

/-- The bytes that may follow the leading byte of a character of three or four bytes. -/
def secondOk (lead second : UInt8) : Bool :=
  if lead = 0xE0 then 0xA0 ≤ second && second ≤ 0xBF
  else if lead = 0xED then 0x80 ≤ second && second ≤ 0x9F
  else if lead = 0xF0 then 0x90 ≤ second && second ≤ 0xBF
  else if lead = 0xF4 then 0x80 ≤ second && second ≤ 0x8F
  else isTail second

/-- How many bytes the character has that begins with `lead`; zero if none does. -/
def width (lead : UInt8) : Nat :=
  if lead < 0x80 then 1
  else if 0xC2 ≤ lead && lead ≤ 0xDF then 2
  else if 0xE0 ≤ lead && lead ≤ 0xEF then 3
  else if 0xF0 ≤ lead && lead ≤ 0xF4 then 4
  else 0

/-- What stands at the head of the input. -/
inductive Head where
  /-- A character and the number of its bytes. -/
  | char (c : Char) (bytes : Nat)
  /-- An ill-formed sequence of this many bytes. -/
  | invalid (bytes : Nat)
  /-- The input ends inside a character, after this many bytes of it. -/
  | incomplete (bytes : Nat)
deriving Repr, DecidableEq

/-- The low six bits of a continuation byte. -/
def low6 (b : UInt8) : Nat := b.toNat % 64

/-- Reads one character from the leading byte and the bytes after it. -/
def head (lead : UInt8) (rest : List UInt8) : Head :=
  -- An ill-formed sequence ends before the first byte that cannot continue it.
  match width lead with
  | 0 => .invalid 1
  | 1 => .char (Char.ofNat lead.toNat) 1
  | 2 =>
    match rest with
    | [] => .incomplete 1
    | b :: _ =>
      if isTail b then .char (Char.ofNat (lead.toNat % 32 * 64 + low6 b)) 2 else .invalid 1
  | 3 =>
    match rest with
    | [] => .incomplete 1
    | [b] => if secondOk lead b then .incomplete 2 else .invalid 1
    | b :: c :: _ =>
      if !secondOk lead b then .invalid 1
      else if !isTail c then .invalid 2
      else .char (Char.ofNat (lead.toNat % 16 * 4096 + low6 b * 64 + low6 c)) 3
  | _ =>
    match rest with
    | [] => .incomplete 1
    | b :: rest =>
      if !secondOk lead b then .invalid 1
      else match rest with
        | [] => .incomplete 2
        | c :: rest =>
          if !isTail c then .invalid 2
          else match rest with
            | [] => .incomplete 3
            | d :: _ =>
              if !isTail d then .invalid 3
              else .char (Char.ofNat
                (lead.toNat % 8 * 262144 + low6 b * 4096 + low6 c * 64 + low6 d)) 4

/-- Characters read so far are kept in reverse. -/
def decodeFrom (offset : Nat) (read : List Char) : List UInt8 → Except Fault (List Char)
  | [] => .ok read.reverse
  | b :: rest =>
    match head b rest with
    | .char c n => decodeFrom (offset + n) (c :: read) (rest.drop (n - 1))
    | .invalid n => .error ⟨offset, some n⟩
    | .incomplete _ => .error ⟨offset, none⟩
termination_by bytes => bytes.length
decreasing_by simp only [List.length_cons, List.length_drop]; omega

/-- The text that the bytes encode. -/
def decode (bytes : List UInt8) : Except Fault String :=
  (decodeFrom 0 [] bytes).map String.ofList

/-- One piece of bytes that may not be UTF-8: a character, or the bytes of an ill-formed sequence. -/
inductive Piece where
  | char (c : Char)
  | bytes (bs : List UInt8)
deriving Repr, DecidableEq

/-- Splits bytes into characters and ill-formed sequences; no byte is lost. -/
def pieces : List UInt8 → List Piece
  | [] => []
  | b :: rest =>
    match head b rest with
    | .char c n => .char c :: pieces (rest.drop (n - 1))
    | .invalid n => .bytes (b :: rest.take (n - 1)) :: pieces (rest.drop (n - 1))
    | .incomplete _ => [.bytes (b :: rest)]
termination_by bytes => bytes.length
decreasing_by all_goals simp only [List.length_cons, List.length_drop]; omega

def Piece.toBytes : Piece → List UInt8
  | .char c => (String.singleton c).toUTF8.toList
  | .bytes bs => bs

/-- The character that stands for an ill-formed sequence. -/
def replacement : Char := '\uFFFD'

/-- The text with each ill-formed sequence replaced. -/
def decodeLossy (bytes : List UInt8) : String :=
  String.ofList ((pieces bytes).map fun
    | .char c => c
    | .bytes _ => replacement)

def encode (s : String) : List UInt8 := s.toUTF8.toList

end DevServer.Text.Utf8
