import DevServer.Text.Json

/-!
Identifiers for requests that bring none. Sixteen bytes are drawn, six of their bits are set to
tell that they were, and they are written in hexadecimal digits, in five groups.
-/
namespace DevServer.Http

set_option autoImplicit false

structure Uuid where
  byte : Fin 16 → UInt8

namespace Uuid

/-- The identifier of bytes that were drawn: version 4, in the usual variant. -/
def ofDrawn (drawn : Fin 16 → UInt8) : Uuid where
  byte i :=
    if i = 6 then UInt8.ofNat (0x40 + (drawn i).toNat % 0x10)
    else if i = 8 then UInt8.ofNat (0x80 + (drawn i).toNat % 0x40)
    else drawn i

/-- The bytes with which a group begins, the first group apart. -/
def groupStarts : List (Fin 16) := [4, 6, 8, 10]

def text (u : Uuid) : String :=
  String.join ((List.finRange 16).map fun i =>
    (if i ∈ groupStarts then "-" else "") ++ Text.Json.hexByte (u.byte i).toNat)

end Uuid
end DevServer.Http
