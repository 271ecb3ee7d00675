import DevServer.Net.Address

/-!
Which addresses a program can listen on. Addresses of the host itself can be taken once per port,
and an address that stands for all takes the port from all of them; port zero asks for any port.
-/
namespace DevServer.Net

set_option autoImplicit false

/-- Why an address cannot be listened on. -/
inductive BindFault where
  | inUse
  | notLocal
deriving Repr, DecidableEq

def BindFault.message : BindFault → String
  | .inUse => "Address already in use"
  | .notLocal => "Cannot assign requested address"

/-- The number by which the system reports the fault. -/
def BindFault.code : BindFault → Nat
  | .inUse => 98
  | .notLocal => 99

/-- The fault as the system reports it. -/
def BindFault.report (f : BindFault) : String := s!"{f.message} (os error {f.code})"

/-- The addresses that are listened on, and the port that is given to the next who asks for any. -/
structure Ports where
  taken : List SocketAddress := []
  assigned : UInt16
deriving Repr, DecidableEq

namespace Ports

/-- Whether an address is one of the host. -/
def isLocal (ip : IpAddress) : Bool := ip.isUnspecified || ip.isLoopback

/-- Whether two addresses cannot be listened on at once. -/
def clash (a b : SocketAddress) : Bool :=
  a.port = b.port && (a.ip = b.ip || a.ip.isUnspecified || b.ip.isUnspecified)

/-- Listens on an address: the address with its port, and the ports that are left. -/
def bind (ps : Ports) (a : SocketAddress) : Except BindFault (SocketAddress × Ports) :=
  if !isLocal a.ip then .error .notLocal
  else
    let given := if a.port = 0 then { a with port := ps.assigned } else a
    if ps.taken.any (clash given) then .error .inUse
    else .ok (given,
      { taken := given :: ps.taken,
        assigned := if a.port = 0 then ps.assigned + 1 else ps.assigned })

end Ports
end DevServer.Net
