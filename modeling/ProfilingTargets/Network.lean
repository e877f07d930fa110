import ProfilingTargets.Network.Address

/-!
# The network

As much of a network as a server needs that listens on its own machine. A port can be
listened on once for each host, and once for all hosts; port 0 stands for any that is
free.

While the loopback interface is down, the machine cannot be reached from itself. It
knows then of no host that is its own, and takes every host of the fourth version for
one, but of the sixth only what stands for all hosts.
-/

namespace ProfilingTargets

/-- What a server finds on its machine. -/
structure Network where
  /-- The addresses that are listened on. -/
  taken : List Address := []
  /-- The next port that is given to who asks for any. -/
  nextPort : Nat := 32768
  /-- The loopback interface is up. -/
  loopbackUp : Bool := true
  deriving DecidableEq, Repr

namespace Network

/-- Why the machine cannot be reached from itself, if it cannot. -/
def unreachable (n : Network) : Option IoError :=
  if n.loopbackUp then none else some .networkUnreachable

/-- Whether a host of the fourth version is the machine itself, or no single machine. -/
def isOwn4 (number : UInt32) : Bool :=
  match (number >>> 24).toNat with
  | 0 | 127 => true
  | first => (224 ≤ first && first < 240) || number == 0xFFFFFFFF

/-- Why nobody can listen on an address of this machine, if nobody can. -/
def refusal? (n : Network) (a : Address) : Option IoError :=
  match a.host.plain with
  | .v4 number => if n.loopbackUp && !isOwn4 number then some .addressNotAvailable else none
  | .v6 groups =>
    if IpAddress.isMulticast groups then some .invalidArgument
    else if IpAddress.isLinkLocal groups && a.interface == 0 then some .invalidArgument
    else if IpAddress.isLinkLocal groups && Address.interfaces.length < a.interface then
      some .noDevice
    else if a.host.isWildcard || (n.loopbackUp && a.host == .loopback6) then none
    else some .addressNotAvailable

/-- Whether an address is in the way of what is listened on already. -/
def isTaken (n : Network) (a : Address) : Bool :=
  n.taken.any fun b => a.port == b.port && a.host.overlaps b.host

/-- Finds out on which address a listener for `cs` would listen. -/
def resolve (n : Network) (cs : List Char) : Except IoError Address :=
  match Address.read cs with
  | .error e => .error e
  | .ok a =>
    match n.refusal? a with
    | some e => .error e
    | none =>
      if a.port = 0 then .ok { a with port := n.nextPort }
      else if n.isTaken a then .error .addressInUse
      else .ok a

/-- The network with one listener more. -/
def listening (n : Network) (a : Address) : Network :=
  { n with taken := a :: n.taken, nextPort := n.nextPort + 1 }

end Network

end ProfilingTargets
