import ProfilingTargets.Error
import ProfilingTargets.Network.HostName
import ProfilingTargets.Network.IpAddress

/-!
# Addresses

An address on which a server listens is written as a host, a colon and a port. The host
is an IP address, or the name of the machine for itself; no other name can be looked up.

A host of the sixth version may be followed by `%` and the number of an interface, or its
name if the host means something only beside an interface. It may stand in brackets, and
the numbers of the interface and of the port are then digits alone.
-/

namespace ProfilingTargets

/-- An address on which a server listens. -/
structure Address where
  /-- The host. -/
  host : IpAddress
  /-- The number of the interface, 0 for none. -/
  interface : Nat := 0
  /-- The port. -/
  port : Nat
  deriving DecidableEq, Repr

namespace Address

/-- The text of a host where a port follows. -/
def hostText : IpAddress → String
  | .v4 number => (IpAddress.v4 number).text
  | .v6 groups => "[" ++ (IpAddress.v6 groups).text ++ "]"

/-- The address as text. -/
def text (a : Address) : String := hostText a.host ++ ":" ++ String.ofList (Numeral.write a.port)

/-- The machine's name for itself, in lower case. -/
def ownName : List Char := "localhost".toList

/-- The names of the interfaces, the first of which has the number 1. -/
def interfaces : List (List Char) := ["lo".toList]

/-- The number of an interface that is given as digits. -/
def interfaceNumber? (cs : List Char) : Option Nat :=
  if Numeral.isDigits cs then Numeral.read? UInt32.size cs else none

/-- The number of an interface that is given by its number, or beside some hosts by its
name. -/
def interface? (groups : List UInt16) (cs : List Char) : Option Nat :=
  match IpAddress.needsInterface groups, interfaces.idxOf? cs with
  | true, some i => some (i + 1)
  | _, _ => interfaceNumber? cs

/-- A host of the sixth version and the number of its interface, which `number?` reads. -/
def readV6? (number? : List UInt16 → List Char → Option Nat) (cs : List Char) :
    Option (IpAddress × Nat) := do
  let groups ← IpAddress.readV6? (cs.takeWhile (· ≠ '%'))
  match cs.dropWhile (· ≠ '%') with
  | [] => return (.v6 groups, 0)
  | _ :: interface => return (.v6 groups, ← number? groups interface)

/-- Finds a host by its number or its name, with the number of its interface. -/
def findHost (cs : List Char) : Except IoError (IpAddress × Nat) :=
  if cs.contains '\x00' then .error .nulInPath
  else
    match IpAddress.readV4? cs, readV6? interface? cs with
    | some number, _ => .ok (.v4 number, 0)
    | none, some host => .ok host
    | none, none =>
      if cs.map Char.toLower = ownName then .ok (.loopback, 0)
      else if HostName.isName cs then .error .unresolvedHost
      else .error .unknownHost

/-- Reads a host of the sixth version in brackets. -/
def readBracketed? (cs : List Char) : Option (IpAddress × Nat) :=
  match cs.head?, cs.getLast? with
  | some '[', some ']' => readV6? (fun _ => interfaceNumber?) (cs.drop 1).dropLast
  | _, _ => none

/-- Finds the host of an address whose port is written so. -/
def findHostBefore (port cs : List Char) : Except IoError (IpAddress × Nat) :=
  match Numeral.isDigits port, readBracketed? cs with
  | true, some host => .ok host
  | _, _ => findHost cs

/-- Reads an address: the port follows the last colon. -/
def read (cs : List Char) : Except IoError Address :=
  if cs.contains ':' then
    let port := (cs.reverse.takeWhile (· ≠ ':')).reverse
    match Numeral.read? 65536 port with
    | none => .error .invalidPort
    | some n => (findHostBefore port (cs.take (cs.length - port.length - 1))).map
        fun (host, interface) => ⟨host, interface, n⟩
  else .error .invalidSocketAddress

end Address

end ProfilingTargets
