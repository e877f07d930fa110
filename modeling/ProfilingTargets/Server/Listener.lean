import ProfilingTargets.Log.Event
import ProfilingTargets.Network
import ProfilingTargets.Server.Endpoint

/-!
# Listening

The debug server listens on an address before it serves. In a task of its own
(`serve`) it logs whether it can, and the task ends only if it cannot.
-/

namespace ProfilingTargets.Server

/-- The event of a server that serves. -/
def serving (a : Address) : Log.Event where
  level := .info
  speaker := .server
  message := "serving profiling endpoints under " ++ pathPrefix
  fields := [("local", .text a.text)]

/-- The event of a server that cannot listen. -/
def unavailable (address : List Char) (e : IoError) : Log.Event where
  level := .error
  speaker := .server
  message := "debug endpoint unavailable"
  fields := [("addr", .text (String.ofList address)), ("error", .text (Error.io e).message)]

/-- Listens on an address, and says where. -/
def bind (n : Network) (address : List Char) : Except Error Address :=
  (n.resolve address).mapError .io

/-- Listens and serves in a task of its own: whether the task has ended, and what it says. -/
def serve (n : Network) (address : List Char) : Bool × List Log.Event × Network :=
  match n.resolve address with
  | .error e => (true, [unavailable address e], n)
  | .ok a => (false, [serving a], n.listening a)

end ProfilingTargets.Server
