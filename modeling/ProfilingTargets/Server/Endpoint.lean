/-!
# Endpoints

The paths of the debug server. A path is taken as it was sent: nothing in it is
decoded, and no other spelling is accepted, but the index answers with and without
its last slash.
-/

namespace ProfilingTargets.Server

/-- What the debug server offers. -/
inductive Endpoint where
  /-- The list of the others. -/
  | index
  /-- A CPU profile. -/
  | profile
  /-- A CPU profile as a drawing. -/
  | flamegraph
  /-- The heap counters. -/
  | heap
  /-- The threads. -/
  | threads
  /-- The command line. -/
  | cmdline
  deriving DecidableEq, Repr

/-- The path under which everything is. -/
def pathPrefix : String := "/debug/pprof/"

/-- Where the server listens unless told otherwise. -/
def defaultAddress : String := "localhost:6060"

namespace Endpoint

/-- All endpoints. -/
def all : List Endpoint := [.index, .profile, .flamegraph, .heap, .threads, .cmdline]

/-- The name of an endpoint in its path. -/
def name : Endpoint → String
  | .index => ""
  | .profile => "profile"
  | .flamegraph => "flamegraph"
  | .heap => "heap"
  | .threads => "threads"
  | .cmdline => "cmdline"

/-- The paths of an endpoint. -/
def paths (e : Endpoint) : List (List Char) :=
  (pathPrefix.toList ++ e.name.toList) ::
    match e with
    | .index => [pathPrefix.toList.dropLast]
    | _ => []

/-- The endpoint of a path. -/
def ofPath? (path : List Char) : Option Endpoint := all.find? (·.paths.contains path)

end Endpoint

end ProfilingTargets.Server
