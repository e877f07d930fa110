import ProfilingTargets.Error
import ProfilingTargets.Text.Split

/-!
# The file system

As much of a file system as profiles need: directories, regular files with their
content, and a few devices, reached by paths from the root or from the working
directory. A path is walked component by component; every component but the last
has to be a directory, `.` stays and `..` goes up. In a closed directory nothing can be
created, and a sealed file cannot be opened for writing.

Creating a file opens it for writing and empties it. What is open is known by a handle,
which knows where it is in the file: a write goes on there, whatever has become of the
file in the meantime, and what the file holds beyond it stays.
-/

namespace ProfilingTargets

/-- A way from the root: the names of the directories, outermost first, and of the file. -/
abbrev Location := List Bytes

/-- Files that are no files. -/
inductive Device where
  /-- Takes everything and keeps nothing. -/
  | sink
  /-- Is full. -/
  | full
  deriving DecidableEq, Repr

/-- What stands at a location. -/
inductive Entry where
  /-- A directory. -/
  | directory
  /-- A regular file with this content. -/
  | file (content : Bytes)
  /-- A device. -/
  | device (d : Device)
  /-- A directory that is closed, and the error of who creates something in it. -/
  | closed (why : IoError)
  /-- A file that is sealed, and the error of who opens it. -/
  | sealed (why : IoError)
  deriving DecidableEq, Repr

/-- Whether a path can go on from here. -/
def Entry.isDirectory : Entry → Bool
  | .directory | .closed _ => true
  | _ => false

/-- A file that is open for writing. -/
structure Handle where
  /-- Where the file is. -/
  location : Location
  /-- How far into the file the next write goes. -/
  offset : Nat := 0
  deriving DecidableEq, Repr

/-- The handle after so many bytes have been written. -/
def Handle.advance (h : Handle) (count : Nat) : Handle := { h with offset := h.offset + count }

/-- What there is, and where paths begin. -/
structure FileSystem where
  /-- What stands where; the root is always a directory. -/
  entries : List (Location × Entry)
  /-- Where relative paths begin. -/
  workingDirectory : Location
  deriving DecidableEq, Repr

namespace FileSystem

/-- The separator of a path's components. -/
def slash : UInt8 := 0x2F

/-- The longest name. -/
def greatestName : Nat := 255

/-- The longest path. -/
def greatestPath : Nat := 4095

/-- What stands at a location. -/
def at? (fs : FileSystem) (loc : Location) : Option Entry :=
  if loc = [] then some .directory else fs.entries.lookup loc

/-- The file system with something put at a location, in place of what stood there. -/
def put (fs : FileSystem) (loc : Location) (entry : Entry) : FileSystem :=
  { fs with entries := (loc, entry) :: fs.entries.filter (·.1 != loc) }

/-- The components of a path: what stands between slashes, and is not empty. -/
def components (path : Bytes) : List Bytes := (Split.splitOn slash path).filter (!·.isEmpty)

/-- The current directory's name for itself. -/
def dot : Bytes := [0x2E]

/-- A directory's name for the one that holds it. -/
def dotDot : Bytes := [0x2E, 0x2E]

/-- Where a name leads from a directory, whether or not something is there. -/
def next (dir : Location) (name : Bytes) : Except IoError Location :=
  if name = dot then .ok dir
  else if name = dotDot then .ok dir.dropLast
  else if name.length > greatestName then .error .nameTooLong
  else .ok (dir ++ [name])

/-- Walks through directories. -/
def walk (fs : FileSystem) (dir : Location) : List Bytes → Except IoError Location
  | [] => .ok dir
  | name :: names => do
    let loc ← next dir name
    match fs.at? loc with
    | none => .error .notFound
    | some entry => if entry.isDirectory then walk fs loc names else .error .notDirectory

/-- Where a path leads: its last component's directory and name. Without a name the path
is one of a directory that has just been reached (`/`). -/
structure Target where
  /-- The directory. -/
  dir : Location
  /-- The name in it. -/
  name? : Option Bytes
  /-- A slash at the end asks for a directory. -/
  slashed : Bool
  deriving DecidableEq, Repr

/-- Follows a path up to its last component. -/
def target (fs : FileSystem) (path : Bytes) : Except IoError Target := do
  if path.contains 0 then .error .nulInPath
  else if path = [] then .error .notFound
  else if path.length > greatestPath then .error .nameTooLong
  else
    let start := if path.head? = some slash then [] else fs.workingDirectory
    let names := components path
    let dir ← fs.walk start names.dropLast
    .ok ⟨dir, names.getLast?, path.getLast? = some slash⟩

/-- Opens the file at a location in a directory, which is created or emptied: the handle, and
the file system then. -/
def openAt (fs : FileSystem) (dir loc : Location) : Except IoError (Handle × FileSystem) :=
  match fs.at? loc with
  | none =>
    match fs.at? dir with
    | some (.closed why) => .error why
    | _ => .ok ({ location := loc }, fs.put loc (.file []))
  | some (.file _) => .ok ({ location := loc }, fs.put loc (.file []))
  | some (.device _) => .ok ({ location := loc }, fs)
  | some (.sealed why) => .error why
  | some .directory | some (.closed _) => .error .isDirectory

/-- Creates the file of a path, or empties it, and opens it. -/
def create (fs : FileSystem) (path : Bytes) : Except IoError (Handle × FileSystem) := do
  let target ← fs.target path
  match target.name? with
  | none => .error .isDirectory
  | some name =>
    if target.slashed then .error .isDirectory
    else
      let loc ← next target.dir name
      fs.openAt target.dir loc

/-- Content after bytes have been written at an offset; a gap before them is filled with
zeros. -/
def overwrite (content : Bytes) (offset : Nat) (bytes : Bytes) : Bytes :=
  if bytes.isEmpty then content
  else
    content.take offset ++ List.replicate (offset - content.length) 0 ++ bytes ++
      content.drop (offset + bytes.length)

/-- Writes bytes through a handle: the handle and the file system then. A full device has
room for none, and takes no bytes at all. -/
def write (fs : FileSystem) (h : Handle) (bytes : Bytes) : Except IoError (Handle × FileSystem) :=
  match fs.at? h.location with
  | some (.file content) =>
    .ok (h.advance bytes.length, fs.put h.location (.file (overwrite content h.offset bytes)))
  | some (.device .sink) => .ok (h.advance bytes.length, fs)
  | some (.device .full) => if bytes.isEmpty then .ok (h, fs) else .error .noSpace
  | _ => .error .permissionDenied

/-- Waits until what is open is on its disk; a device has none. -/
def sync (fs : FileSystem) (h : Handle) : Except IoError Unit :=
  match fs.at? h.location with
  | some (.device _) => .error .invalidArgument
  | _ => .ok ()

/-- What stands at the end of a path. -/
def find (fs : FileSystem) (path : Bytes) : Except IoError Entry := do
  let target ← fs.target path
  let loc ← match target.name? with
    | none => .ok target.dir
    | some name => next target.dir name
  match fs.at? loc with
  | none => .error .notFound
  | some entry =>
    if target.slashed && !entry.isDirectory then .error .notDirectory else .ok entry

/-- Replaces the content of a path's file by these bytes. -/
def save (fs : FileSystem) (path bytes : Bytes) : Except IoError FileSystem := do
  let (handle, fs) ← fs.create path
  let (_, fs) ← fs.write handle bytes
  .ok fs

/-- The names of the regular files in a directory, with their content. -/
def filesIn (fs : FileSystem) (dir : Location) : List (Bytes × Bytes) :=
  fs.entries.filterMap fun (loc, entry) =>
    match entry, loc.getLast? with
    | .file content, some name => if loc.dropLast = dir then some (name, content) else none
    | _, _ => none

/-- The directory of the devices. -/
def deviceDirectory : Location := [Utf8.encode "dev".toList]

/-- The names of the devices that take everything. -/
def sinks : List String := ["null", "zero", "random", "urandom"]

/-- The devices of every machine. -/
def devices : List (Location × Entry) :=
  (deviceDirectory, .directory) ::
  (deviceDirectory ++ [Utf8.encode "full".toList], .device .full) ::
  sinks.map fun name => (deviceDirectory ++ [Utf8.encode name.toList], .device .sink)

/-- A file system that holds the devices and the directories which a path goes through. -/
def leadingTo (path : Bytes) : FileSystem :=
  let (_, entries) := (components path).dropLast.foldl
    (fun (loc, entries) name =>
      let loc := (next loc name).toOption.getD loc
      (loc, (loc, Entry.directory) :: entries))
    (([] : Location), devices)
  ⟨entries, []⟩

end FileSystem

end ProfilingTargets
