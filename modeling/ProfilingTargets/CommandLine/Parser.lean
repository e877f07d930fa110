import ProfilingTargets.CommandLine.Refusal
import ProfilingTargets.CommandLine.LongFlags

/-!
# Parsing the command line

Arguments are read from left to right. The option for the profile takes the next
argument whatever it looks like, or what is attached to it after `=`. A value that is
the next argument is settled only when the next option is met or the arguments end
(`Pending`); settling fails if the option was given before or if the value is no text.

Everything else is refused at once: options that are none, arguments that are no
options, and requests for help or for the version.
-/

namespace ProfilingTargets.CommandLine

/-- The kinds of arguments. -/
inductive Shape where
  /-- Two dashes alone: only arguments that are no options follow. -/
  | terminator
  /-- Two dashes, a name, and a value after the first equals sign. -/
  | long (name : Bytes) (value : Option Bytes)
  /-- One dash and something after it. -/
  | short (rest : Bytes)
  /-- No option. -/
  | plain
  deriving DecidableEq, Repr

/-- The shape of a long option after its two dashes. -/
def Shape.ofLong (rest : Bytes) : Shape :=
  if rest.contains equals then
    let (name, value) := Split.splitFirst equals rest
    .long name (some value)
  else .long rest none

/-- The shape of an argument. -/
def Shape.of : Bytes → Shape
  | a :: b :: rest =>
    if a ≠ dash then .plain
    else if b ≠ dash then .short (b :: rest)
    else if rest.isEmpty then .terminator
    else .ofLong rest
  | _ => .plain

/-- The option for the profile, met but not settled. -/
inductive Pending where
  /-- It is not. -/
  | nothing
  /-- Its value is the next argument. -/
  | awaiting
  /-- Its value has been read. -/
  | value (v : Bytes)
  deriving DecidableEq, Repr

/-- What has been settled: whether a profile is asked for, and where. -/
structure Settled where
  /-- The option has been given. -/
  given : Bool := false
  /-- Its value. -/
  profile : List Char := []
  deriving DecidableEq, Repr

namespace Settled

/-- The options in use. -/
def used (s : Settled) : List Opt := if s.given then [.cpuprofile] else []

/-- The options in use with one more. -/
def usedWith (s : Settled) (o : Opt) : List Opt :=
  if s.used.contains o then s.used else s.used ++ [o]

/-- Settles a value: what is settled then, and what is wrong. An option that is given
again no longer counts as given. -/
def settleValue (s : Settled) (v : Bytes) : Settled × Option Refusal :=
  if s.given then ({ s with given := false }, some .repeated)
  else
    match Utf8.decode? v with
    | some profile => (⟨true, profile⟩, none)
    | none => ({ s with given := true }, some .notUtf8)

/-- Settles what is pending. -/
def settle (s : Settled) : Pending → Settled × Option Refusal
  | .nothing => (s, none)
  | .awaiting => (s, some .missingValue)
  | .value v => s.settleValue v

end Settled

/-- Fails with a mistake in what is pending, else goes on. -/
def settling {α : Type} (s : Settled) (pending : Pending)
    (next : Settled → Except Refusal α) : Except Refusal α :=
  match s.settle pending with
  | (_, some refusal) => .error refusal
  | (s, none) => next s

/-- The answer to an option that asks for one. -/
def Refusal.asked : Opt → Refusal
  | .version => .version
  | _ => .help

/-- A long option that is none: what is pending is settled, mistakes in it passed over. -/
def unknownLong (s : Settled) (pending : Pending) (name : List Char) : Refusal :=
  let s := (s.settle pending).1
  let meant := Opt.similar? name
  .unknownArgument ('-' :: '-' :: name) meant ((meant.map s.usedWith).getD s.used)

/-- A short option that is none, shown with its first character. -/
def unknownShort (rest : Bytes) : Refusal :=
  match Utf8.pieces rest with
  | some c :: _ => .unknownArgument ['-', c] none []
  | _ => .unknownArgument ('-' :: Utf8.decodeLossy rest) none []

/-- An argument that is no option. -/
def unknownPlain (arg : Bytes) : Refusal := .unknownArgument (Utf8.decodeLossy arg) none []

/-- What is asked for by a short option. -/
def ofShort (s : Settled) (pending : Pending) (rest : Bytes) : Refusal :=
  match (Utf8.pieces rest).head?.join.bind Opt.ofShort? with
  | none => unknownShort rest
  | some o =>
    match s.settle pending with
    | (_, some refusal) => refusal
    | (_, none) => .asked o

/-- What is asked for by an option without values; one that has a value all the same
is refused. -/
def ofFlag (s : Settled) (pending : Pending) (o : Opt) (value : Option Bytes) : Refusal :=
  match value with
  | some v => .unexpectedValue (Utf8.decodeLossy v) o s.given
  | none =>
    match s.settle pending with
    | (_, some refusal) => refusal
    | (_, none) => .asked o

/-- Reads arguments, `s` being settled and `pending` not yet. -/
def parseFrom (s : Settled) (pending : Pending) : List Bytes → Except Refusal Settled
  | [] => settling s pending .ok
  | arg :: args =>
    if pending = .awaiting then parseFrom s (.value arg) args
    else
      match Shape.of arg with
      | .terminator =>
        match args with
        | [] => settling s pending .ok
        | arg :: _ => .error (unknownPlain arg)
      | .plain => .error (unknownPlain arg)
      | .short rest => .error (ofShort s pending rest)
      | .long name value =>
        match (Utf8.decode? name).bind Opt.ofLong?, value with
        | none, _ => .error (unknownLong s pending (Utf8.decodeLossy name))
        | some .cpuprofile, none => settling s pending fun s => parseFrom s .awaiting args
        | some .cpuprofile, some v =>
          settling s pending fun s =>
            settling s (.value v) fun s => parseFrom s .nothing args
        | some o, value => .error (ofFlag s pending o value)

/-- The path that a command line gives for a profile, empty if it gives none. The first
argument is the program's name. -/
def parse (arguments : List Bytes) : Except Refusal (List Char) :=
  (parseFrom {} .nothing (LongFlags.normalize arguments).tail).map Settled.profile

end ProfilingTargets.CommandLine
