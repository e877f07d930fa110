import ProfilingTargets.Log.Event
import ProfilingTargets.Pattern.Reader
import ProfilingTargets.Text.Split

/-!
# Log directives

One wish about what is logged. A directive is a level alone, or a target, a scope in
brackets, or both, and then `=` and a level. A level is a name in any case, `off`, or a
number from 0 to 5; where there is none everything is asked for.

A scope names a span, or a field between braces, or both. A field may have to have a
value, which follows `=`: a number, or a pattern.

## The model

A directive is recognised in its text without the blanks at the two ends (`trim`), but
the positions found there are counted from the beginning of the whole text, and it is
the whole text that is cut at them. A directive with blanks in front is therefore not
the same as without.
-/

namespace ProfilingTargets.Log

/-- How verbose events may be: at most this `Level.verbosity`. -/
abbrev Ceiling := Nat

/-- The ceiling that lets everything through. -/
def Ceiling.everything : Ceiling := Level.trace.verbosity

/-- A level as it stands in a directive: a number or a name. -/
def ceiling? (cs : List Char) : Option Ceiling :=
  match Numeral.read? (Ceiling.everything + 1) cs with
  | some n => some n
  | none =>
    let word := String.ofList (cs.map Char.toLower)
    if word = "off" then some 0
    else (Level.all.find? (·.word = word)).map Level.verbosity

/-- Why a directive cannot be read. -/
inductive DirectiveError where
  /-- It has not the form of a directive. -/
  | malformed
  /-- What follows `=` is no level. -/
  | noLevel
  /-- No matcher can be made of the value of a field. -/
  | badValue (fault : Pattern.Fault)
  deriving DecidableEq, Repr

/-- The text of the error. -/
def DirectiveError.message : DirectiveError → String
  | .malformed => "invalid filter directive"
  | .noLevel =>
    "error parsing level filter: expected one of \"off\", " ++
      String.join (Level.all.map fun level => "\"" ++ level.word ++ "\", ") ++ "or a number 0-5"
  | .badValue fault => "invalid field filter: " ++ fault.message

/-- The line that tells of a directive which is passed over. -/
def DirectiveError.notice (directive : List Char) (e : DirectiveError) : String :=
  "ignoring `" ++ String.ofList directive ++ "`: " ++ e.message

/-- A field that a directive is about. -/
structure FieldCondition where
  /-- The name of the field. -/
  name : List Char
  /-- The value that it has to have. -/
  value : Option (List Char)
  deriving DecidableEq, Repr

/-- Reads a field and its value: what follows the first `=`, up to another one. -/
def FieldCondition.read (cs : List Char) : Except DirectiveError FieldCondition :=
  match Split.splitOn '=' cs with
  | name :: value :: _ =>
    match Numeral.isReal value, Pattern.fault? value with
    | false, some fault => .error (.badValue fault)
    | _, _ => .ok ⟨name, some value⟩
  | _ => .ok ⟨cs, none⟩

/-- What a directive asks for. -/
structure Directive where
  /-- The beginning of the targets that it is about, if not of all. -/
  target : Option (List Char) := none
  /-- The span that it is about. -/
  span : Option (List Char) := none
  /-- The field that it is about. -/
  field : Option FieldCondition := none
  /-- What it lets through. -/
  ceiling : Ceiling := .everything
  deriving DecidableEq, Repr

namespace Directive

/-- Whether a directive may begin with `c`, if not with a scope: a letter or digit of any
script, or one of the characters of a path. -/
def mayBegin (c : Char) : Bool :=
  c == '-' || c == ':' || c == '_' || Alphanumeric.isAlphanumeric c

/-- What stands in a text between two positions. -/
def cut (whole : List Char) (start stop : Nat) : List Char := (whole.take stop).drop start

/-- Reads the level that stands in `whole` from a position on. -/
def readLevel (whole : List Char) (start : Nat) : Except DirectiveError Ceiling :=
  match whole.drop start with
  | [] => .ok .everything
  | level =>
    match ceiling? level with
    | some ceiling => .ok ceiling
    | none => .error .noLevel

/-- Reads what follows a scope, `rest` from position `i` on. -/
def readEnd (whole : List Char) (i : Nat) : List Char → Except DirectiveError Ceiling
  | [] => .ok .everything
  | '=' :: _ => readLevel whole (i + 1)
  | _ => .error .malformed

/-- Reads a scope and what follows it, `rest` from position `i` on, just after the opening
bracket. -/
def readScope (whole : List Char) (target : Option (List Char)) (i : Nat) (rest : List Char) :
    Except DirectiveError Directive :=
  let span := rest.takeWhile fun c => c != ']' && c != '\x7b'
  let j := i + span.length
  match rest.drop span.length with
  | ']' :: rest => do
    let ceiling ← readEnd whole (j + 1) rest
    return { target := target, span := some (cut whole i j), ceiling := ceiling }
  | '\x7b' :: rest =>
    let field := rest.takeWhile (· != '\x7d')
    let k := j + 1 + field.length
    match field, rest.drop field.length with
    | _ :: _, _ :: rest => do
      let field ← FieldCondition.read (cut whole (j + 1) k)
      match rest with
      | ']' :: rest =>
        let ceiling ← readEnd whole (k + 2) rest
        return {
          target := target
          span := if span.isEmpty then none else some (cut whole i j)
          field := some field
          ceiling := ceiling }
      | _ => .error .malformed
    | _, _ => .error .malformed
  | _ => .error .malformed

/-- Reads a level or a target, neither of which is followed by anything. -/
def ofWord (word : List Char) : Directive :=
  match ceiling? word with
  | some ceiling => { ceiling := ceiling }
  | none => { target := some word }

/-- Reads a directive. -/
def read (whole : List Char) : Except DirectiveError Directive :=
  match Blank.trim whole with
  | [] => .error .malformed
  | '[' :: rest => readScope whole none 1 rest
  | c :: cs =>
    if mayBegin c then
      let word := (c :: cs).takeWhile fun c => c != '=' && c != '['
      let target := whole.take word.length
      match (c :: cs).drop word.length with
      | '[' :: rest => readScope whole (some target) (word.length + 1) rest
      | '=' :: _ => do
        let ceiling ← readLevel whole (word.length + 1)
        return { target := some target, ceiling := ceiling }
      | _ => .ok (ofWord whole)
    else .error .malformed

/-- Whether a directive is about what happens inside spans, and so measures no event that
happens outside of them. -/
def isAboutSpans (d : Directive) : Bool :=
  d.span.isSome || d.field.any (·.value.isSome)

/-- Whether a directive measures the events of a target that have these fields. -/
def measures (target : List Char) (fields : List String) (d : Directive) : Bool :=
  !d.isAboutSpans && d.target.all (·.isPrefixOf target) &&
    d.field.all fun f => fields.contains (String.ofList f.name)

/-- How specific a directive is, as a list in lexicographic order: the length of the target
comes first, and none is less than any; of equal ones the name of the field decides. -/
def specificity (d : Directive) : List Nat :=
  (d.target.map fun target => target.length + 1).getD 0 ::
    (d.field.map fun f => f.name.map Char.toNat).getD []

end Directive

end ProfilingTargets.Log
