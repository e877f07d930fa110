import ProfilingTargets.Http.Message
import ProfilingTargets.Text.Numeral
import ProfilingTargets.Text.Split

/-!
# Requests on the wire

The bytes of a request: a line with the method, the target and the version, lines
with headers, an empty line, and the body. `compose` writes the request of a simple
client and `read?` reads what a server needs of any.

A target is a path with a query, or has the name of a server in front of them, or is
the server's name alone, or an asterisk. Nothing in it is decoded. The part after a
number sign is not for the server.
-/

namespace ProfilingTargets.Http.Wire

/-- The space. -/
def space : UInt8 := 0x20

/-- The end of a line. -/
def crlf : Bytes := [0x0D, 0x0A]

/-- The bytes of a text. -/
def ascii (s : String) : Bytes := Utf8.encode s.toList

/-- The request of a client that closes the connection afterwards. -/
def compose (method : String) (target body : List Char) : Bytes :=
  let content := Utf8.encode body
  ascii method ++ [space] ++ Utf8.encode target ++ ascii " HTTP/1.1" ++ crlf ++
    ascii "Host: localhost" ++ crlf ++ ascii "Connection: close" ++ crlf ++
    (if content.isEmpty then []
      else ascii "Content-Length: " ++ Utf8.encode (Numeral.write content.length) ++ crlf) ++
    crlf ++ content

/-- The versions that are understood. -/
def versions : List Bytes := [ascii "HTTP/1.0", ascii "HTTP/1.1"]

/-- The bytes of a token besides letters and digits. -/
def tokenMarks : List UInt8 :=
  [0x21, 0x23, 0x24, 0x25, 0x26, 0x27, 0x2A, 0x2B, 0x2D, 0x2E, 0x5E, 0x5F, 0x60, 0x7C, 0x7E]

/-- A byte of a method or of a header's name. -/
def isTokenByte (b : UInt8) : Bool :=
  (0x30 ≤ b && b ≤ 0x39) || (0x41 ≤ b && b ≤ 0x5A) || (0x61 ≤ b && b ≤ 0x7A) ||
    tokenMarks.contains b

/-- A method or a header's name. -/
def isToken (bs : Bytes) : Bool := !bs.isEmpty && bs.all isTokenByte

/-- A byte of a path. -/
def isPathByte (b : UInt8) : Bool :=
  0x20 < b && b != 0x23 && b != 0x3C && b != 0x3E && b != 0x3F && b != 0x60 && b != 0x7F

/-- A byte of a query. -/
def isQueryByte (b : UInt8) : Bool :=
  0x20 < b && b != 0x23 && b != 0x3C && b != 0x3E && b != 0x7F

/-- A byte of a header's value. -/
def isValueByte (b : UInt8) : Bool := (0x20 ≤ b && b != 0x7F) || b == 0x09

/-- A line without the carriage return at its end. -/
def dropReturn (line : Bytes) : Bytes :=
  if line.getLast? = some 0x0D then line.dropLast else line

/-- The lines of a request up to the empty one; empty lines in front are passed over. -/
def head? (bs : Bytes) : Option (List Bytes) :=
  let lines := ((Split.splitOn 0x0A bs).map dropReturn).dropWhile (·.isEmpty)
  let (head, rest) := lines.span (!·.isEmpty)
  if rest.length < 2 then none else some head

/-- Whether a line is a header: a name, a colon, a value. -/
def isHeader (line : Bytes) : Bool :=
  let (name, value) := Split.splitFirst 0x3A line
  line.contains 0x3A && isToken name && value.all isValueByte

/-- The path and the query that text after a server's name makes. -/
def pathAndQuery? (bs : Bytes) : Option (List Char × Option Bytes) :=
  let bs := bs.takeWhile (· ≠ 0x23)
  let (path, query) := Split.splitFirst 0x3F bs
  if path.all isPathByte && query.all isQueryByte && (Utf8.decode? query).isSome then
    (Utf8.decode? path).map fun cs =>
      (if cs.isEmpty then ['/'] else cs, if bs.contains 0x3F then some query else none)
  else none

/-- What stands between a scheme and a server's name. -/
def authorityMark : Bytes := ascii "://"

/-- What follows the first occurrence of `mark`. -/
def after? (mark : Bytes) : Bytes → Option Bytes
  | [] => none
  | b :: bs =>
    if mark.isPrefixOf (b :: bs) then some ((b :: bs).drop mark.length) else after? mark bs

/-- Where a server's name ends. -/
def endsAuthority (b : UInt8) : Bool := b == 0x2F || b == 0x3F || b == 0x23

/-- The path and the query of a target. -/
def target? (target : Bytes) : Option (List Char × Option Bytes) :=
  if target.isEmpty || target.any (fun b => b ≤ 0x20 || b == 0x7F) then none
  else if target.head? = some 0x2F then pathAndQuery? target
  else if target = [0x2A] then some (['*'], none)
  else
    match after? authorityMark target with
    | some rest => pathAndQuery? (rest.dropWhile (!endsAuthority ·))
    | none => if target.any endsAuthority then none else some ([], none)

/-- What a handler sees of a request, if the request can be read. -/
def read? (bs : Bytes) : Option Request :=
  match head? bs with
  | some (first :: headers) =>
    match Split.splitOn space first with
    | [method, target, version] =>
      if isToken method && versions.contains version && headers.all isHeader then
        (target? target).map fun (path, query) =>
          { method := String.ofList (Utf8.decodeLossy method), path := path, query := query }
      else none
    | _ => none
  | _ => none

end ProfilingTargets.Http.Wire
