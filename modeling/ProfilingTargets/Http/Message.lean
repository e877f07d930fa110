import ProfilingTargets.Text.Utf8

/-!
# HTTP messages

Requests as a server's handler sees them, and its responses: a status, a content
type, the methods allowed where one was refused, and a body.
-/

namespace ProfilingTargets.Http

/-- A request, without its headers and body, which no handler looks at. -/
structure Request where
  /-- The method, as it was sent. -/
  method : String
  /-- The path, as it was sent. -/
  path : List Char
  /-- What follows the first question mark. -/
  query : Option Bytes := none
  deriving DecidableEq, Repr

/-- The method that only looks. -/
def get : String := "GET"

/-- The method whose responses are sent without their bodies. -/
def head : String := "HEAD"

/-- What a response holds. -/
inductive Body where
  /-- A text. -/
  | text (cs : List Char)
  /-- Bytes. -/
  | data (bs : Bytes)
  deriving DecidableEq, Repr

/-- The bytes of a body. -/
def Body.bytes : Body → Bytes
  | .text cs => Utf8.encode cs
  | .data bs => bs

/-- A response. -/
structure Response where
  /-- The status. -/
  status : Nat
  /-- What kind of content the body is. -/
  contentType : Option String
  /-- The methods that are allowed. -/
  allow : Option String := none
  /-- The body. -/
  body : Body
  deriving DecidableEq, Repr

namespace Response

/-- The content type of texts. -/
def plainText : String := "text/plain; charset=utf-8"

/-- A response with a text. -/
def text (status : Nat) (cs : List Char) : Response :=
  { status := status, contentType := some plainText, body := .text cs }

/-- A response with a text that is known beforehand. -/
def fixed (status : Nat) (s : String) : Response := text status s.toList

/-- What is sent to a request that cannot be read. -/
def unreadable : Response := { status := 400, contentType := none, body := .text [] }

/-- What arrives of a response: the method decides whether its body is sent. -/
def sentTo (r : Response) (method : String) : Response :=
  if method = head then { r with body := .text [] } else r

end Response

end ProfilingTargets.Http
