import ShipTelemetry.Log.Event
import ShipTelemetry.Uri

/-!
# Requests and answers

The parts of an HTTP request that the service looks at, and the status code, the headers and the
body of its answer.
-/

namespace ShipTelemetry.Http

/-! ## Methods -/

/-- A character of a method name. -/
def isMethodCharacter (c : Char) : Bool :=
  c.isAlphanum ||
    c ∈ ['!', '#', '$', '%', '&', '\x27', '*', '+', '-', '.', '^', '_', '\x60', '|', '~']

/-- A method: one or more characters, case-sensitive. -/
structure Method where
  name : String
  valid : name ≠ "" ∧ name.toList.all isMethodCharacter = true
deriving DecidableEq, Repr

namespace Method

/-- The method with this name. -/
def ofName? (name : String) : Option Method :=
  if h : name ≠ "" ∧ name.toList.all isMethodCharacter = true then some ⟨name, h⟩ else none

/-- The method that asks for a representation. -/
def get : Method := ⟨"GET", by decide⟩

/-- The method that asks for the header of a representation. -/
def head : Method := ⟨"HEAD", by decide⟩

end Method

/-! ## Versions -/

/-- The protocol versions that are spoken. -/
inductive Version
  | http10
  | http11
deriving DecidableEq, Repr

/-- The written form of a version. -/
def Version.display : Version → String
  | .http10 => "HTTP/1.0"
  | .http11 => "HTTP/1.1"

/-! ## Requests -/

/-- A request.  No answer depends on its body, which is left out. -/
structure Request where
  method : Method
  uri : Uri
  version : Version := .http11
deriving DecidableEq, Repr

/-! ## Status codes -/

/-- A status code: three digits, the first of them not zero. -/
structure Status where
  code : Nat
  valid : 100 ≤ code ∧ code ≤ 999
deriving DecidableEq, Repr

namespace Status

/-- The status with this code. -/
def ofCode? (code : Nat) : Option Status :=
  if h : 100 ≤ code ∧ code ≤ 999 then some ⟨code, h⟩ else none

/-- The request succeeded. -/
def ok : Status := ⟨200, by decide⟩

/-- The request cannot be understood. -/
def badRequest : Status := ⟨400, by decide⟩

/-- There is nothing at this path for this method. -/
def notFound : Status := ⟨404, by decide⟩

/-- The path is known, but not for this method. -/
def methodNotAllowed : Status := ⟨405, by decide⟩

/-- The service failed. -/
def internalServerError : Status := ⟨500, by decide⟩

/-- Codes from 500 to 599 say that the service failed. -/
def isServerError (s : Status) : Bool := s.code / 100 = 5

/-- The registered phrase for a code. -/
def reason? (s : Status) : Option String :=
  match s.code with
  | 200 => some "OK"
  | 204 => some "No Content"
  | 400 => some "Bad Request"
  | 404 => some "Not Found"
  | 405 => some "Method Not Allowed"
  | 414 => some "URI Too Long"
  | 500 => some "Internal Server Error"
  | 501 => some "Not Implemented"
  | 502 => some "Bad Gateway"
  | 503 => some "Service Unavailable"
  | 504 => some "Gateway Timeout"
  | 505 => some "HTTP Version Not Supported"
  | 506 => some "Variant Also Negotiates"
  | 507 => some "Insufficient Storage"
  | 508 => some "Loop Detected"
  | 510 => some "Not Extended"
  | 511 => some "Network Authentication Required"
  | _ => none

/-- The code and its phrase. -/
def display (s : Status) : String :=
  Decimal.text s.code ++ " " ++ s.reason?.getD "<unknown status code>"

end Status

/-! ## Answers -/

/-- An answer.  The events in `closing` are logged when its body has been read to the end.
-/
structure Response where
  status : Status
  headers : List (String × String)
  body : String
  closing : List Log.Event := []
deriving DecidableEq, Repr

end ShipTelemetry.Http
