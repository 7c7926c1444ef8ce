import ShipTelemetry.Text.Basic

/-!
# Request targets and queries

What a client asks for is written as a URI in one of three forms: a path with an optional
query, an absolute URI whose scheme and authority stand before the path, or an authority
alone.  Paths and queries are kept as received, without decoding; a fragment is not part of
a target.

A text that starts with a slash is a path and a query.  Any other text may begin with a
scheme and `://`; then an authority follows, up to the first slash, question mark or number
sign, and after it a path and a query.  Without a scheme the authority must be the whole
text.  The asterisk is a path of its own.  Characters are looked at from left to right, and the
first one that does not fit decides the error.  What is wrong with an authority as a whole (its
brackets, its colons, a lone user part, an escape in the host) is looked at after its last
character.

A query is a list of pairs, separated by ampersands; empty pieces are skipped.  A pair is
cut at its first equals sign, and without one its value is empty.  In a key and in a value a
plus stands for a space, and a percent sign with two hexadecimal digits for a byte; an
incomplete escape stands for itself.  The bytes are then decoded as UTF-8, broken pieces
becoming `U+FFFD`.  So every query decodes.
-/

namespace ShipTelemetry

/-! ## Targets and URIs -/

/-- A path and what stands after its question mark, as received. -/
structure Target where
  path : String
  query : Option String
deriving DecidableEq, Repr

namespace Target

/-- The question mark and the query, or nothing. -/
def querySuffix (t : Target) : String :=
  match t.query with
  | none => ""
  | some query => "?" ++ query

/-- The path, which is a slash where none is written. -/
def rooted (t : Target) : String := if t.path = "" then "/" else t.path

/-- The text of a target.  An empty one is a slash. -/
def text (t : Target) : String :=
  if t.path ++ t.querySuffix = "" then "/" else t.path ++ t.querySuffix

end Target

/-- A URI in one of the forms that a request may use. -/
inductive Uri
  | authority (host : String)
  | path (target : Target)
  | absolute (scheme host : String) (target : Target)
deriving DecidableEq, Repr

namespace Uri

/-- The path that routes are matched against. -/
def route : Uri → String
  | authority _ => ""
  | path target => target.rooted
  | absolute _ _ target => target.rooted

/-- The query, empty when there is none. -/
def query : Uri → String
  | authority _ => ""
  | path target => target.query.getD ""
  | absolute _ _ target => target.query.getD ""

/-- The path and query as received, which is what the access log shows. -/
def received : Uri → String
  | authority _ => ""
  | path target => target.text
  | absolute _ _ target => target.text

/-- The whole URI, with a slash where an absolute URI has no path. -/
def display : Uri → String
  | authority host => host
  | path target => target.rooted ++ target.querySuffix
  | absolute scheme host target =>
      scheme ++ "://" ++ host ++ target.rooted ++ target.querySuffix

end Uri

/-! ## Errors -/

/-- Why a text is no request target. -/
inductive UriError
  | tooLong
  | empty
  | invalidCharacter
  | invalidAuthority
  | invalidFormat
  | schemeTooLong
deriving DecidableEq, Repr

/-- The wording of an error. -/
def UriError.message : UriError → String
  | .tooLong => "uri too long"
  | .empty => "empty string"
  | .invalidCharacter => "invalid uri character"
  | .invalidAuthority => "invalid authority"
  | .invalidFormat => "invalid format"
  | .schemeTooLong => "scheme too long"

/-! ## Paths and queries -/

/-- Code points allowed in a query; all beyond ASCII are, and `U+007F` is not. -/
def isQueryCode (n : Nat) : Bool :=
  n = 0x21 || (0x24 ≤ n && n ≤ 0x3b) || n = 0x3d || (0x3f ≤ n && n ≤ 0x7e) || 0x80 ≤ n

/-- Code points allowed in a path; all beyond ASCII are, and `U+007F` is not. -/
def isPathCode (n : Nat) : Bool :=
  n = 0x21 || n = 0x22 || (0x24 ≤ n && n ≤ 0x3b) || n = 0x3d || (0x40 ≤ n && n ≤ 0x5f) ||
    (0x61 ≤ n && n ≤ 0x7e) || 0x80 ≤ n

namespace Target

/-- Reads the query after a path, without the fragment, which may hold anything. -/
def readQuery? : List Char → Except UriError (Option String)
  | '?' :: rest =>
      let query := rest.takeWhile (· ≠ '#')
      if query.all fun c => isQueryCode c.toNat then .ok (some (String.ofList query))
      else .error .invalidCharacter
  | _ => .ok none

/-- Reads a path, a query and a fragment. -/
def read? (cs : List Char) : Except UriError Target :=
  let inPath (c : Char) : Bool := c ≠ '?' && c ≠ '#'
  let path := cs.takeWhile inPath
  if path.all fun c => isPathCode c.toNat then
    match readQuery? (cs.dropWhile inPath) with
    | .error e => .error e
    | .ok query => .ok { path := String.ofList path, query }
  else .error .invalidCharacter

end Target

/-! ## Authorities -/

namespace Authority

/-- Characters allowed in an authority, the percent sign aside. -/
def isPlain (c : Char) : Bool :=
  c.isAlphanum || c ∈ ['!', '$', '&', '\x27', '(', ')', '*', '+', ',', '-', '.', ':', ';', '=', '@',
    '[', ']', '_', '~']

/-- What the characters of an authority read so far have shown. -/
structure Seen where
  colons : Nat := 0
  opened : Bool := false
  closed : Bool := false
  percent : Bool := false
deriving DecidableEq, Repr

/-- The most colons that an authority may hold before a bracket or an at sign forgets them.
-/
def maxColons : Nat := 8

/-- Takes in one more character.  An at sign ends a user part and a closing bracket an
address; colons and percent signs before them are forgotten. -/
def step (seen : Seen) (c : Char) : Except UriError Seen :=
  if c = ':' then
    if maxColons ≤ seen.colons then .error .invalidAuthority
    else .ok { seen with colons := seen.colons + 1 }
  else if c = '[' then
    if seen.percent || seen.opened then .error .invalidAuthority
    else .ok { seen with opened := true }
  else if c = ']' then
    if !seen.opened || seen.closed then .error .invalidAuthority
    else .ok { seen with closed := true, colons := 0, percent := false }
  else if c = '@' then .ok { seen with colons := 0, percent := false }
  else if c = '%' then .ok { seen with percent := true }
  else if isPlain c then .ok seen
  else .error .invalidCharacter

/-- Takes in characters from left to right. -/
def scan : Seen → List Char → Except UriError Seen
  | seen, [] => .ok seen
  | seen, c :: rest =>
      match step seen c with
      | .error e => .error e
      | .ok next => scan next rest

/-- What must hold of an authority as a whole. -/
def isClosed (seen : Seen) (host : List Char) : Bool :=
  seen.opened == seen.closed && seen.colons ≤ 1 && host.getLast? ≠ some '@' && !seen.percent

/-- A character before the end of an authority. -/
def isInside (c : Char) : Bool := c ≠ '/' && c ≠ '?' && c ≠ '#'

/-- Reads an authority and leaves what stands after it. -/
def read? (cs : List Char) : Except UriError (List Char × List Char) :=
  let host := cs.takeWhile isInside
  match scan {} host with
  | .error e => .error e
  | .ok seen =>
      if isClosed seen host then .ok (host, cs.dropWhile isInside) else .error .invalidAuthority

end Authority

/-! ## Schemes -/

namespace Scheme

/-- Characters of a scheme. -/
def isCharacter (c : Char) : Bool := c.isAlphanum || c ∈ ['+', '-', '.', '~']

/-- The longest scheme read. -/
def maxLength : Nat := 64

/-- The rest of a text that begins with this scheme and `://`, in any case of letters. -/
def cut? (scheme : String) (cs : List Char) : Option (List Char) :=
  let opening := scheme.toList ++ [':', '/', '/']
  if (cs.take opening.length).map Char.toLower = opening then some (cs.drop opening.length)
  else none

/-- Splits off a scheme and the `://` after it.  The two well-known schemes are written in
lower case, any other one as it stands. -/
def split? (cs : List Char) : Except UriError (Option (String × List Char)) :=
  match cut? "http" cs, cut? "https" cs with
  | some rest, _ => .ok (some ("http", rest))
  | none, some rest => .ok (some ("https", rest))
  | none, none =>
      let name := cs.takeWhile isCharacter
      match cs.dropWhile isCharacter with
      | ':' :: '/' :: '/' :: rest =>
          if cs.length ≤ 3 then .ok none
          else if maxLength < name.length then .error .schemeTooLong
          else .ok (some (String.ofList name, rest))
      | _ => .ok none

end Scheme

/-! ## Whole texts -/

namespace Uri

/-- The most bytes that a URI may have. -/
def maxBytes : Nat := 65534

/-- Reads a text that does not start with a slash. -/
def readFull? (cs : List Char) : Except UriError Uri :=
  match Scheme.split? cs with
  | .error e => .error e
  | .ok none =>
      match Authority.read? cs with
      | .error e => .error e
      | .ok (host, rest) =>
          if rest = [] then .ok (.authority (String.ofList host))
          else if cs.length = 1 then .error .invalidCharacter
          else .error .invalidFormat
  | .ok (some (scheme, after)) =>
      if after = [] then .error .empty
      else
        match Authority.read? after with
        | .error e => .error e
        | .ok (host, rest) =>
            if host = [] then .error .invalidFormat
            else
              match Target.read? rest with
              | .error e => .error e
              | .ok target => .ok (.absolute scheme (String.ofList host) target)

/-- Reads a request target. -/
def read? (text : String) : Except UriError Uri :=
  if maxBytes < text.utf8ByteSize then .error .tooLong
  else
    match text.toList with
    | [] => .error .empty
    | ['*'] => .ok (.path { path := "*", query := none })
    | '/' :: rest =>
        match Target.read? ('/' :: rest) with
        | .error e => .error e
        | .ok target => .ok (.path target)
    | cs => readFull? cs

end Uri

/-! ## Queries -/

namespace Query

/-- The byte that a percent sign and these two characters stand for. -/
def escaped? (high low : Char) : Option UInt8 :=
  match Text.hexValue? high.toNat, Text.hexValue? low.toNat with
  | some h, some l => some (UInt8.ofNat (16 * h + l))
  | _, _ => none

/-- The bytes that a key or a value stands for. -/
def unescape : List Char → List UInt8
  | [] => []
  | '%' :: high :: low :: rest =>
      match escaped? high low with
      | some byte => byte :: unescape rest
      | none => 0x25 :: unescape (high :: low :: rest)
  | c :: rest =>
      if c = '+' then 0x20 :: unescape rest else String.utf8EncodeChar c ++ unescape rest

/-- The text that a key or a value stands for. -/
def decode (cs : List Char) : String :=
  String.ofList (Text.Utf8.decodeLossy (unescape cs))

/-- The key and the value of one piece. -/
def pair (piece : List Char) : String × String :=
  (decode (piece.takeWhile (· ≠ '=')), decode ((piece.dropWhile (· ≠ '=')).drop 1))

/-- The pieces of a query. -/
def pieces (query : List Char) : List (List Char) :=
  (query.splitOn '&').filter (· ≠ [])

/-- The pairs of a query, in order. -/
def pairs (query : String) : List (String × String) :=
  (pieces query.toList).map pair

example : pairs "name=%41+b&&x" = [("name", "A b"), ("x", "")] := by decide +kernel

end Query

end ShipTelemetry
