import ShipTelemetry.Text.Basic

/-!
# Answer envelopes

Every answer with a body carries one of two envelopes: a greeting, or an error.  Which one
it is shows in the name of the only member of a JSON object.  So of JSON only a string literal
and an object of one string member are written, and no general value type is built.
-/

namespace ShipTelemetry

/-! ## JSON text -/

namespace Json

/-- A character inside a string literal.  The quote, the backslash and the characters below
`U+0020` are escaped, five of those by a letter; all else stands for itself. -/
def escapeChar (c : Char) : List Char :=
  match c with
  | '"' => ['\\', '"']
  | '\\' => ['\\', '\\']
  | '\x08' => ['\\', 'b']
  | '\x0c' => ['\\', 'f']
  | '\n' => ['\\', 'n']
  | '\r' => ['\\', 'r']
  | '\t' => ['\\', 't']
  | c => if c.toNat < 0x20 then '\\' :: 'u' :: '0' :: '0' :: Text.hexPair c.toNat else [c]

/-- The string literal for a text. -/
def literal (text : List Char) : List Char :=
  '"' :: (text.flatMap escapeChar ++ ['"'])

/-- The object whose only member has this name and this string as its value. -/
def singleton (name value : String) : String :=
  String.ofList ('\x7b' :: (literal name.toList ++ ':' :: (literal value.toList ++ ['\x7d'])))

end Json

/-! ## Envelopes -/

/-- The content of an answer. -/
inductive Envelope
  | greeting (text : String)
  | error (text : String)
deriving DecidableEq, Repr

namespace Envelope

/-- The greeting of a ship. -/
def ack (name : String) : Envelope := .greeting ("Hello, " ++ name ++ "!")

/-- The body that carries an envelope. -/
def body : Envelope → String
  | .greeting text => Json.singleton "greeting" text
  | .error text => Json.singleton "error" text

end Envelope

end ShipTelemetry
