/-!
# Texts

Classes of characters decide what the service accepts.  Control characters are refused in the
values of a report, because a log line must stay on one line.  Blanks are stripped from both
ends of a setting before it is read.  Both are properties of the Unicode standard and are given
here as code point ranges.

A text is cut into lines after each line feed.  A line does not hold its line feed, nor one
carriage return right before it, and nothing after the last line feed is no line.

A part of a text can be given by the numbers of the bytes at which it begins and ends.  It is no
text when one of these bytes is inside a character.

A decoder of UTF-8 reads bytes one at a time.  Between two bytes it either stands at the start of
a character or knows which range the next byte has to lie in; a byte outside that range ends the
sequence begun so far and is looked at again as the first byte of the next one.  So every maximal
piece of a broken sequence is reported once, and no byte that could begin a character is lost.
The narrowed ranges after the first bytes `E0`, `ED`, `F0` and `F4` shut out overlong forms,
surrogates and code points beyond `U+10FFFF`.
-/

namespace ShipTelemetry.Text

/-! ## Control characters -/

/-- A control character: `U+0000`–`U+001F` or `U+007F`–`U+009F`. -/
def isControl (c : Char) : Bool :=
  c.toNat < 0x20 || (0x7f ≤ c.toNat && c.toNat < 0xa0)

/-! ## Blanks -/

/-- The code point ranges of the property `White_Space`, in ascending order. -/
def blankRanges : List (Nat × Nat) :=
  [(0x09, 0x0d), (0x20, 0x20), (0x85, 0x85), (0xa0, 0xa0), (0x1680, 0x1680), (0x2000, 0x200a),
   (0x2028, 0x2029), (0x202f, 0x202f), (0x205f, 0x205f), (0x3000, 0x3000)]

/-- A blank has the property `White_Space`. -/
def isBlank (c : Char) : Bool :=
  blankRanges.any fun range => range.1 ≤ c.toNat && c.toNat ≤ range.2

/-- A text without the blanks at its end. -/
def trimEnd (cs : List Char) : List Char :=
  (cs.reverse.dropWhile isBlank).reverse

/-- A text without the blanks at its two ends. -/
def trim (cs : List Char) : List Char :=
  trimEnd (cs.dropWhile isBlank)

/-! ## Hexadecimal digits -/

/-- The value of the hexadecimal digit with this code, in either case. -/
def hexValue? (code : Nat) : Option Nat :=
  if 0x30 ≤ code ∧ code ≤ 0x39 then some (code - 0x30)
  else if 0x41 ≤ code ∧ code ≤ 0x46 then some (code - 0x37)
  else if 0x61 ≤ code ∧ code ≤ 0x66 then some (code - 0x57)
  else none

/-- A number below 256 as two lower-case hexadecimal digits. -/
def hexPair (n : Nat) : List Char :=
  [Nat.digitChar (n / 16), Nat.digitChar (n % 16)]

/-! ## Lines -/

/-- A line without one carriage return at its end. -/
def dropReturn (line : List Char) : List Char :=
  if line.getLast? = some '\r' then line.dropLast else line

/-- Lines of a text, given the reading of `taken`, the part of the current line passed
already, in reverse. -/
def linesAfter (taken : List Char) : List Char → List (List Char)
  | [] => if taken = [] then [] else [taken.reverse]
  | c :: rest =>
      if c = '\n' then dropReturn taken.reverse :: linesAfter [] rest
      else linesAfter (c :: taken) rest

/-- The lines of a text. -/
def lines (text : String) : List String :=
  (linesAfter [] text.toList).map String.ofList

example : lines "a\r\n\nb" = ["a", "", "b"] := rfl

/-! ## Parts by bytes -/

/-- The number of bytes that a text takes. -/
def size (cs : List Char) : Nat := cs.foldr (fun c bytes => c.utf8Size + bytes) 0

/-- A text from a byte on. -/
def dropBytes? : Nat → List Char → Option (List Char)
  | 0, cs => some cs
  | _ + 1, [] => none
  | n + 1, c :: rest => if c.utf8Size ≤ n + 1 then dropBytes? (n + 1 - c.utf8Size) rest else none

/-- The first bytes of a text. -/
def takeBytes? : Nat → List Char → Option (List Char)
  | 0, _ => some []
  | _ + 1, [] => none
  | n + 1, c :: rest =>
      if c.utf8Size ≤ n + 1 then (takeBytes? (n + 1 - c.utf8Size) rest).map (c :: ·) else none

/-- The part of a text that begins at a byte and has this many bytes. -/
def part? (cs : List Char) (start bytes : Nat) : Option (List Char) :=
  (dropBytes? start cs).bind (takeBytes? bytes)

example : part? ['\u3000', 'a'] 3 1 = some ['a'] := rfl

example : part? ['\u3000', 'a'] 0 1 = none := rfl

/-! ## UTF-8 -/

namespace Utf8

/-- A character begun but not finished: the bits gathered, how many bytes follow the next
one, and the range in which the next byte must lie. -/
structure Begun where
  bits : Nat
  after : Nat
  low : Nat
  high : Nat
deriving DecidableEq, Repr

/-- What a byte says at the start of a character. -/
inductive Lead
  | complete (c : Char)
  | opens (begun : Begun)
  | broken
deriving DecidableEq, Repr

/-- Classifies the first byte of a character. -/
def lead (byte : UInt8) : Lead :=
  let b := byte.toNat
  if b < 0x80 then .complete (Char.ofNat b)
  else if b < 0xc2 then .broken
  else if b < 0xe0 then .opens ⟨b - 0xc0, 0, 0x80, 0xbf⟩
  else if b = 0xe0 then .opens ⟨0, 1, 0xa0, 0xbf⟩
  else if b = 0xed then .opens ⟨0xd, 1, 0x80, 0x9f⟩
  else if b < 0xf0 then .opens ⟨b - 0xe0, 1, 0x80, 0xbf⟩
  else if b = 0xf0 then .opens ⟨0, 2, 0x90, 0xbf⟩
  else if b = 0xf4 then .opens ⟨4, 2, 0x80, 0x8f⟩
  else if b < 0xf4 then .opens ⟨b - 0xf0, 2, 0x80, 0xbf⟩
  else .broken

/-- The characters of a byte sequence, with `none` for each maximal broken piece. -/
def scan : Option Begun → List UInt8 → List (Option Char)
  | none, [] => []
  | some _, [] => [none]
  | none, byte :: rest =>
      match lead byte with
      | .complete c => some c :: scan none rest
      | .opens begun => scan (some begun) rest
      | .broken => none :: scan none rest
  | some begun, byte :: rest =>
      if begun.low ≤ byte.toNat ∧ byte.toNat ≤ begun.high then
        let bits := begun.bits * 0x40 + (byte.toNat - 0x80)
        match begun.after with
        | 0 => some (Char.ofNat bits) :: scan none rest
        | after + 1 => scan (some ⟨bits, after, 0x80, 0xbf⟩) rest
      else
        match lead byte with
        | .complete c => none :: some c :: scan none rest
        | .opens next => none :: scan (some next) rest
        | .broken => none :: none :: scan none rest

/-- The character that stands for a broken piece. -/
def replacement : Char := '\ufffd'

/-- Decodes any byte sequence; each broken piece becomes `U+FFFD`. -/
def decodeLossy (bytes : List UInt8) : List Char :=
  (scan none bytes).map (·.getD replacement)

/-- Decodes a byte sequence that is UTF-8 throughout, and no other. -/
def decode? (bytes : List UInt8) : Option (List Char) :=
  let found := scan none bytes
  if found.all Option.isSome then some (found.filterMap id) else none

/-- The bytes of a text. -/
def encode (cs : List Char) : List UInt8 :=
  cs.flatMap String.utf8EncodeChar

example : decodeLossy [0xe2, 0x82, 0x41] = ['\ufffd', 'A'] := rfl

end Utf8

end ShipTelemetry.Text
