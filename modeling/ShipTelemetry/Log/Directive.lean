import ShipTelemetry.Decimal
import ShipTelemetry.Log.Event
import ShipTelemetry.Pattern.Grammar
import ShipTelemetry.Text.Basic

/-!
# Directives of a log filter

A directive says how much detail is written of what.  It is written as a level, as a target,
or as a target and a level with an equals sign between them; a span and a field may follow
the target:

    target[span{field=value}]=level

Everything but the field may be left out.  The level is a word or a number up to 5, and all
detail is written where there is none.  A value is a number, a truth value or a pattern.

Blanks around a directive do not count for its form.  The parts are cut out of the text with
its blanks, though, at the bytes where they would stand without them.  So a blank in front
moves every part by its own bytes, and a part may then begin or end inside a character.
Such a directive cannot be read, and the reading breaks off.
-/

namespace ShipTelemetry.Log

/-! ## Directives -/

/-- What the value of a field is held against.  A number or a truth value is never equal to
a value that is a text. -/
inductive ValueTest
  | literal
  | pattern (p : Pattern)
deriving DecidableEq, Repr

/-- A field that has to be there, and what its value is held against. -/
structure FieldTest where
  name : String
  value : Option ValueTest
deriving DecidableEq, Repr

/-- What a directive speaks about, and the detail that is let through for it. -/
structure Directive where
  target : Option String := none
  span : Option String := none
  field : Option FieldTest := none
  detail : Nat := Level.trace.detail
deriving DecidableEq, Repr

/-- Why a directive cannot be read: it is not of the form, or one of its parts begins or
ends inside a character. -/
inductive DirectiveFault
  | malformed
  | insideCharacter
deriving DecidableEq, Repr

/-! ## Reading -/

namespace Directive

/-- The detail named by a word, in any case of letters, or by a number up to 5. -/
def detail? (cs : List Char) : Option Nat :=
  match String.ofList (cs.map Char.toLower) with
  | "off" => some 0
  | "error" => some 1
  | "warn" => some 2
  | "info" => some 3
  | "debug" => some 4
  | "trace" => some 5
  | _ => (Decimal.readNumeral 5 cs).toOption

/-- A character with which a target may begin. -/
def opensTarget (c : Char) : Bool := Text.isLetterOrNumber c || c ∈ ['-', ':', '_']

/-- A word for a number that is not finite, after its sign. -/
def isEndless (cs : List Char) : Bool :=
  ["inf", "infinity", "nan"].contains (String.ofList (cs.map Char.toLower))

/-- A truth value or a number. -/
def isLiteral (cs : List Char) : Bool :=
  ["true", "false"].contains (String.ofList cs) || (Decimal.Literal.read? cs).isSome ||
    isEndless (Decimal.splitSign cs).2

/-- Reads what a value is held against. -/
def readValue? (cs : List Char) : Option ValueTest :=
  if isLiteral cs then some .literal else (Pattern.read? cs).map .pattern

/-- Reads a field and its value.  What follows a second equals sign does not count. -/
def readField? (cs : List Char) : Option FieldTest :=
  match cs.splitOn '=' with
  | [] => none
  | [name] => if name = [] then none else some { name := String.ofList name, value := none }
  | name :: value :: _ =>
      (readValue? value).map fun test => { name := String.ofList name, value := some test }

/-- A part of the text, by its bytes. -/
def cut (text : List Char) (start bytes : Nat) : Except DirectiveFault (List Char) :=
  match Text.part? text start bytes with
  | none => .error .insideCharacter
  | some part => .ok part

/-- The text from a byte on. -/
def cutFrom (text : List Char) (start : Nat) : Except DirectiveFault (List Char) :=
  match Text.dropBytes? start text with
  | none => .error .insideCharacter
  | some part => .ok part

/-- Reads the level, which takes up the text from a byte on. -/
def readLevel (text : List Char) (d : Directive) (start : Nat) :
    Except DirectiveFault Directive :=
  match cutFrom text start with
  | .error e => .error e
  | .ok [] => .ok d
  | .ok level =>
      match detail? level with
      | none => .error .malformed
      | some detail => .ok { d with detail }

/-- Reads what follows a closing bracket: nothing, or an equals sign and the level. -/
def readAfter (text : List Char) (d : Directive) (start : Nat) :
    List Char → Except DirectiveFault Directive
  | [] => .ok d
  | '=' :: _ => readLevel text d (start + 1)
  | _ :: _ => .error .malformed

/-- Reads a field in braces, the bracket after it, and what follows. -/
def readBraces (text : List Char) (d : Directive) (start : Nat) (cs : List Char) :
    Except DirectiveFault Directive :=
  let field := cs.takeWhile (· ≠ '}')
  match cs.drop field.length with
  | [] => .error .malformed
  | _ :: rest =>
      match cut text start (Text.size field) with
      | .error e => .error e
      | .ok part =>
          match readField? part, rest with
          | some test, ']' :: after =>
              readAfter text { d with field := some test } (start + Text.size field + 2) after
          | _, _ => .error .malformed

/-- Reads a span in brackets, perhaps with a field, and what follows. -/
def readBrackets (text : List Char) (d : Directive) (start : Nat) (cs : List Char) :
    Except DirectiveFault Directive :=
  let span := cs.takeWhile fun c => c ≠ ']' && c ≠ '{'
  match cs.drop span.length with
  | [] => .error .malformed
  | c :: rest =>
      match cut text start (Text.size span) with
      | .error e => .error e
      | .ok part =>
          let next := start + Text.size span + 1
          if c = ']' then readAfter text { d with span := some (String.ofList part) } next rest
          else if part = [] then readBraces text d next rest
          else readBraces text { d with span := some (String.ofList part) } next rest

/-- Reads a text without a bracket or an equals sign: a level, or else a target. -/
def readWord (text : List Char) : Directive :=
  match detail? text with
  | some detail => { detail }
  | none => { target := some (String.ofList text) }

/-- Reads one directive. -/
def read (text : List Char) : Except DirectiveFault Directive :=
  match Text.trim text with
  | [] => .error .malformed
  | '[' :: rest => readBrackets text {} 1 rest
  | first :: more =>
      let target := (first :: more).takeWhile fun c => c ≠ '=' && c ≠ '['
      if !opensTarget first then .error .malformed
      else
        match (first :: more).drop target.length with
        | [] => .ok (readWord text)
        | c :: rest =>
            match cut text 0 (Text.size target) with
            | .error e => .error e
            | .ok part =>
                let d : Directive := { target := some (String.ofList part) }
                let next := Text.size target + 1
                if c = '[' then readBrackets text d next rest else readLevel text d next

end Directive

end ShipTelemetry.Log
