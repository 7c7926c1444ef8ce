import ShipTelemetry.Envelope
import ShipTelemetry.Proofs.Text.Basic

/-!
# Reading JSON objects of strings

A reader for JSON objects all of whose members are strings, with blanks between the tokens,
every escape of the grammar, and surrogate pairs.

Inside a string literal the reader looks at one character at a time, and a `Place` says what
the characters before it have begun.
-/

namespace ShipTelemetry.Json

open Text

/-! ## String literals -/

/-- What has been begun inside a string literal. -/
inductive Place
  | plain
  | escape
  | unit (left value : Nat) (high : Option Nat)
  | pair (high : Nat)
  | pairEscape (high : Nat)
deriving DecidableEq, Repr

/-- The letters of short escapes and the characters for which they stand. -/
def shortEscapes : List (Char × Char) :=
  [('"', '"'), ('\\', '\\'), ('/', '/'), ('b', '\x08'), ('f', '\x0c'), ('n', '\n'), ('r', '\r'),
    ('t', '\t')]

/-- What a code unit comes to, after the first half of a surrogate pair or without one. -/
def ofUnit? (value : Nat) : Option Nat → Option (Place × List Char)
  | none =>
      if 0xd800 ≤ value ∧ value ≤ 0xdbff then some (.pair value, [])
      else if 0xdc00 ≤ value ∧ value ≤ 0xdfff then none
      else some (.plain, [Char.ofNat value])
  | some high =>
      if 0xdc00 ≤ value ∧ value ≤ 0xdfff then
        some (.plain, [Char.ofNat (0x10000 + (high - 0xd800) * 0x400 + (value - 0xdc00))])
      else none

/-- Looks at one character: what is begun after it, and the character that it completes. -/
def step? : Place → Char → Option (Place × List Char)
  | .plain, c =>
      if c = '\\' then some (.escape, []) else if c.toNat < 0x20 then none else some (.plain, [c])
  | .escape, c =>
      if c = 'u' then some (.unit 3 0 none, [])
      else (shortEscapes.lookup c).map fun meant => (.plain, [meant])
  | .unit left value high, c =>
      (hexValue? c.toNat).bind fun digit =>
        match left with
        | 0 => ofUnit? (16 * value + digit) high
        | left + 1 => some (.unit left (16 * value + digit) high, [])
  | .pair high, c => if c = '\\' then some (.pairEscape high, []) else none
  | .pairEscape high, c => if c = 'u' then some (.unit 3 0 (some high), []) else none

/-- Reads the inside of a string literal and leaves what stands after its closing quote. -/
def readString? : Place → List Char → Option (List Char × List Char)
  | _, [] => none
  | place, c :: rest =>
      if place = .plain ∧ c = '"' then some ([], rest)
      else
        match step? place c with
        | none => none
        | some (next, completed) =>
            (readString? next rest).map fun (text, after) => (completed ++ text, after)

/-! ## Objects -/

/-- A blank between two tokens. -/
def isBlank (c : Char) : Bool := c ∈ [' ', '\t', '\n', '\r']

/-- Cuts off a token of one character, with the blanks before it. -/
def cut? (token : Char) (cs : List Char) : Option (List Char) :=
  match cs.dropWhile isBlank with
  | [] => none
  | c :: rest => if c = token then some rest else none

/-- Reads a name, a colon and a string. -/
def readMember? (cs : List Char) : Option ((String × String) × List Char) := do
  let (name, afterName) ← readString? .plain (← cut? '"' cs)
  let (value, afterValue) ← readString? .plain (← cut? '"' (← cut? ':' afterName))
  some ((String.ofList name, String.ofList value), afterValue)

/-- Reads at most `n` members, up to the end of the object. -/
def readMembers? : Nat → List Char → Option (List (String × String) × List Char)
  | 0, _ => none
  | n + 1, cs => do
      let (member, afterMember) ← readMember? cs
      match cut? ',' afterMember with
      | some rest =>
          let (more, afterMore) ← readMembers? n rest
          some (member :: more, afterMore)
      | none => some ([member], ← cut? '\x7d' afterMember)

/-- Reads a text that is an object of strings. -/
def readObject? (text : String) : Option (List (String × String)) := do
  let inside ← cut? '\x7b' text.toList
  let (members, rest) ← match cut? '\x7d' inside with
    | some rest => some ([], rest)
    | none => readMembers? inside.length inside
  if rest.all isBlank then some members else none

/-! ## Steps of the reader -/

theorem readString?_of_step {place next : Place} {c : Char} {completed rest : List Char}
    (hquote : ¬ (place = .plain ∧ c = '"')) (hstep : step? place c = some (next, completed)) :
    readString? place (c :: rest) =
      (readString? next rest).map fun (text, after) => (completed ++ text, after) := by
  rw [readString?, if_neg hquote, hstep]

theorem readString?_shortEscape {letter meant : Char}
    (hmeant : shortEscapes.lookup letter = some meant) (rest : List Char) :
    readString? .plain ('\\' :: letter :: rest) =
      (readString? .plain rest).map fun (text, after) => (meant :: text, after) := by
  have hletter : letter ≠ 'u' := by
    rintro rfl
    cases hmeant
  have hescape : step? .escape letter = some (.plain, [meant]) := by
    simp [step?, hletter, hmeant]
  rw [readString?_of_step (by decide) rfl, readString?_of_step (by simp) hescape]
  cases readString? .plain rest <;> rfl

/-- A step that completes no character. -/
theorem readString?_of_silent {place next : Place} {c : Char}
    (hquote : ¬ (place = .plain ∧ c = '"')) (hstep : step? place c = some (next, []))
    (rest : List Char) : readString? place (c :: rest) = readString? next rest := by
  rw [readString?_of_step hquote hstep]
  cases readString? next rest <;> rfl

/-- One of the first three digits of a code unit. -/
theorem readString?_digit {left value digit : Nat} {high : Option Nat} {c : Char}
    (hdigit : hexValue? c.toNat = some digit) (rest : List Char) :
    readString? (.unit (left + 1) value high) (c :: rest) =
      readString? (.unit left (16 * value + digit) high) rest :=
  readString?_of_silent (by simp) (by simp [step?, hdigit]) rest

/-- The last digit of a code unit. -/
theorem readString?_lastDigit {value digit : Nat} {high : Option Nat} {c : Char} {next : Place}
    {completed : List Char} (hdigit : hexValue? c.toNat = some digit)
    (hunit : ofUnit? (16 * value + digit) high = some (next, completed)) (rest : List Char) :
    readString? (.unit 0 value high) (c :: rest) =
      (readString? next rest).map fun (text, after) => (completed ++ text, after) :=
  readString?_of_step (by simp) (by simp [step?, hdigit, hunit])

theorem cut?_cons {token : Char} (h : isBlank token = false) (rest : List Char) :
    cut? token (token :: rest) = some rest := by
  have hblank : ¬ isBlank token = true := by simp [h]
  rw [cut?, List.dropWhile_cons_of_neg hblank]
  exact if_pos rfl

theorem cut?_cons_of_ne {token c : Char} (h : isBlank c = false) (hne : c ≠ token)
    (rest : List Char) : cut? token (c :: rest) = none := by
  have hblank : ¬ isBlank c = true := by simp [h]
  rw [cut?, List.dropWhile_cons_of_neg hblank]
  exact if_neg hne

end ShipTelemetry.Json
