import ShipTelemetry.Binary64
import ShipTelemetry.Text.Basic

/-!
# Ship reports

A report says which ship was seen, where, and with how much fuel.  It is read from a list of
named parameters, of which only the first of each name counts.  The fields are read in the
order name, `x`, `y`, fuel, and the first one that fails decides the rejection.
-/

namespace ShipTelemetry

/-- The fields of a report. -/
inductive Field
  | name
  | x
  | y
  | fuel
deriving DecidableEq, Repr

/-- The parameter that holds a field. -/
def Field.key : Field → String
  | .name => "name"
  | .x => "x"
  | .y => "y"
  | .fuel => "fuel"

/-- What can be wrong with a field. -/
inductive Fault
  | missing
  | controlCharacter
  | notANumber
  | negative
deriving DecidableEq, Repr

/-- Why a report is refused: a field and what is wrong with it. -/
structure Rejection where
  field : Field
  fault : Fault
deriving DecidableEq, Repr

/-- The wording of a rejection.  It names the field and never repeats its value. -/
def Rejection.message (r : Rejection) : String :=
  match r.fault with
  | .missing => r.field.key ++ " is required"
  | .controlCharacter => r.field.key ++ " must not contain control characters"
  | .notANumber => r.field.key ++ " must be a number"
  | .negative => r.field.key ++ " must be a non-negative number"

/-- One ship observation. -/
structure Report where
  name : String
  x : Binary64
  y : Binary64
  fuel : Binary64
deriving DecidableEq, Repr

namespace Report

/-- The value of the first parameter with this key. -/
def first? (parameters : List (String × String)) (key : String) : Option String :=
  (parameters.find? fun parameter => parameter.1 = key).map Prod.snd

/-- The text of a field: present, not empty, and free of control characters. -/
def text (parameters : List (String × String)) (field : Field) : Except Rejection String :=
  match first? parameters field.key with
  | none => .error ⟨field, .missing⟩
  | some value =>
      if value.toList.any Text.isControl then .error ⟨field, .controlCharacter⟩
      else if value = "" then .error ⟨field, .missing⟩
      else .ok value

/-- The finite number in a field; zero has no sign. -/
def number (parameters : List (String × String)) (field : Field) : Except Rejection Binary64 := do
  match Binary64.read? (← text parameters field).toList with
  | some value => .ok value.addZero
  | none => .error ⟨field, .notANumber⟩

/-- Reads a report from parameters. -/
def ofParameters (parameters : List (String × String)) : Except Rejection Report := do
  let name ← text parameters .name
  let x ← number parameters .x
  let y ← number parameters .y
  let fuel ← number parameters .fuel
  if fuel.isBelowZero then .error ⟨.fuel, .negative⟩
  else .ok { name, x, y, fuel }

/-- The sentence that announces a report in the log. -/
def announcement (r : Report) : String :=
  "Detected ship " ++ r.name ++ " in position (" ++ r.x.display ++ "," ++ r.y.display ++
    ") with fuel " ++ r.fuel.display

end Report

end ShipTelemetry
