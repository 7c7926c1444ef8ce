import ShipTelemetry.Proofs.Binary64.Reading
import ShipTelemetry.Proofs.Report.Spelling

/-!
# What is refused

`Field.Fails` says what is wrong with a field, given the first value of its key, and `FailsFirst`
that a field fails while all fields before it are in order.  A report is refused for exactly this
reason, and if no field fails there is a report (`ofParameters_decides`).

## Strategy

A field has at most one fault (`Field.Fails.unique`) and at most one field is the first to fail
(`FailsFirst.unique`).  So it is enough to see that a refusal is a first failure, and that there is
none where there is a report; the converses follow.
-/

namespace ShipTelemetry

/-- What is wrong with a field, given its value or that there is none.  A control character is a
fault whatever else is wrong with the value. -/
inductive Field.Fails (field : Field) : Option String → Fault → Prop
  | controlCharacter {value : String} : (∃ c ∈ value.toList, Text.isControl c = true) →
      field.Fails (some value) .controlCharacter
  | absent : field.Fails none .missing
  | empty : field.Fails (some "") .missing
  | notANumber {value : String} : field ≠ .name → Text.All Text.isOrdinary value → value ≠ "" →
      (∀ x, ¬ Binary64.IsReadAs value x) → field.Fails (some value) .notANumber
  | negative {value : String} {x : Binary64} : field = .fuel → Binary64.IsReadAs value x →
      x.value < 0 → field.Fails (some value) .negative

theorem exists_isControl_iff {value : String} :
    (∃ c ∈ value.toList, Text.isControl c = true) ↔ ¬ Text.All Text.isOrdinary value := by
  rw [← Report.any_isControl_eq_false, Bool.not_eq_false, List.any_eq_true]

namespace Binary64

variable {value : String} {x other : Binary64}

/-- What is read as a number is neither empty nor holds a control character. -/
theorem IsReadAs.ordinary (h : IsReadAs value x) :
    Text.All Text.isOrdinary value ∧ value ≠ "" := by
  obtain ⟨l, hspells, -⟩ := h
  have hread := Decimal.Literal.read?_eq_some_iff.2 hspells
  constructor
  · intro c hc
    have hin := Decimal.Literal.isInLiteral_of_read? hread hc
    exact Text.admitsPrintable_isOrdinary c (Decimal.isPrintable_of_isInLiteral hin)
  · rintro rfl
    exact Decimal.Literal.ne_nil_of_read? hread rfl

theorem IsReadAs.ne_negativeZero (h : IsReadAs value x) : x ≠ negativeZero := by
  obtain ⟨-, -, -, -, hne⟩ := h
  exact hne

theorem IsReadAs.unique (h : IsReadAs value x) (hother : IsReadAs value other) : other = x :=
  Option.some.inj ((isReadAs_iff.1 hother).symm.trans (isReadAs_iff.1 h))

end Binary64

/-- A field has at most one fault. -/
theorem Field.Fails.unique {field : Field} {value : Option String} {fault other : Fault}
    (h : field.Fails value fault) (hother : field.Fails value other) : other = fault := by
  cases h with
  | controlCharacter hcontrol =>
      rw [exists_isControl_iff] at hcontrol
      cases hother with
      | controlCharacter => rfl
      | empty => exact absurd Text.all_empty hcontrol
      | notANumber _ hordinary => exact absurd hordinary hcontrol
      | negative _ hread => exact absurd hread.ordinary.1 hcontrol
  | absent =>
      cases hother
      rfl
  | empty =>
      cases hother with
      | controlCharacter hcontrol =>
          exact absurd Text.all_empty (exists_isControl_iff.1 hcontrol)
      | empty => rfl
      | notANumber _ _ hne => exact absurd rfl hne
      | negative _ hread => exact absurd rfl hread.ordinary.2
  | notANumber _ hordinary hne hnone =>
      cases hother with
      | controlCharacter hcontrol =>
          exact absurd hordinary (exists_isControl_iff.1 hcontrol)
      | empty => exact absurd rfl hne
      | notANumber => rfl
      | negative _ hread => exact absurd hread (hnone _)
  | negative _ hread =>
      cases hother with
      | controlCharacter hcontrol =>
          exact absurd hread.ordinary.1 (exists_isControl_iff.1 hcontrol)
      | empty => exact absurd rfl hread.ordinary.2
      | notANumber _ _ _ hnone => exact absurd hread (hnone _)
      | negative => rfl

namespace Report

variable {parameters : List (String × String)} {field : Field} {rejection : Rejection}
  {fault : Fault} {report : Report}

/-! ## One field -/

theorem fails_of_text_eq_error (h : text parameters field = .error rejection) :
    rejection.field = field ∧ field.Fails (first? parameters field.key) rejection.fault := by
  unfold text at h
  cases hfirst : first? parameters field.key with
  | none =>
      rw [hfirst] at h
      cases h
      exact ⟨rfl, .absent⟩
  | some value =>
      rw [hfirst] at h
      dsimp only at h
      split at h
      next hcontrol =>
        cases h
        exact ⟨rfl, .controlCharacter (by simpa using hcontrol)⟩
      next =>
        split at h
        next hempty =>
          cases h
          exact ⟨rfl, hempty ▸ .empty⟩
        next => cases h

theorem number_eq_ok_iff {x : Binary64} :
    number parameters field = .ok x ↔
      ∃ value, first? parameters field.key = some value ∧ Binary64.IsReadAs value x := by
  constructor
  · intro h
    obtain ⟨value, htext, hread⟩ := number_eq_ok.1 h
    exact ⟨value, (text_eq_ok.1 htext).1, Binary64.isReadAs_iff.2 hread⟩
  · rintro ⟨value, hfirst, hread⟩
    exact number_of_first? hfirst (Binary64.isReadAs_iff.1 hread)

theorem fails_of_number_eq_error (hne : field ≠ .name)
    (h : number parameters field = .error rejection) :
    rejection.field = field ∧ field.Fails (first? parameters field.key) rejection.fault := by
  rcases bind_eq_error h with h | ⟨value, htext, h⟩
  · exact fails_of_text_eq_error h
  · obtain ⟨hfirst, hordinary, hempty⟩ := text_eq_ok.1 htext
    cases hread : Binary64.read? value.toList with
    | some x => simp [hread] at h
    | none =>
        simp only [hread, Except.error.injEq] at h
        subst h
        refine ⟨rfl, hfirst ▸ .notANumber hne hordinary hempty fun x hx => ?_⟩
        simpa [hread] using Binary64.isReadAs_iff.1 hx

/-- A name that is read has no fault. -/
theorem not_fails_of_text_eq_ok {name : String} (h : text parameters .name = .ok name)
    (fault : Fault) : ¬ Field.name.Fails (first? parameters Field.name.key) fault := by
  obtain ⟨hfirst, hordinary, hempty⟩ := text_eq_ok.1 h
  rw [hfirst]
  intro hfails
  cases hfails with
  | controlCharacter hcontrol => exact exists_isControl_iff.1 hcontrol hordinary
  | empty => exact hempty rfl
  | notANumber hne => exact hne rfl
  | negative hfuel => cases hfuel

/-- A number that is read has no fault, unless it is fuel and below zero. -/
theorem not_fails_of_number_eq_ok {x : Binary64} (h : number parameters field = .ok x)
    (hbelow : field = .fuel → 0 ≤ x.value) (fault : Fault) :
    ¬ field.Fails (first? parameters field.key) fault := by
  obtain ⟨value, hfirst, hread⟩ := number_eq_ok_iff.1 h
  rw [hfirst]
  intro hfails
  cases hfails with
  | controlCharacter hcontrol => exact exists_isControl_iff.1 hcontrol hread.ordinary.1
  | empty => exact hread.ordinary.2 rfl
  | notANumber _ _ _ hnone => exact hnone x hread
  | negative hfuel hother hneg =>
      rw [hread.unique hother] at hneg
      exact absurd hneg (not_lt.2 (hbelow hfuel))

/-! ## All fields -/

/-- No field before this one fails. -/
def ComesToField (parameters : List (String × String)) (field : Field) : Prop :=
  ∀ earlier ∈ fields.takeWhile (· ≠ field), ∀ fault,
    ¬ earlier.Fails (first? parameters earlier.key) fault

/-- A field fails as the rejection says, and no field before it fails. -/
def FailsFirst (parameters : List (String × String)) (rejection : Rejection) : Prop :=
  rejection.field.Fails (first? parameters rejection.field.key) rejection.fault ∧
    ComesToField parameters rejection.field

theorem FailsFirst.unique {other : Rejection} (h : FailsFirst parameters rejection)
    (hother : FailsFirst parameters other) : other = rejection := by
  have horder : ∀ first second : Field, first = second ∨
      first ∈ fields.takeWhile (· ≠ second) ∨ second ∈ fields.takeWhile (· ≠ first) := by
    intro first second
    cases first <;> cases second <;> decide
  rcases horder rejection.field other.field with hfield | hbefore | hbefore
  · obtain ⟨field, fault⟩ := rejection
    obtain ⟨field', fault'⟩ := other
    obtain rfl : field = field' := hfield
    exact congrArg (Rejection.mk field) (h.1.unique hother.1)
  · exact absurd h.1 (hother.2 _ hbefore _)
  · exact absurd hother.1 (h.2 _ hbefore _)

/-- The fields are read in order, and the first that fails decides. -/
theorem failsFirst_of_eq_error (h : ofParameters parameters = .error rejection) :
    FailsFirst parameters rejection := by
  obtain ⟨field, fault⟩ := rejection
  rcases bind_eq_error h with h | ⟨name, hname, h⟩
  · obtain ⟨rfl, hfails⟩ := fails_of_text_eq_error h
    exact ⟨hfails, by simp [ComesToField, fields]⟩
  have hname := not_fails_of_text_eq_ok hname
  rcases bind_eq_error h with h | ⟨x, hx, h⟩
  · obtain ⟨rfl, hfails⟩ := fails_of_number_eq_error (by decide) h
    exact ⟨hfails, by simpa [ComesToField, fields] using hname⟩
  have hx := not_fails_of_number_eq_ok hx nofun
  rcases bind_eq_error h with h | ⟨y, hy, h⟩
  · obtain ⟨rfl, hfails⟩ := fails_of_number_eq_error (by decide) h
    exact ⟨hfails, by simpa [ComesToField, fields] using ⟨hname, hx⟩⟩
  have hy := not_fails_of_number_eq_ok hy nofun
  have hcomes : ComesToField parameters .fuel := by
    simpa [ComesToField, fields] using ⟨hname, hx, hy⟩
  rcases bind_eq_error h with h | ⟨fuel, hfuel, h⟩
  · obtain ⟨rfl, hfails⟩ := fails_of_number_eq_error (by decide) h
    exact ⟨hfails, hcomes⟩
  obtain ⟨value, hfirst, hread⟩ := number_eq_ok_iff.1 hfuel
  split at h
  next hbelow =>
    cases h
    have hfails := Field.Fails.negative rfl hread (Binary64.isBelowZero_iff_value.1 hbelow)
    exact ⟨hfirst ▸ hfails, hcomes⟩
  next => cases h

theorem fuel_nonneg (h : ofParameters parameters = .ok report) : 0 ≤ report.fuel.value := by
  obtain ⟨-, -, -, -, hbelow⟩ := ofParameters_eq_ok.1 h
  rw [← not_lt, ← Binary64.isBelowZero_iff_value, hbelow]
  exact Bool.false_ne_true

theorem not_fails_of_eq_ok (h : ofParameters parameters = .ok report) (field : Field)
    (fault : Fault) : ¬ field.Fails (first? parameters field.key) fault := by
  obtain ⟨hname, hx, hy, hfuel, -⟩ := ofParameters_eq_ok.1 h
  cases field with
  | name => exact not_fails_of_text_eq_ok hname fault
  | x => exact not_fails_of_number_eq_ok hx nofun fault
  | y => exact not_fails_of_number_eq_ok hy nofun fault
  | fuel => exact not_fails_of_number_eq_ok hfuel (fun _ => fuel_nonneg h) fault

theorem eq_error_iff_failsFirst :
    ofParameters parameters = .error rejection ↔ FailsFirst parameters rejection := by
  refine ⟨failsFirst_of_eq_error, fun h => ?_⟩
  cases hresult : ofParameters parameters with
  | ok report => exact absurd h.1 (not_fails_of_eq_ok hresult _ _)
  | error found => rw [h.unique (failsFirst_of_eq_error hresult)]

theorem exists_eq_ok_iff :
    (∃ report, ofParameters parameters = .ok report) ↔
      ∀ (field : Field) fault, ¬ field.Fails (first? parameters field.key) fault := by
  refine ⟨fun ⟨_, h⟩ => not_fails_of_eq_ok h, fun h => ?_⟩
  cases hresult : ofParameters parameters with
  | ok report => exact ⟨report, rfl⟩
  | error found => exact absurd (failsFirst_of_eq_error hresult).1 (h _ _)

/-- The number that a report holds in a field.  A name is no number. -/
def numberIn? (report : Report) : Field → Option Binary64
  | .name => none
  | .x => some report.x
  | .y => some report.y
  | .fuel => some report.fuel

theorem number_of_numberIn? {x : Binary64} (h : ofParameters parameters = .ok report)
    (hx : report.numberIn? field = some x) : number parameters field = .ok x := by
  obtain ⟨-, hx', hy, hfuel, -⟩ := ofParameters_eq_ok.1 h
  cases field <;> cases hx
  · exact hx'
  · exact hy
  · exact hfuel

/-- A list of parameters is refused for the first fault of the first field that fails, and read if
no field fails.  The report then has the name as it is and the numbers that its fields are read
as. -/
theorem ofParameters_decides (parameters : List (String × String)) :
    (∀ rejection, ofParameters parameters = .error rejection ↔ FailsFirst parameters rejection) ∧
      ((∃ report, ofParameters parameters = .ok report) ↔
        ∀ (field : Field) fault, ¬ field.Fails (first? parameters field.key) fault) ∧
      ∀ report, ofParameters parameters = .ok report →
        first? parameters Field.name.key = some report.name ∧
          report.name ≠ "" ∧ (∀ c ∈ report.name.toList, Text.isControl c = false) ∧
          (∀ field x, report.numberIn? field = some x →
            (∃ value, first? parameters field.key = some value ∧ Binary64.IsReadAs value x) ∧
              x ≠ Binary64.negativeZero) ∧
          0 ≤ report.fuel.value := by
  refine ⟨fun _ => eq_error_iff_failsFirst, exists_eq_ok_iff, fun report h => ?_⟩
  obtain ⟨hfirst, hordinary, hne⟩ := text_eq_ok.1 (ofParameters_eq_ok.1 h).1
  refine ⟨hfirst, hne, fun c hc => by simpa [Text.isOrdinary] using hordinary c hc, ?_,
    fuel_nonneg h⟩
  intro field x hx
  obtain ⟨value, hfirst, hread⟩ := number_eq_ok_iff.1 (number_of_numberIn? h hx)
  exact ⟨⟨value, hfirst, hread⟩, hread.ne_negativeZero⟩

end Report

end ShipTelemetry
