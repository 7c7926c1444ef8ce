import ShipTelemetry.Proofs.Report.Validation

/-!
# How the numbers of a report are read

The text of a coordinate or of the fuel is refused if it spells no decimal literal, or one whose
value is `2 ^ 1024 - 2 ^ 970` or more away from zero.  Every other literal is read as the number
nearest to its value, and zero never has a sign (`ofParameters_of_number`).

Fuel is below zero if the number that is read is, not if its text has a minus: half of the least
positive number below zero is still read as zero.
-/

namespace ShipTelemetry

open Decimal (SpellsLiteral Literal)

/-! ## What a literal is read as -/

namespace Binary64

variable {text : String} {l : Literal} {x : Binary64}

theorem isReadAs_iff_of_spellsLiteral (h : SpellsLiteral l text.toList) :
    IsReadAs text x ↔ |l.value| < limit ∧ x.IsNearest l.value ∧ x ≠ negativeZero := by
  refine ⟨?_, fun hx => ⟨l, h, hx⟩⟩
  rintro ⟨found, hfound, hx⟩
  rwa [Literal.unique_of_spellsLiteral h hfound] at hx

theorem exists_isReadAs_iff (h : SpellsLiteral l text.toList) :
    (∃ x, IsReadAs text x) ↔ |l.value| < limit := by
  simp only [isReadAs_iff_of_spellsLiteral h]
  constructor
  · exact fun ⟨_, hlimit, _⟩ => hlimit
  · intro hlimit
    obtain ⟨x, hx, -⟩ := existsUnique_isNearest hlimit
    exact ⟨x, hlimit, hx⟩

/-- What a text is read as lies below zero if its value is within the limit and more than half a
unit below zero. -/
theorem exists_isReadAs_neg_iff (h : SpellsLiteral l text.toList) :
    (∃ x, IsReadAs text x ∧ x.value < 0) ↔ -limit < l.value ∧ l.value < -2 ^ (-1075 : ℤ) := by
  constructor
  · rintro ⟨x, hread, hneg⟩
    obtain ⟨hlimit, hnearest, -⟩ := (isReadAs_iff_of_spellsLiteral h).1 hread
    exact ⟨(abs_lt.1 hlimit).1, hnearest.isBelowZero_iff.1 (isBelowZero_iff_value.2 hneg)⟩
  · rintro ⟨hlower, hupper⟩
    have hhalf : (0 : ℚ) < 2 ^ (-1075 : ℤ) := by positivity
    have hlimit : |l.value| < limit := abs_lt.2 ⟨hlower, by linarith [half_lt_limit]⟩
    obtain ⟨x, hread⟩ := (exists_isReadAs_iff h).2 hlimit
    obtain ⟨-, hnearest, -⟩ := (isReadAs_iff_of_spellsLiteral h).1 hread
    exact ⟨x, hread, isBelowZero_iff_value.1 (hnearest.isBelowZero_iff.2 hupper)⟩

end Binary64

namespace Report

open Binary64 (IsReadAs)

variable {parameters : List (String × String)} {field : Field} {text : String} {fault : Fault}
  {l : Literal} {x : Binary64}

/-! ## The faults of a number -/

theorem fails_notANumber_iff (hne : field ≠ .name) (hordinary : Text.All Text.isOrdinary text)
    (hempty : text ≠ "") : field.Fails (some text) .notANumber ↔ ∀ x, ¬ IsReadAs text x := by
  refine ⟨?_, .notANumber hne hordinary hempty⟩
  rintro ⟨⟩
  assumption

theorem fails_negative_iff :
    Field.fuel.Fails (some text) .negative ↔ ∃ x, IsReadAs text x ∧ x.value < 0 := by
  refine ⟨?_, fun ⟨_, hread, hbelow⟩ => .negative rfl hread hbelow⟩
  rintro ⟨⟩
  exact ⟨_, by assumption, by assumption⟩

/-- A text is no number exactly if it is read as none. -/
theorem number_eq_notANumber_iff (hne : field ≠ .name)
    (hfirst : first? parameters field.key = some text) (hordinary : Text.All Text.isOrdinary text)
    (hempty : text ≠ "") :
    number parameters field = .error ⟨field, .notANumber⟩ ↔ ∀ x, ¬ IsReadAs text x := by
  constructor
  · intro h x hread
    rw [number_eq_ok_iff.2 ⟨text, hfirst, hread⟩] at h
    cases h
  · intro hnone
    cases hresult : number parameters field with
    | ok x =>
        obtain ⟨value, hvalue, hread⟩ := number_eq_ok_iff.1 hresult
        rw [hfirst] at hvalue
        exact absurd (Option.some.inj hvalue ▸ hread) (hnone x)
    | error rejection =>
        obtain ⟨hfield, hfails⟩ := fails_of_number_eq_error hne hresult
        rw [hfirst] at hfails
        have hfault := hfails.unique (.notANumber hne hordinary hempty hnone)
        rw [hfault, ← hfield]

/-! ## Within a list of parameters -/

/-- Where no field before it fails, a field decides the refusal. -/
theorem eq_error_iff_fails (hcomes : ComesToField parameters field)
    (hfirst : first? parameters field.key = some text) :
    ofParameters parameters = .error ⟨field, fault⟩ ↔ field.Fails (some text) fault := by
  rw [eq_error_iff_failsFirst, FailsFirst, hfirst]
  exact and_iff_left hcomes

theorem numberIn?_of_isReadAs {report : Report} (hne : field ≠ .name)
    (hfirst : first? parameters field.key = some text) (hread : IsReadAs text x)
    (hreport : ofParameters parameters = .ok report) : report.numberIn? field = some x := by
  obtain ⟨y, hy⟩ : ∃ y, report.numberIn? field = some y := by
    cases field
    · exact absurd rfl hne
    all_goals exact ⟨_, rfl⟩
  have hnumber := number_of_numberIn? hreport hy
  rw [number_eq_ok_iff.2 ⟨text, hfirst, hread⟩] at hnumber
  rw [hy, Except.ok.inj hnumber]

/-- Fuel no more than half a unit below zero is none. -/
theorem exists_fuel_eq_zero (hcomes : ComesToField parameters .fuel)
    (hfirst : first? parameters Field.fuel.key = some text)
    (hspells : SpellsLiteral l text.toList) (hlower : -2 ^ (-1075 : ℤ) ≤ l.value)
    (hupper : l.value ≤ 0) :
    ∃ report, ofParameters parameters = .ok report ∧ report.fuel = ⟨false, .zero⟩ := by
  have hhalf : |l.value| ≤ 2 ^ (-1075 : ℤ) := by
    rw [abs_of_nonpos hupper]
    linarith
  have hlimit : |l.value| < Binary64.limit := hhalf.trans_lt Binary64.half_lt_limit
  obtain ⟨x, hread⟩ := (Binary64.exists_isReadAs_iff hspells).2 hlimit
  obtain ⟨-, hnearest, hne⟩ := (Binary64.isReadAs_iff_of_spellsLiteral hspells).1 hread
  have hx := Binary64.eq_of_ne_negativeZero hne (hnearest.magnitude_eq_zero_iff.2 hhalf)
  have hnonneg : 0 ≤ x.value := by
    rw [hx, Binary64.value, Magnitude.units_zero, Nat.cast_zero, zero_div, mul_zero]
  have hnumber := number_eq_ok_iff.2 ⟨text, hfirst, hread⟩
  have hnone : ∀ (field : Field) fault, ¬ field.Fails (first? parameters field.key) fault := by
    intro field fault
    rcases eq_or_ne field .fuel with rfl | hfield
    · exact not_fails_of_number_eq_ok hnumber (fun _ => hnonneg) fault
    · exact hcomes field (by cases field <;> first | decide | exact absurd rfl hfield) fault
  obtain ⟨report, hreport⟩ := exists_eq_ok_iff.2 hnone
  have hstored := numberIn?_of_isReadAs (by decide) hfirst hread hreport
  exact ⟨report, hreport, (Option.some.inj hstored).trans hx⟩

/-- How a coordinate or the fuel is read.  A text that spells no decimal literal is no number.  A
literal is none if its value is at or past the limit, and otherwise it is read as the number nearest
to its value, which for zero has no sign.  If the fields before it are in order, the report is
refused where the field is no number, and where it is fuel whose value is within the limit and more
than half a unit below zero. -/
theorem ofParameters_of_number (hne : field ≠ .name)
    (hfirst : first? parameters field.key = some text)
    (hordinary : ∀ c ∈ text.toList, Text.isControl c = false) (hempty : text ≠ "") :
    ((∀ l, ¬ SpellsLiteral l text.toList) →
        number parameters field = .error ⟨field, .notANumber⟩) ∧
      (∀ l, SpellsLiteral l text.toList →
        (∀ c ∈ text.toList, c.isDigit = true ∨ c ∈ ['+', '-', '.', 'e', 'E']) ∧
        (number parameters field = .error ⟨field, .notANumber⟩ ↔ Binary64.limit ≤ |l.value|) ∧
        (|l.value| < Binary64.limit → ∃ x : Binary64,
          x.IsNearest l.value ∧ x ≠ Binary64.negativeZero ∧
          (∀ other : Binary64, other.IsNearest l.value → other ≠ Binary64.negativeZero →
            other = x) ∧
          number parameters field = .ok x ∧
          ∀ report, ofParameters parameters = .ok report → report.numberIn? field = some x)) ∧
      (ComesToField parameters field →
        (ofParameters parameters = .error ⟨field, .notANumber⟩ ↔
          number parameters field = .error ⟨field, .notANumber⟩) ∧
        (field = .fuel → ∀ l, SpellsLiteral l text.toList →
          (ofParameters parameters = .error ⟨.fuel, .negative⟩ ↔
            -Binary64.limit < l.value ∧ l.value < -2 ^ (-1075 : ℤ)) ∧
          (-2 ^ (-1075 : ℤ) ≤ l.value → l.value ≤ 0 →
            ∃ report, ofParameters parameters = .ok report ∧ report.fuel = ⟨false, .zero⟩))) := by
  have hordinary : Text.All Text.isOrdinary text :=
    fun c hc => by simpa [Text.isOrdinary] using hordinary c hc
  rw [number_eq_notANumber_iff hne hfirst hordinary hempty]
  refine ⟨fun hnone => ?_, fun l hspells => ⟨?_, ?_, ?_⟩, fun hcomes => ⟨?_, ?_⟩⟩
  · rintro x ⟨l, hspells, -⟩
    exact hnone l hspells
  · intro c hc
    have hread := Literal.read?_eq_some_iff.2 hspells
    simpa [Decimal.isInLiteral] using Literal.isInLiteral_of_read? hread hc
  · rw [← not_exists, Binary64.exists_isReadAs_iff hspells, not_lt]
  · intro hlimit
    obtain ⟨x, ⟨hnearest, hzero⟩, hunique⟩ := Binary64.existsUnique_isNearest hlimit
    have hread : IsReadAs text x := ⟨l, hspells, hlimit, hnearest, hzero⟩
    exact ⟨x, hnearest, hzero, fun other hother hother' => hunique other ⟨hother, hother'⟩,
      number_eq_ok_iff.2 ⟨text, hfirst, hread⟩,
      fun _ hreport => numberIn?_of_isReadAs hne hfirst hread hreport⟩
  · rw [eq_error_iff_fails hcomes hfirst, fails_notANumber_iff hne hordinary hempty]
  · rintro rfl l hspells
    refine ⟨?_, exists_fuel_eq_zero hcomes hfirst hspells⟩
    rw [eq_error_iff_fails hcomes hfirst, fails_negative_iff,
      Binary64.exists_isReadAs_neg_iff hspells]

/-- A negative literal that is nearest to zero is fuel zero. -/
theorem ofParameters_of_tiny_fuel :
    ∃ report, ofParameters [("name", "Argo"), ("x", "0"), ("y", "0"), ("fuel", "-1e-400")] =
      .ok report ∧ report.fuel = ⟨false, .zero⟩ := by
  have haccepted :
      ofParameters [("name", "Argo"), ("x", "0"), ("y", "0"), ("fuel", "-1e-400")] =
        .ok ⟨"Argo", ⟨false, .zero⟩, ⟨false, .zero⟩, ⟨false, .zero⟩⟩ := by decide +kernel
  have hspells : SpellsLiteral ⟨true, ['1'], [], -400⟩ "-1e-400".toList :=
    Literal.read?_eq_some_iff.1 (by decide)
  have hvalue : Literal.value ⟨true, ['1'], [], -400⟩ = -10 ^ (-400 : ℤ) := by
    have hone : Decimal.digitsValue ['1'] = 1 := by decide
    simp [Literal.value, hone]
  have hordinary : ∀ c ∈ "-1e-400".toList, Text.isControl c = false := by simp; decide
  have hresult :=
    (ofParameters_of_number (by decide : Field.fuel ≠ .name) rfl hordinary (by decide)).2.2
      fun earlier _ fault => not_fails_of_eq_ok haccepted earlier fault
  refine (hresult.2 rfl _ hspells).2 ?_ ?_
  · have hsmall : (10 : ℚ) ^ (-400 : ℤ) < 10 ^ (-325 : ℤ) :=
      zpow_lt_zpow_right₀ (by norm_num) (by decide)
    rw [hvalue]
    exact neg_le_neg (Binary64.lt_half hsmall).le
  · rw [hvalue]
    exact neg_nonpos.2 (by positivity)

end Report

end ShipTelemetry
