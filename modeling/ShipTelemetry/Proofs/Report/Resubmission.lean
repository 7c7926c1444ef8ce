import ShipTelemetry.Proofs.Binary64.Display
import ShipTelemetry.Proofs.Binary64.Shortest
import ShipTelemetry.Proofs.Report.Validation
import ShipTelemetry.Service.Router

/-!
# Submitting again what was announced

The numbers of a report are announced in digits with at most one point, and with a minus only if
they are below zero.  Such a number needs no escape in a query, and is read as the number that it
was displayed for.  So a query that holds the name of a report and its numbers as they are displayed
is answered in the same way as the query that the report was first read from
(`ofParameters_resubmitted`).
-/

namespace ShipTelemetry

/-! ## Displays in a query -/

/-- A digit, a point or a minus stands for itself in a query. -/
theorem isLiteral_of_isNumeric (c : Char) (h : isNumeric c = true) : Query.isLiteral c = true := by
  simp only [isNumeric, Bool.or_eq_true, decide_eq_true_eq] at h
  rcases h with (h | rfl) | rfl
  · have hdigit := Text.toNat_of_isDigit h
    have hne : c ∉ ['&', '=', '+', '%', '#'] := by
      intro hc
      simp only [List.mem_cons, List.not_mem_nil, or_false] at hc
      rcases hc with rfl | rfl | rfl | rfl | rfl <;> exact absurd h (by decide)
    simp only [Query.isLiteral, isQueryCode, Bool.and_eq_true, Bool.or_eq_true, decide_eq_true_eq]
    exact ⟨by omega, hne⟩
  · decide
  · decide

namespace Binary64

variable {x : Binary64}

theorem spellsText_display (x : Binary64) : Query.SpellsText x.display x.display.toList :=
  Query.spellsText_of_isLiteral fun c hc => isLiteral_of_isNumeric c (x.all_display c hc)

/-- A number with a minus lies below zero, unless it is minus zero. -/
theorem value_neg_of_negative (hne : x ≠ negativeZero) (hnegative : x.negative = true) :
    x.value < 0 := by
  rw [← isBelowZero_iff_value, isBelowZero_iff]
  refine ⟨hnegative, fun hzero => ?_⟩
  rw [eq_of_ne_negativeZero hne hzero] at hnegative
  cases hnegative

end Binary64

namespace Report

open Query

variable {parameters : List (String × String)} {report : Report} {query : String}

/-- The text of a field in a query that submits a report again. -/
def shownText (report : Report) (field : Field) : String :=
  ((report.numberIn? field).map Binary64.display).getD report.name

/-- The piece for a field in such a query: the name in some spelling, and the numbers as they are
displayed. -/
def shownPiece (report : Report) (spelledName : List Char) (field : Field) : List Char :=
  field.key.toList ++ '=' ::
    ((report.numberIn? field).map fun x => x.display.toList).getD spelledName

/-- A query that submits a report again, with its pieces in any order and among others that say
nothing about a report. -/
inductive Resubmits (report : Report) : String → Prop
  | query {spelledName : List Char} {extras pieces : List (List Char)} :
      SpellsText report.name spelledName → (∀ piece ∈ extras, IsExtra piece) →
      pieces.Perm (fields.map (report.shownPiece spelledName) ++ extras) →
        Resubmits report (ofPieces pieces)

theorem spellsText_key (field : Field) : SpellsText field.key field.key.toList := by
  apply spellsText_of_isLiteral
  cases field <;> decide

theorem spellsReport_of_resubmits (h : Resubmits report query) :
    SpellsReport report.shownText query := by
  obtain @⟨spelledName, extras, pieces, hname, hextras, hpieces⟩ := h
  refine .query (fun field => .pair (spellsText_key field) ?_) hextras hpieces
  cases field with
  | name => exact hname
  | x => exact report.x.spellsText_display
  | y => exact report.y.spellsText_display
  | fuel => exact report.fuel.spellsText_display

theorem ne_negativeZero_of_numberIn? {field : Field} {x : Binary64}
    (h : ofParameters parameters = .ok report) (hx : report.numberIn? field = some x) :
    x ≠ Binary64.negativeZero := by
  obtain ⟨value, -, hread⟩ := number_eq_ok_iff.1 (number_of_numberIn? h hx)
  exact hread.ne_negativeZero

/-- What is shown of a report that was read gives the report. -/
theorem gives_shownText (h : ofParameters parameters = .ok report) :
    Gives report.shownText report := by
  have hread : ∀ field x, report.numberIn? field = some x →
      (Binary64.read? x.display.toList).map Binary64.addZero = some x := by
    intro field x hx
    rw [x.read?_display, Option.map_some,
      Binary64.addZero_of_ne (ne_negativeZero_of_numberIn? h hx)]
  obtain ⟨hname, -, -, -, hbelow⟩ := ofParameters_eq_ok.1 h
  obtain ⟨-, hordinary, hne⟩ := text_eq_ok.1 hname
  exact {
    name := rfl
    ne_empty := hne
    ordinary := hordinary
    x := hread .x _ rfl
    y := hread .y _ rfl
    fuel := hread .fuel _ rfl
    not_below := hbelow }

/-- The numbers of a report are displayed in place, and those with a minus lie below zero and are
not fuel.  Submitted again as they are displayed, with the same name, they give the same report and
the same answer.  Every number is read back from its display, which has as few significant digits
as any decimal that is read as that number. -/
theorem ofParameters_resubmitted (h : ofParameters parameters = .ok report) :
    (∀ field x, report.numberIn? field = some x →
      (∃ whole fraction, IsInPlace x.negative whole fraction x.display.toList) ∧
        (x.negative = true → field ≠ .fuel ∧ x.value < 0)) ∧
      (∀ query, Resubmits report query →
        ofParameters (pairs query) = .ok report ∧
          Service.ship (.ok (pairs query)) = Service.ship (.ok parameters)) ∧
      ∀ x : Binary64, Binary64.read? x.display.toList = some x ∧
        (x.magnitude ≠ .zero → ∀ shown l cs, Decimal.SpellsLiteral shown x.display.toList →
          Decimal.SpellsLiteral l cs → Binary64.read? cs = some x →
            shown.precision ≤ l.precision) := by
  refine ⟨fun field x hx => ⟨?_, fun hnegative => ?_⟩, fun query hquery => ?_,
    fun x => ⟨x.read?_display, fun hne shown l cs hshown hl hread => ?_⟩⟩
  · obtain ⟨whole, fraction, hinPlace, -⟩ := x.exists_display
    exact ⟨whole, fraction, hinPlace⟩
  · have hneg := Binary64.value_neg_of_negative (ne_negativeZero_of_numberIn? h hx) hnegative
    refine ⟨?_, hneg⟩
    rintro rfl
    exact absurd (fuel_nonneg h) (not_le.2 (Option.some.inj hx ▸ hneg))
  · have hagain :=
      ofParameters_of_spellsReport (spellsReport_of_resubmits hquery) (gives_shownText h)
    refine ⟨hagain, ?_⟩
    rw [Service.ship, Service.ship, hagain, h]
  · obtain ⟨found, hfound, hlimit, hnearest, -⟩ := Binary64.read?_eq_some_iff.1 hread
    rw [Decimal.Literal.unique_of_spellsLiteral hl hfound] at hlimit hnearest
    exact Binary64.precision_display_le hne hshown hl hlimit hnearest

/-- What was written with an exponent, with zeros at the end and with a minus before zero comes
back in its shortest form. -/
theorem ofParameters_resubmitted_sample :
    ∃ report,
      ofParameters [("name", "Argo"), ("x", "150e-2"), ("y", "-2.0"), ("fuel", "-0")] =
        .ok report ∧
      ofParameters (pairs "name=Argo&x=1.5&y=-2&fuel=0") = .ok report := by
  obtain ⟨report, hreport⟩ : ∃ report : Report, report =
      ⟨"Argo", ⟨false, 3 * 2 ^ 51, 1022, by decide⟩, ⟨true, 2 ^ 52, 1023, by decide⟩,
        ⟨false, .zero⟩⟩ := ⟨_, rfl⟩
  have hread :
      ofParameters [("name", "Argo"), ("x", "150e-2"), ("y", "-2.0"), ("fuel", "-0")] =
        .ok report := by
    rw [hreport]
    decide +kernel
  have hquery : ofPieces (fields.map (report.shownPiece "Argo".toList) ++ []) =
      "name=Argo&x=1.5&y=-2&fuel=0" := by
    rw [hreport]
    decide +kernel
  have hname : SpellsText report.name "Argo".toList := by
    rw [hreport]
    exact spellsText_of_isLiteral (by decide)
  have hresubmits : Resubmits report "name=Argo&x=1.5&y=-2&fuel=0" :=
    hquery ▸ .query hname (by simp) (List.Perm.refl _)
  exact ⟨report, hread, ((ofParameters_resubmitted hread).2.1 _ hresubmits).1⟩

end Report

end ShipTelemetry
