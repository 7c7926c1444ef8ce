import ShipTelemetry.Proofs.Decimal.Literal
import ShipTelemetry.Proofs.Query.Spelling
import ShipTelemetry.Proofs.Report.Reading

/-!
# Reports in a query

A query spells a report if it holds a spelling of each field, in any order, and otherwise
only pieces whose keys are decoded to something else.  Then the parameters of the query give
back the fields (`first?_of_spellsReport`), and with them the report.
-/

namespace ShipTelemetry.Report

open Query

/-- All fields. -/
def fields : List Field := [.name, .x, .y, .fuel]

theorem mem_fields (field : Field) : field ∈ fields := by cases field <;> decide

/-- A piece that says nothing about a report. -/
def IsExtra (piece : List Char) : Prop :=
  IsPiece piece ∧ ∀ field : Field, (pair piece).1 ≠ field.key

/-- The queries that spell a report with these texts in its fields. -/
inductive SpellsReport (texts : Field → String) : String → Prop
  | query {own : Field → List Char} {extras pieces : List (List Char)} :
      (∀ field, SpellsPair field.key (texts field) (own field)) →
      (∀ piece ∈ extras, IsExtra piece) →
      pieces.Perm (fields.map own ++ extras) →
        SpellsReport texts (ofPieces pieces)

/-! ## Looking up the fields -/

theorem key_injective {first second : Field} (h : first.key = second.key) : first = second := by
  cases first <;> cases second <;> first | rfl | exact absurd h (by decide)

/-- The only pair with a key is the one that is found. -/
theorem first?_of_unique {parameters : List (String × String)} {key value : String}
    (hmem : (key, value) ∈ parameters)
    (hunique : ∀ parameter ∈ parameters, parameter.1 = key → parameter = (key, value)) :
    first? parameters key = some value := by
  have hfound : parameters.find? (fun parameter => parameter.1 = key) = some (key, value) := by
    cases hfind : parameters.find? (fun parameter => parameter.1 = key) with
    | none => exact absurd (List.find?_eq_none.1 hfind _ hmem) (by simp)
    | some found =>
        have hkey : found.1 = key := by simpa using List.find?_some hfind
        rw [hunique found (List.mem_of_find?_eq_some hfind) hkey]
  rw [first?, hfound]
  rfl

variable {texts : Field → String} {query : String}

/-- Every field is found with its text. -/
theorem first?_of_spellsReport (h : SpellsReport texts query) (field : Field) :
    first? (pairs query) field.key = some (texts field) := by
  obtain @⟨own, extras, pieces, hown, hextras, hpieces⟩ := h
  have hmem : ∀ piece, piece ∈ pieces ↔ (∃ field, own field = piece) ∨ piece ∈ extras := by
    intro piece
    rw [hpieces.mem_iff, List.mem_append, List.mem_map]
    simp [mem_fields]
  have hall : ∀ piece ∈ pieces, IsPiece piece := by
    intro piece hpiece
    rcases (hmem piece).1 hpiece with ⟨field, rfl⟩ | hextra
    · exact isPiece_of_spellsPair (hown field)
    · exact (hextras piece hextra).1
  -- the order of the pieces no longer matters: the pair of the field is there, and is the only
  -- one with its key
  have hfield : own field ∈ pieces := (hmem _).2 (.inl ⟨field, rfl⟩)
  rw [pairs_ofPieces hall (List.ne_nil_of_mem hfield)]
  apply first?_of_unique
  · have hne : decide (own field ≠ []) = true :=
      decide_eq_true (ne_nil_of_spellsPair (hown field))
    exact List.mem_map.2
      ⟨own field, List.mem_filter.2 ⟨hfield, hne⟩, pair_of_spellsPair (hown field)⟩
  · intro parameter hparameter hkey
    obtain ⟨piece, hpiece, rfl⟩ := List.mem_map.1 hparameter
    rcases (hmem piece).1 (List.mem_filter.1 hpiece).1 with ⟨other, rfl⟩ | hextra
    · have hpair := pair_of_spellsPair (hown other)
      rw [hpair] at hkey ⊢
      rw [key_injective hkey]
    · exact absurd hkey ((hextras piece hextra).2 field)

theorem isQueryCode_of_spellsReport (h : SpellsReport texts query) :
    ∀ c ∈ query.toList, isQueryCode c.toNat = true := by
  obtain @⟨own, extras, pieces, hown, hextras, hpieces⟩ := h
  refine isQueryCode_of_mem_ofPieces fun piece hpiece => ?_
  rcases List.mem_append.1 (hpieces.mem_iff.1 hpiece) with hpiece | hextra
  · obtain ⟨field, -, rfl⟩ := List.mem_map.1 hpiece
    exact isPiece_of_spellsPair (hown field)
  · exact (hextras piece hextra).1

/-! ## Reading the report -/

/-- The texts that make up a report: its name, which is not empty and holds no control
character, and decimal literals that are read as its numbers, zero without a sign. -/
structure Gives (texts : Field → String) (report : Report) : Prop where
  name : texts .name = report.name
  ne_empty : report.name ≠ ""
  ordinary : Text.All Text.isOrdinary report.name
  x : (Binary64.read? (texts .x).toList).map Binary64.addZero = some report.x
  y : (Binary64.read? (texts .y).toList).map Binary64.addZero = some report.y
  fuel : (Binary64.read? (texts .fuel).toList).map Binary64.addZero = some report.fuel
  not_below : report.fuel.isBelowZero = false

/-- A decimal literal under a key is read as its number. -/
theorem number_of_first? {parameters : List (String × String)} {field : Field} {written : String}
    {value : Binary64} (hfirst : first? parameters field.key = some written)
    (hread : (Binary64.read? written.toList).map Binary64.addZero = some value) :
    number parameters field = .ok value := by
  obtain ⟨exact, hexact, -⟩ := Option.map_eq_some_iff.1 hread
  obtain ⟨literal, hliteral, -⟩ := Option.bind_eq_some_iff.1 hexact
  refine number_eq_ok.2 ⟨written, text_eq_ok.2 ⟨hfirst, ?_, ?_⟩, hread⟩
  · intro c hc
    have hin := Decimal.Literal.isInLiteral_of_read? hliteral hc
    exact Text.admitsPrintable_isOrdinary c (Decimal.isPrintable_of_isInLiteral hin)
  · rintro rfl
    exact Decimal.Literal.ne_nil_of_read? hliteral rfl

/-- A query that spells a report is read as that report. -/
theorem ofParameters_of_spellsReport {report : Report} (hspells : SpellsReport texts query)
    (hgives : Gives texts report) : ofParameters (pairs query) = .ok report := by
  have hname : first? (pairs query) Field.name.key = some report.name :=
    hgives.name ▸ first?_of_spellsReport hspells .name
  exact ofParameters_eq_ok.2
    ⟨text_eq_ok.2 ⟨hname, hgives.ordinary, hgives.ne_empty⟩,
      number_of_first? (first?_of_spellsReport hspells .x) hgives.x,
      number_of_first? (first?_of_spellsReport hspells .y) hgives.y,
      number_of_first? (first?_of_spellsReport hspells .fuel) hgives.fuel, hgives.not_below⟩

end ShipTelemetry.Report
