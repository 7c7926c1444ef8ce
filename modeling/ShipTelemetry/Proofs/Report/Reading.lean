import ShipTelemetry.Proofs.Text.Basic
import ShipTelemetry.Report
import ShipTelemetry.Uri

/-!
# When a report is read

Each step of reading a report succeeds under exactly one condition on the parameters; put
together, these conditions say when there is a report and what stands in it.

A report is read from the first value of each of its four keys and from nothing else
(`ofParameters_congr`).  What is added to the end of a query is decoded on its own and stands
behind all that was there before (`pairs_append`).  So nothing that is added to a query which
has the four keys is ever looked at (`first?_pairs_append`).
-/

namespace ShipTelemetry

namespace Report

variable {parameters : List (String × String)} {field : Field}

theorem bind_eq_ok {ε α β : Type} {first : Except ε α} {next : α → Except ε β} {b : β} :
    (first >>= next) = .ok b ↔ ∃ a, first = .ok a ∧ next a = .ok b := by
  cases first <;> simp [bind, Except.bind]

theorem any_isControl_eq_false {value : String} :
    value.toList.any Text.isControl = false ↔ Text.All Text.isOrdinary value := by
  simp [Text.All, Text.isOrdinary]

theorem text_eq_ok {value : String} :
    text parameters field = .ok value ↔
      first? parameters field.key = some value ∧ Text.All Text.isOrdinary value ∧
        value ≠ "" := by
  rw [← any_isControl_eq_false]
  unfold text
  cases hfirst : first? parameters field.key with
  | none => simp
  | some found =>
      dsimp only
      split
      next hcontrol =>
        simp only [reduceCtorEq, Option.some.injEq, false_iff]
        rintro ⟨rfl, hfree, -⟩
        exact absurd hcontrol (by simp [hfree])
      next hcontrol =>
        split
        next hempty =>
          simp only [reduceCtorEq, Option.some.injEq, false_iff]
          rintro ⟨rfl, -, hne⟩
          exact hne hempty
        next hempty =>
          simp only [Except.ok.injEq, Option.some.injEq]
          constructor
          · rintro rfl
            exact ⟨rfl, by simpa using hcontrol, hempty⟩
          · exact fun h => h.1

theorem number_eq_ok {value : Binary64} :
    number parameters field = .ok value ↔
      ∃ written, text parameters field = .ok written ∧
        (Binary64.read? written.toList).map Binary64.addZero = some value := by
  unfold number
  rw [bind_eq_ok]
  refine exists_congr fun written => and_congr_right fun _ => ?_
  cases Binary64.read? written.toList <;> simp

/-- A report is read exactly from a name and three numbers, the last of them not below zero.
-/
theorem ofParameters_eq_ok {report : Report} :
    ofParameters parameters = .ok report ↔
      text parameters .name = .ok report.name ∧ number parameters .x = .ok report.x ∧
        number parameters .y = .ok report.y ∧ number parameters .fuel = .ok report.fuel ∧
          report.fuel.isBelowZero = false := by
  unfold ofParameters
  simp only [bind_eq_ok]
  constructor
  · rintro ⟨name, hname, x, hx, y, hy, fuel, hfuel, h⟩
    split at h
    next => cases h
    next hbelow =>
      cases h
      exact ⟨hname, hx, hy, hfuel, by simpa using hbelow⟩
  · rintro ⟨hname, hx, hy, hfuel, hbelow⟩
    exact ⟨_, hname, _, hx, _, hy, _, hfuel, by simp [hbelow]⟩

/-- No control character stands in the name of a ship. -/
theorem all_isOrdinary_name {report : Report} (h : ofParameters parameters = .ok report) :
    Text.All Text.isOrdinary report.name :=
  (text_eq_ok.1 (ofParameters_eq_ok.1 h).1).2.1

/-! ## Rejections -/

theorem bind_eq_error {ε α β : Type} {first : Except ε α} {next : α → Except ε β}
    {e : ε} (h : (first >>= next) = .error e) :
    first = .error e ∨ ∃ a, first = .ok a ∧ next a = .error e := by
  cases first with
  | error found => exact .inl (by simpa [bind, Except.bind] using h)
  | ok a => exact .inr ⟨a, rfl, h⟩

/-- The rejections that are ever given. -/
def rejections : List Rejection :=
  [⟨.name, .missing⟩, ⟨.name, .controlCharacter⟩,
    ⟨.x, .missing⟩, ⟨.x, .controlCharacter⟩, ⟨.x, .notANumber⟩,
    ⟨.y, .missing⟩, ⟨.y, .controlCharacter⟩, ⟨.y, .notANumber⟩,
    ⟨.fuel, .missing⟩, ⟨.fuel, .controlCharacter⟩, ⟨.fuel, .notANumber⟩, ⟨.fuel, .negative⟩]

theorem text_eq_error {rejection : Rejection} (h : text parameters field = .error rejection) :
    rejection.field = field ∧
      (rejection.fault = .missing ∨ rejection.fault = .controlCharacter) := by
  unfold text at h
  cases hfirst : first? parameters field.key with
  | none =>
      simp only [hfirst, Except.error.injEq] at h
      exact h ▸ ⟨rfl, .inl rfl⟩
  | some value =>
      simp only [hfirst] at h
      split at h
      next => exact Except.error.inj h ▸ ⟨rfl, .inr rfl⟩
      next =>
        split at h
        next => exact Except.error.inj h ▸ ⟨rfl, .inl rfl⟩
        next => cases h

theorem number_eq_error {rejection : Rejection}
    (h : number parameters field = .error rejection) :
    rejection.field = field ∧ (rejection.fault = .missing ∨
      rejection.fault = .controlCharacter ∨ rejection.fault = .notANumber) := by
  rcases bind_eq_error h with h | ⟨written, -, h⟩
  · obtain ⟨hfield, hfault⟩ := text_eq_error h
    exact ⟨hfield, hfault.imp_right .inl⟩
  · cases hread : Binary64.read? written.toList with
    | some value => simp [hread] at h
    | none =>
        simp only [hread, Except.error.injEq] at h
        exact h ▸ ⟨rfl, .inr (.inr rfl)⟩

/-- A report is refused for one of twelve reasons. -/
theorem ofParameters_eq_error {rejection : Rejection}
    (h : ofParameters parameters = .error rejection) : rejection ∈ rejections := by
  obtain ⟨field, fault⟩ := rejection
  -- the fields are read in order, and the first that fails decides
  rcases bind_eq_error h with h | ⟨name, -, h⟩
  · obtain ⟨rfl, rfl | rfl⟩ := text_eq_error h <;> decide
  rcases bind_eq_error h with h | ⟨x, -, h⟩
  · obtain ⟨rfl, rfl | rfl | rfl⟩ := number_eq_error h <;> decide
  rcases bind_eq_error h with h | ⟨y, -, h⟩
  · obtain ⟨rfl, rfl | rfl | rfl⟩ := number_eq_error h <;> decide
  rcases bind_eq_error h with h | ⟨fuel, -, h⟩
  · obtain ⟨rfl, rfl | rfl | rfl⟩ := number_eq_error h <;> decide
  split at h
  next =>
    cases h
    decide
  next => cases h

/-! ## The first parameter of a name wins -/

variable {more : List (String × String)}

theorem text_congr (h : first? parameters field.key = first? more field.key) :
    text parameters field = text more field := by
  unfold text
  rw [h]

theorem number_congr (h : first? parameters field.key = first? more field.key) :
    number parameters field = number more field := by
  unfold number
  rw [text_congr h]

/-- A report depends only on the first values of its keys. -/
theorem ofParameters_congr
    (h : ∀ field : Field, first? parameters field.key = first? more field.key) :
    ofParameters parameters = ofParameters more := by
  unfold ofParameters
  rw [text_congr (h .name), number_congr (h .x), number_congr (h .y), number_congr (h .fuel)]

theorem first?_append (parameters more : List (String × String)) (key : String) :
    first? (parameters ++ more) key = (first? parameters key).or (first? more key) := by
  unfold first?
  rw [List.find?_append]
  cases parameters.find? fun parameter => parameter.1 = key <;> rfl

end Report

/-! ## Queries -/

namespace Query

theorem pieces_append (first second : List Char) :
    pieces (first ++ '&' :: second) = pieces first ++ pieces second := by
  unfold pieces List.splitOn
  rw [List.splitOnP_append_cons first second (by decide), List.filter_append]

/-- Two queries with an ampersand between them are decoded one after the other. -/
theorem pairs_append (first second : String) :
    pairs (first ++ "&" ++ second) = pairs first ++ pairs second := by
  have htext : (first ++ "&" ++ second).toList = first.toList ++ '&' :: second.toList := by simp
  unfold pairs
  rw [htext, pieces_append, List.map_append]

/-- What a query holds for a key cannot be overridden by adding to the query. -/
theorem first?_pairs_append {first : String} {key : String}
    (h : (Report.first? (pairs first) key).isSome) (second : String) :
    Report.first? (pairs (first ++ "&" ++ second)) key = Report.first? (pairs first) key := by
  obtain ⟨value, hvalue⟩ := Option.isSome_iff_exists.1 h
  rw [pairs_append, Report.first?_append, hvalue]
  rfl

end Query

end ShipTelemetry
