import Mathlib.Algebra.Group.Nat.Defs
import ShipTelemetry.Proofs.Decimal.Numeral
import ShipTelemetry.Proofs.Text.Basic
import ShipTelemetry.Proofs.Text.Utf8
import ShipTelemetry.Settings

/-!
# Numbers in the environment

A numeric setting is the number that its variable spells, if it spells one within the limit, and
otherwise the default (`number_eq_iff`).  What spells a number is said of bytes: they are the
UTF-8 of a text that consists of a numeral and of blanks around it.  So a setting stays within
its limit, whatever its variable holds, and every number within the limit can be set: a variable
that holds its digits has it.

## Strategy

Each of the three stages of reading has a converse: bytes are decoded to a text only if they
encode it, only blanks are taken off a text, and only numerals are read.
-/

namespace ShipTelemetry

/-! ## Numerals with blanks around them -/

namespace Text

variable {cs : List Char} {limit n : Nat}

/-- A text spells a number: between the blanks at its two ends there are a plus sign or none and
one digit or more, any number of leading zeros among them. -/
inductive SpellsNumber : List Char → Nat → Prop
  | numeral {before sign digits after : List Char} : (∀ c ∈ before, isBlank c = true) →
      sign = [] ∨ sign = ['+'] → digits ≠ [] → (∀ c ∈ digits, c.isDigit = true) →
      (∀ c ∈ after, isBlank c = true) →
      SpellsNumber (before ++ (sign ++ digits) ++ after) (Nat.ofDigitChars 10 digits 0)

/-- The digits of a number spell it. -/
theorem spellsNumber_digits (n : Nat) : SpellsNumber (Decimal.digits n) n := by
  have hspells : SpellsNumber ([] ++ ([] ++ Decimal.digits n) ++ [])
      (Nat.ofDigitChars 10 (Decimal.digits n) 0) :=
    .numeral nofun (.inl rfl) Nat.toDigits_ne_nil (fun _ => isDigit_of_mem_digits) nofun
  have hvalue : Nat.ofDigitChars 10 (Decimal.digits n) 0 = n := Nat.ofDigitChars_ten_toDigits
  rw [hvalue] at hspells
  simpa using hspells

theorem SpellsNumber.readNumeral_trim (h : SpellsNumber cs n) (hn : n ≤ limit) :
    Decimal.readNumeral limit (trim cs) = .ok n := by
  obtain ⟨hbefore, hsign, hne, hdigits, hafter⟩ := h
  rename_i before sign digits after
  have hcore : ∀ c ∈ sign ++ digits, isBlank c = false := by
    intro c hc
    rcases List.mem_append.1 hc with hc | hc
    · rcases hsign with rfl | rfl
      · cases hc
      · rw [List.mem_singleton.1 hc]
        decide
    · exact isBlank_of_isDigit (hdigits c hc)
  rw [trim_append hbefore hcore hafter]
  refine Decimal.readNumeral_eq_ok_iff.2 ⟨digits, ?_, hne, hdigits, rfl, hn⟩
  rcases hsign with rfl | rfl
  · exact .inl rfl
  · exact .inr rfl

theorem spellsNumber_of_readNumeral_trim (h : Decimal.readNumeral limit (trim cs) = .ok n) :
    SpellsNumber cs n := by
  obtain ⟨digits, hform, hne, hdigits, rfl, -⟩ := Decimal.readNumeral_eq_ok_iff.1 h
  obtain ⟨before, after, hbefore, hafter, hcs⟩ := exists_trim cs
  obtain ⟨sign, hsign, hcore⟩ : ∃ sign, (sign = [] ∨ sign = ['+']) ∧ trim cs = sign ++ digits := by
    rcases hform with hform | hform
    · exact ⟨[], .inl rfl, hform⟩
    · exact ⟨['+'], .inr rfl, hform⟩
  rw [hcs, hcore]
  exact .numeral hbefore hsign hne hdigits hafter

end Text

/-! ## Variables -/

namespace Environment

variable {env : Environment} {name : String} {limit default n : Nat}

/-- A variable spells a number: it is set, and its bytes are the UTF-8 of a text that does. -/
def Spells (env : Environment) (name : String) (n : Nat) : Prop :=
  ∃ text, env.bytes? name = some (Text.Utf8.encode text) ∧ Text.SpellsNumber text n

theorem text?_eq_some_iff {text : String} :
    env.text? name = some text ↔ env.bytes? name = some (Text.Utf8.encode text.toList) := by
  unfold text?
  rw [Option.map_eq_some_iff]
  constructor
  · rintro ⟨cs, hdecoded, rfl⟩
    obtain ⟨bytes, hbytes, hcs⟩ := Option.bind_eq_some_iff.1 hdecoded
    rw [hbytes, Text.Utf8.decode?_eq_some_iff.1 hcs, String.toList_ofList]
  · intro hbytes
    refine ⟨text.toList, ?_, String.ofList_toList⟩
    rw [hbytes, Option.bind_some, Text.Utf8.decode?_encode]

/-- What a variable spells within the limit is what is read from it. -/
theorem spells_and_le_iff :
    env.Spells name n ∧ n ≤ limit ↔ ∃ text, env.text? name = some text ∧
      Decimal.readNumeral limit (Text.trim text.toList) = .ok n := by
  constructor
  · rintro ⟨⟨cs, hbytes, hspells⟩, hn⟩
    refine ⟨String.ofList cs, ?_, ?_⟩
    · rw [text?_eq_some_iff, String.toList_ofList, hbytes]
    · rw [String.toList_ofList]
      exact hspells.readNumeral_trim hn
  · rintro ⟨text, htext, hread⟩
    refine ⟨⟨text.toList, text?_eq_some_iff.1 htext, ?_⟩, Decimal.le_of_readNumeral hread⟩
    exact Text.spellsNumber_of_readNumeral_trim hread

/-- A number is what a variable spells, and the default if it spells none within the limit. -/
theorem number_eq_iff :
    env.number name limit default = n ↔
      (env.Spells name n ∧ n ≤ limit) ∨ ((∀ m, env.Spells name m → limit < m) ∧ n = default) := by
  have hread : ∀ m, env.Spells name m ∧ m ≤ limit ↔ ∃ text, env.text? name = some text ∧
      Decimal.readNumeral limit (Text.trim text.toList) = .ok m := fun _ => spells_and_le_iff
  -- nothing within the limit is spelled exactly if nothing is read
  have hnone : (∀ m, env.Spells name m → limit < m) ↔
      ∀ m, ¬ ∃ text, env.text? name = some text ∧
        Decimal.readNumeral limit (Text.trim text.toList) = .ok m := by
    refine forall_congr' fun m => ?_
    rw [← hread, not_and, not_le]
  rw [hread, hnone]
  unfold number
  cases htext : env.text? name with
  | none => simp [eq_comm]
  | some text =>
    cases hresult : Decimal.readNumeral limit (Text.trim text.toList) with
    | ok m => simp [hresult]
    | error e => simp [hresult, eq_comm]

theorem number_le (hdefault : default ≤ limit) : env.number name limit default ≤ limit := by
  rcases number_eq_iff.1 (rfl : env.number name limit default = _) with ⟨-, hn⟩ | ⟨-, hn⟩
  · exact hn
  · rw [hn]
    exact hdefault

theorem number_of_digits
    (hbytes : env.bytes? name = some (Text.Utf8.encode (Decimal.digits n))) (hn : n ≤ limit) :
    env.number name limit default = n :=
  number_eq_iff.2 (.inl ⟨⟨_, hbytes, Text.spellsNumber_digits n⟩, hn⟩)

end Environment

/-! ## Settings -/

namespace Settings

variable {days minutes : Nat}

theorem retentionDays_le (env : Environment) : retentionDays env ≤ maxCount :=
  Environment.number_le (by decide)

theorem cleanupMinutes_le (env : Environment) : cleanupMinutes env ≤ maxCount :=
  Environment.number_le (by decide)

/-- An environment in which nothing is set but a retention and an interval. -/
def cleanupEnvironment (days minutes : Nat) : Environment :=
  ⟨[("LOG_RETENTION_DAYS", Text.Utf8.encode (Decimal.digits days)),
    ("LOG_CLEANUP_INTERVAL_MINUTES", Text.Utf8.encode (Decimal.digits minutes))]⟩

theorem retentionDays_cleanupEnvironment (hdays : days ≤ maxCount) :
    retentionDays (cleanupEnvironment days minutes) = days :=
  Environment.number_of_digits rfl hdays

theorem cleanupMinutes_cleanupEnvironment (hminutes : minutes ≤ maxCount) :
    cleanupMinutes (cleanupEnvironment days minutes) = minutes :=
  Environment.number_of_digits rfl hminutes

/-- A numeric setting, and any other number in the environment, is the number that its variable
spells, whatever blanks, sign and leading zeros it is spelled with, if that number is within the
limit.  In every other case, also if the variable is not set or holds no UTF-8, it is the default.
A port is a number of 16 bits; a retention and an interval are numbers of 64 bits. -/
theorem number_as_spelled (env : Environment) :
    (∀ (name : String) (limit default n : Nat), env.number name limit default = n ↔
        (env.Spells name n ∧ n ≤ limit) ∨
          ((∀ m, env.Spells name m → limit < m) ∧ n = default)) ∧
      (∀ n < 2 ^ 16, env.Spells "PORT" n → port env = n) ∧
      (∀ n < 2 ^ 64, env.Spells "LOG_RETENTION_DAYS" n → retentionDays env = n) ∧
      ∀ n < 2 ^ 64, env.Spells "LOG_CLEANUP_INTERVAL_MINUTES" n → cleanupMinutes env = n := by
  have hport : maxPort + 1 = 2 ^ 16 := rfl
  have hcount : maxCount + 1 = 2 ^ 64 := rfl
  refine ⟨fun _ _ _ _ => Environment.number_eq_iff, ?_, ?_, ?_⟩
  · intro n hn hspells
    exact Environment.number_eq_iff.2 (.inl ⟨hspells, by omega⟩)
  · intro n hn hspells
    exact Environment.number_eq_iff.2 (.inl ⟨hspells, by omega⟩)
  · intro n hn hspells
    exact Environment.number_eq_iff.2 (.inl ⟨hspells, by omega⟩)

/-- An ideographic space, a plus sign and leading zeros around the greatest port. -/
def widePort : List Char := "\u3000+0065535\u00a0".toList

theorem number_as_spelled_wide :
    port ⟨[("PORT", Text.Utf8.encode widePort)]⟩ = 65535 ∧
      port ⟨[("PORT", Text.Utf8.encode "-0".toList)]⟩ = 8080 := by
  constructor
  · have hspells : Text.SpellsNumber (['\u3000'] ++ (['+'] ++ "0065535".toList) ++ ['\u00a0'])
        (Nat.ofDigitChars 10 "0065535".toList 0) :=
      .numeral (List.forall_mem_singleton.2 rfl) (.inr rfl) (by decide)
        (List.all_eq_true.1 (by decide)) (List.forall_mem_singleton.2 rfl)
    exact (number_as_spelled _).2.1 65535 (by decide) ⟨widePort, rfl, hspells⟩
  · refine ((number_as_spelled _).1 _ _ _ _).2 (.inr ⟨?_, rfl⟩)
    rintro m ⟨text, hbytes, hspells⟩
    -- two texts with the same bytes are the same
    have htext : text = "-0".toList := by
      have hdecoded := Text.Utf8.decode?_encode text
      rw [← Option.some.inj hbytes, Text.Utf8.decode?_encode] at hdecoded
      exact (Option.some.inj hdecoded).symm
    subst htext
    have hread := hspells.readNumeral_trim (le_refl m)
    cases hread

end Settings

end ShipTelemetry
