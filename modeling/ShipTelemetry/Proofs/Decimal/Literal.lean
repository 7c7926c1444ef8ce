import ShipTelemetry.Decimal
import ShipTelemetry.Proofs.Text.Basic

/-!
# The characters of a decimal literal

Whatever is read as a decimal literal is not empty and consists of digits, signs, points and
the letter of an exponent.  Each step of the reader sets such characters aside; what is left
in the end is nothing.
-/

namespace ShipTelemetry.Decimal

/-- A character of a decimal literal. -/
def isInLiteral (c : Char) : Bool := c.isDigit || c ∈ ['+', '-', '.', 'e', 'E']

theorem isInLiteral_of_isDigit {c : Char} (h : c.isDigit = true) : isInLiteral c = true := by
  simp [isInLiteral, h]

theorem isPrintable_of_isInLiteral {c : Char} (h : isInLiteral c = true) :
    Text.isPrintable c = true := by
  simp only [isInLiteral, Bool.or_eq_true, decide_eq_true_eq] at h
  rcases h with h | h
  · exact Text.isPrintable_of_isDigit c h
  · exact List.all_eq_true.1 (by decide) c h

/-! ## What each step sets aside -/

variable {cs : List Char} {c : Char}

theorem isInLiteral_or_mem_splitSign (hc : c ∈ cs) :
    isInLiteral c = true ∨ c ∈ (splitSign cs).2 := by
  unfold splitSign
  split
  next rest =>
    rcases List.mem_cons.1 hc with rfl | hrest
    · exact .inl (by decide)
    · exact .inr hrest
  next rest =>
    rcases List.mem_cons.1 hc with rfl | hrest
    · exact .inl (by decide)
    · exact .inr hrest
  next => exact .inr hc

theorem isInLiteral_or_mem_splitDigits (hc : c ∈ cs) :
    isInLiteral c = true ∨ c ∈ (splitDigits cs).2 := by
  rw [← List.takeWhile_append_dropWhile (p := Char.isDigit) (l := cs)] at hc
  refine (List.mem_append.1 hc).imp_left fun htaken => ?_
  exact isInLiteral_of_isDigit (List.all_eq_true.1 List.all_takeWhile c htaken)

theorem isInLiteral_or_mem_splitFraction (hc : c ∈ cs) :
    isInLiteral c = true ∨ c ∈ (splitFraction cs).2 := by
  unfold splitFraction
  split
  next rest =>
    rcases List.mem_cons.1 hc with rfl | hrest
    · exact .inl (by decide)
    · exact isInLiteral_or_mem_splitDigits hrest
  next => exact .inr hc

theorem isInLiteral_of_readExponent? {exponent : Int} (h : readExponent? cs = some exponent)
    (hc : c ∈ cs) : isInLiteral c = true := by
  cases cs with
  | nil => cases hc
  | cons letter rest =>
      rw [readExponent?] at h
      split at h
      next hletter =>
        rcases List.mem_cons.1 hc with rfl | hrest
        · rcases hletter with rfl | rfl <;> decide
        rcases isInLiteral_or_mem_splitSign hrest with hsign | hdigits
        · exact hsign
        rcases hsplit : splitSign rest with ⟨negative, digits⟩
        simp only [hsplit] at h hdigits
        split at h
        next hall => exact isInLiteral_of_isDigit (List.all_eq_true.1 hall.2 c hdigits)
        next => cases h
      next => cases h

/-! ## Whole literals -/

namespace Literal

variable {l : Literal}

theorem isInLiteral_of_read? (h : read? cs = some l) (hc : c ∈ cs) : isInLiteral c = true := by
  unfold read? at h
  -- the character was set aside by one of the steps, or stands in the exponent
  rcases isInLiteral_or_mem_splitSign hc with hdone | hunsigned
  · exact hdone
  rcases isInLiteral_or_mem_splitDigits hunsigned with hdone | hafterWhole
  · exact hdone
  rcases isInLiteral_or_mem_splitFraction hafterWhole with hdone | hafterFraction
  · exact hdone
  dsimp only at h
  split at h
  next => cases h
  next =>
    obtain ⟨exponent, hexponent, -⟩ := Option.map_eq_some_iff.1 h
    exact isInLiteral_of_readExponent? hexponent hafterFraction

theorem ne_nil_of_read? (h : read? cs = some l) : cs ≠ [] := by
  rintro rfl
  cases h

end Literal

end ShipTelemetry.Decimal
