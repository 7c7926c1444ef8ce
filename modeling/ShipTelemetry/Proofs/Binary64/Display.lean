import ShipTelemetry.Binary64
import ShipTelemetry.Proofs.Text.Basic

/-!
# The characters of a displayed number

The shortest decimal form of a number consists of digits, a point and a minus sign only.
-/

namespace ShipTelemetry

/-- A character of a number that is written in place. -/
def isNumeric (c : Char) : Bool := c.isDigit || c = '.' || c = '-'

theorem isNumeric_of_isDigit {c : Char} (h : c.isDigit = true) : isNumeric c = true := by
  simp [isNumeric, h]

theorem isPrintable_of_isNumeric (c : Char) (h : isNumeric c = true) :
    Text.isPrintable c = true := by
  simp only [isNumeric, Bool.or_eq_true, decide_eq_true_eq] at h
  rcases h with (h | rfl) | rfl
  · exact Text.isPrintable_of_isDigit c h
  · decide
  · decide

theorem Magnitude.isNumeric_of_mem_inPlace {n places : Nat} {c : Char}
    (h : c ∈ inPlace n places) : isNumeric c = true := by
  unfold inPlace at h
  dsimp only at h
  -- the digits before the point, the point, and the digits after it
  rcases List.mem_append.1 h with hwhole | hfraction
  · exact isNumeric_of_isDigit (Text.isDigit_of_mem_digits hwhole)
  split at hfraction
  next => cases hfraction
  next =>
    rcases List.mem_cons.1 hfraction with rfl | hdigit
    · decide
    have hpadded := List.mem_reverse.1 ((List.dropWhile_subset _) (List.mem_reverse.1 hdigit))
    rcases List.mem_append.1 hpadded with hzero | hgiven
    · rw [List.eq_of_mem_replicate hzero]
      decide
    · exact isNumeric_of_isDigit (Text.isDigit_of_mem_digits hgiven)

theorem Binary64.all_display (x : Binary64) : Text.All isNumeric x.display := by
  unfold Binary64.display
  rw [Text.all_ofList]
  intro c hc
  split at hc
  next =>
    rcases List.mem_cons.1 hc with rfl | hc
    · decide
    · exact Magnitude.isNumeric_of_mem_inPlace hc
  next => exact Magnitude.isNumeric_of_mem_inPlace hc

end ShipTelemetry
