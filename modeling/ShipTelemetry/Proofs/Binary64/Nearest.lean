import Mathlib.Algebra.Order.Field.Power
import Mathlib.Algebra.Ring.Int.Parity
import Mathlib.Data.Nat.Cast.Order.Field
import Mathlib.Data.Rat.Cast.Order
import Mathlib.Tactic.FieldSimp
import Mathlib.Tactic.Linarith
import Mathlib.Tactic.Positivity
import Mathlib.Tactic.Ring
import ShipTelemetry.Binary64

/-!
# Rounding to the nearest magnitude

A quotient of two natural numbers is rounded to the magnitude that is nearest to it, of two that
are equally near to the one with the even significand (`Magnitude.nearest?_eq_some_iff`), and there
is none exactly from `2 ^ 1024 - 2 ^ 970` on (`Magnitude.nearest?_eq_none_iff`).

## Strategy

The shift that the rounding chooses makes a grid with steps of `2 ^ shift` units.  Counted in these
steps the quotient is below `2 ^ 53`, and from `2 ^ 52` on unless the steps are single units
(`Placed`).  The nearest whole number of steps then beats every other magnitude: one with a shift
as large lies on the grid, and one with a smaller shift lies below `2 ^ 52` steps, where the
quotient does not (`Placed.nearer_or_tie`).
-/

namespace ShipTelemetry

/-! ## Whole numbers -/

/-- A quotient is rounded to a whole number that is less than a half away, or a half away and
even. -/
theorem abs_sub_roundHalfEven (num : ℕ) {den : ℕ} (hden : 0 < den) :
    |(num / den : ℚ) - roundHalfEven num den| < 1 / 2 ∨
      |(num / den : ℚ) - roundHalfEven num den| = 1 / 2 ∧ Even (roundHalfEven num den) := by
  have hpos : (0 : ℚ) < den := by exact_mod_cast hden
  obtain ⟨rest, hrest⟩ : ∃ rest : ℚ, rest = ((num % den : ℕ) : ℚ) / den := ⟨_, rfl⟩
  have hsplit : (num / den : ℚ) = (num / den : ℕ) + rest := by
    have hwhole : (num : ℚ) = den * (num / den : ℕ) + (num % den : ℕ) := by
      exact_mod_cast (Nat.div_add_mod num den).symm
    rw [hrest, div_eq_iff hpos.ne', add_mul, div_mul_cancel₀ _ hpos.ne', mul_comm]
    exact hwhole
  have hnonneg : 0 ≤ rest := hrest ▸ by positivity
  have hbelow : rest < 1 := by
    rw [hrest, div_lt_one hpos]
    exact_mod_cast Nat.mod_lt num hden
  have hlow : 2 * (num % den) < den ↔ rest < 1 / 2 := by
    rw [hrest, div_lt_div_iff₀ hpos two_pos, one_mul, mul_comm]
    exact_mod_cast Iff.rfl
  have htie : 2 * (num % den) = den ↔ rest = 1 / 2 := by
    rw [hrest, div_eq_div_iff hpos.ne' two_ne_zero, one_mul, mul_comm]
    exact_mod_cast Iff.rfl
  unfold roundHalfEven
  dsimp only
  rw [hsplit]
  split
  next h =>
    rw [hlow, htie] at h
    rw [add_sub_cancel_left, abs_of_nonneg hnonneg]
    exact h.imp_right fun h => ⟨h.1, Nat.even_iff.2 h.2⟩
  next h =>
    rw [hlow, htie, not_or, not_lt, not_and] at h
    rw [Nat.cast_succ, add_sub_add_left_eq_sub, abs_sub_comm, abs_of_nonneg (by linarith)]
    rcases h.1.lt_or_eq with hhigh | hhalf
    · exact .inl (by linarith)
    · exact .inr ⟨by linarith, Nat.even_add_one.2 (mt Nat.even_iff.1 (h.2 hhalf.symm))⟩

/-- If a whole number is no more than a half away, the others are farther, unless they are next to
it and just as far. -/
theorem abs_sub_lt_or_next {w : ℚ} {n k : ℤ} (hn : |w - n| ≤ 1 / 2) (hne : k ≠ n) :
    |w - n| < |w - k| ∨
      |w - n| = 1 / 2 ∧ |w - k| = 1 / 2 ∧ (k = n + 1 ∨ k = n - 1) := by
  rcases lt_or_ge |w - n| |w - k| with hfarther | hle
  · exact .inl hfarther
  have hbetween : |(k : ℚ) - n| ≤ |w - n| + |w - k| :=
    calc |(k : ℚ) - n| = |(w - n) - (w - k)| := by rw [sub_sub_sub_cancel_left]
      _ ≤ |w - n| + |w - k| := abs_sub _ _
  have hapart : (1 : ℚ) ≤ |(k : ℚ) - n| := by
    exact_mod_cast Int.one_le_abs (sub_ne_zero.2 hne)
  have hone : |k - n| ≤ 1 := by exact_mod_cast (by linarith : |(k : ℚ) - n| ≤ 1)
  refine .inr ⟨by linarith, by linarith, ?_⟩
  have := abs_le.1 hone
  omega

namespace Magnitude

variable {m other : Magnitude} {shift count : ℕ} {v w : ℚ}

/-! ## Units -/

theorem units_eq (m : Magnitude) : m.units = m.significand * 2 ^ m.shift := rfl

theorem significand_lt (m : Magnitude) : m.significand < 2 ^ 53 := m.fits.1

theorem shift_le (m : Magnitude) : m.shift ≤ 2045 := m.fits.2.1

theorem le_significand (h : 0 < m.shift) : 2 ^ 52 ≤ m.significand :=
  m.fits.2.2.resolve_left h.ne'

/-- A magnitude of a smaller shift lies below the grid's first normal step. -/
theorem units_lt_of_shift_lt (h : m.shift < shift) : m.units < 2 ^ 52 * 2 ^ shift :=
  calc m.units = m.significand * 2 ^ m.shift := m.units_eq
    _ < 2 ^ 53 * 2 ^ m.shift := Nat.mul_lt_mul_of_pos_right m.significand_lt (by positivity)
    _ = 2 ^ 52 * 2 ^ (m.shift + 1) := by ring
    _ ≤ 2 ^ 52 * 2 ^ shift := Nat.mul_le_mul_left _ (Nat.pow_le_pow_right two_pos h)

/-- A magnitude of a shift as large lies on the grid. -/
theorem units_of_shift_le (h : shift ≤ m.shift) :
    m.units = m.significand * 2 ^ (m.shift - shift) * 2 ^ shift := by
  rw [m.units_eq, mul_assoc, ← pow_add, Nat.sub_add_cancel h]

/-- Each magnitude has a number of units of its own. -/
theorem units_injective : Function.Injective units := by
  intro m other h
  -- of two different shifts the larger one is not zero, and then the significand is too large
  have hshift : ∀ {m other : Magnitude}, m.units = other.units → other.shift ≤ m.shift := by
    intro m other h
    by_contra hlt
    have hlt : m.shift < other.shift := not_le.1 hlt
    have hsmall := units_lt_of_shift_lt hlt
    have hnormal := le_significand (by omega : 0 < other.shift)
    have hlarge := Nat.mul_le_mul_right (2 ^ other.shift) hnormal
    rw [h, other.units_eq] at hsmall
    exact absurd hsmall (not_lt.2 hlarge)
  have heq : m.shift = other.shift := le_antisymm (hshift h.symm) (hshift h)
  obtain ⟨significand, shift, fits⟩ := m
  obtain ⟨significand', shift', fits'⟩ := other
  obtain rfl : shift = shift' := heq
  obtain rfl : significand = significand' := Nat.eq_of_mul_eq_mul_right (Nat.two_pow_pos _) h
  rfl

/-! ## The nearest magnitude -/

/-- Of all magnitudes this one is nearest to `v`, counted in units; where another one is as near,
its significand is even. -/
def IsNearest (v : ℚ) (m : Magnitude) : Prop :=
  ∀ other : Magnitude, other ≠ m → |v - m.units| < |v - other.units| ∨
    |v - m.units| = |v - other.units| ∧ Even m.significand

theorem IsNearest.abs_sub_le (h : m.IsNearest v) (other : Magnitude) :
    |v - m.units| ≤ |v - other.units| := by
  by_cases hne : other = m
  · rw [hne]
  · exact (h other hne).elim le_of_lt fun htie => htie.1.le

/-- `v` lies `w` steps of a grid above zero, and `count` is the nearest whole number of steps, the
even one in a tie.  No magnitude between two points of the grid is near. -/
structure Placed (v w : ℚ) (shift count : ℕ) : Prop where
  steps : v = w * 2 ^ shift
  fine : shift = 0 ∨ 2 ^ 52 ≤ w
  below : w < 2 ^ 53
  nearest : |w - count| < 1 / 2 ∨ |w - count| = 1 / 2 ∧ Even count

namespace Placed

theorem abs_sub_le (h : Placed v w shift count) : |w - count| ≤ 1 / 2 :=
  h.nearest.elim le_of_lt fun htie => htie.1.le

theorem lt_or_next (h : Placed v w shift count) {k : ℕ} (hne : k ≠ count) :
    |w - count| < |w - k| ∨
      |w - count| = 1 / 2 ∧ |w - k| = 1 / 2 ∧ (k = count + 1 ∨ k + 1 = count) := by
  have hle : |w - (count : ℤ)| ≤ 1 / 2 := by exact_mod_cast h.abs_sub_le
  rcases abs_sub_lt_or_next hle (by exact_mod_cast hne : (k : ℤ) ≠ count) with hless | htie
  · exact .inl (by exact_mod_cast hless)
  · obtain ⟨hcount, hk, hnext⟩ := htie
    exact .inr ⟨by exact_mod_cast hcount, by exact_mod_cast hk, by omega⟩

theorem abs_sub_le_abs_sub (h : Placed v w shift count) (k : ℕ) : |w - count| ≤ |w - k| := by
  by_cases hne : k = count
  · rw [hne]
  · exact (h.lt_or_next hne).elim le_of_lt fun htie => (htie.1.trans htie.2.1.symm).le

/-- A distance counted in units is that many steps. -/
theorem abs_sub_eq (h : Placed v w shift count) (n : ℕ) :
    |v - (n * 2 ^ shift : ℕ)| = |w - n| * 2 ^ shift := by
  have hsteps : v - (n * 2 ^ shift : ℕ) = (w - n) * 2 ^ shift := by
    rw [h.steps]
    push_cast
    ring
  rw [hsteps, abs_mul, abs_of_pos (by positivity : (0 : ℚ) < 2 ^ shift)]

theorem count_le (h : Placed v w shift count) : count ≤ 2 ^ 53 := by
  have hcount : (count : ℚ) < 2 ^ 53 + 1 := by linarith [(abs_le.1 h.abs_sub_le).1, h.below]
  have hcount : count < 2 ^ 53 + 1 := by exact_mod_cast hcount
  exact Nat.le_of_lt_succ hcount

theorem le_count (h : Placed v w shift count) (hshift : shift ≠ 0) : 2 ^ 52 ≤ count := by
  have hlarge := h.fine.resolve_left hshift
  have hcount : (2 ^ 52 : ℚ) < count + 1 := by linarith [(abs_le.1 h.abs_sub_le).2]
  have hcount : 2 ^ 52 < count + 1 := by exact_mod_cast hcount
  exact Nat.le_of_lt_succ hcount

/-- The magnitude of the nearest whole number of steps is nearer than any other, or as near as one
with an odd significand, and then its own is even. -/
theorem nearer_or_tie (h : Placed v w shift count) (hunits : m.units = count * 2 ^ shift)
    (heven : Even count → Even m.significand) (hne : other ≠ m) :
    |v - m.units| < |v - other.units| ∨
      |v - m.units| = |v - other.units| ∧ Even m.significand ∧ Odd other.significand := by
  have hpos : (0 : ℚ) < 2 ^ shift := by positivity
  rw [hunits, h.abs_sub_eq]
  rcases lt_or_ge other.shift shift with hsmaller | hlarger
  · -- below the normal steps: even their first one is nearer
    have hlarge := h.fine.resolve_left (by omega)
    have hother : (other.units : ℚ) < 2 ^ 52 * 2 ^ shift := by
      exact_mod_cast units_lt_of_shift_lt hsmaller
    have hfirst : |w - count| ≤ w - 2 ^ 52 := by
      have hnearest := h.abs_sub_le_abs_sub (2 ^ 52)
      rwa [Nat.cast_pow, Nat.cast_ofNat, abs_of_nonneg (sub_nonneg.2 hlarge)] at hnearest
    left
    calc |w - count| * 2 ^ shift ≤ (w - 2 ^ 52) * 2 ^ shift :=
          mul_le_mul_of_nonneg_right hfirst hpos.le
      _ < v - other.units := by rw [h.steps]; linarith
      _ ≤ |v - other.units| := le_abs_self _
  · -- on the grid
    have hgrid := units_of_shift_le hlarger
    obtain ⟨k, hk⟩ : ∃ k, k = other.significand * 2 ^ (other.shift - shift) := ⟨_, rfl⟩
    rw [← hk] at hgrid
    have hkne : k ≠ count := by
      rintro rfl
      exact hne (units_injective (hgrid.trans hunits.symm))
    rw [hgrid, h.abs_sub_eq]
    rcases h.lt_or_next hkne with hless | ⟨hhalf, hother, hnext⟩
    · exact .inl (mul_lt_mul_of_pos_right hless hpos)
    · have hcount : Even count := h.nearest.elim (fun hlt => absurd hhalf hlt.ne) And.right
      have hodd : Odd k := by
        rw [← Nat.not_even_iff_odd]
        intro hk
        rw [Nat.even_iff] at hk hcount
        omega
      refine .inr ⟨by rw [hhalf, hother], heven hcount, ?_⟩
      exact (Nat.odd_mul.1 (hk ▸ hodd)).1

/-- The count stays in range unless the place is within half a step of the next power of two. -/
theorem lt_half_iff (h : Placed v w shift count) : w < 2 ^ 53 - 1 / 2 ↔ count ≠ 2 ^ 53 := by
  constructor
  · rintro hw rfl
    have hlower := (abs_le.1 h.abs_sub_le).1
    rw [Nat.cast_pow, Nat.cast_ofNat] at hlower
    linarith
  · intro hne
    have hle : count + 1 ≤ 2 ^ 53 := lt_of_le_of_ne h.count_le hne
    have hcast : (count : ℚ) + 1 ≤ 2 ^ 53 := by exact_mod_cast hle
    rcases h.nearest with hless | ⟨-, heven⟩
    · linarith [(abs_lt.1 hless).2]
    · -- the last count in range is odd, so an even one is farther down
      have hodd : count + 2 ≤ 2 ^ 53 := by
        rw [Nat.even_iff] at heven
        omega
      have hcast : (count : ℚ) + 2 ≤ 2 ^ 53 := by exact_mod_cast hodd
      linarith [(abs_le.1 h.abs_sub_le).2]

/-- When a place is at least half a step below `2 ^ 53` steps of the grid with the shift `top`. -/
theorem reaches_iff (h : Placed v w shift count) (top : ℕ) :
    (2 ^ 53 - 1 / 2) * 2 ^ top ≤ v ↔ top < shift ∨ top = shift ∧ count = 2 ^ 53 := by
  have hstep : (0 : ℚ) < 2 ^ top := by positivity
  rw [h.steps]
  rcases lt_trichotomy top shift with hless | rfl | hgreater
  · have htwice : (2 ^ top * 2 : ℚ) ≤ 2 ^ shift := by
      rw [← pow_succ]
      exact pow_le_pow_right₀ one_le_two hless
    have hlarge := h.fine.resolve_left (by omega)
    refine iff_of_true ?_ (.inl hless)
    calc (2 ^ 53 - 1 / 2 : ℚ) * 2 ^ top ≤ 2 ^ 52 * (2 ^ top * 2) := by linarith
      _ ≤ w * 2 ^ shift := mul_le_mul hlarge htwice (by positivity) (by linarith)
  · rw [mul_le_mul_iff_of_pos_right hstep, ← not_lt, h.lt_half_iff, not_not]
    simp
  · have htwice : (2 ^ shift * 2 : ℚ) ≤ 2 ^ top := by
      rw [← pow_succ]
      exact pow_le_pow_right₀ one_le_two hgreater
    refine iff_of_false (not_le.2 ?_) (by omega)
    calc w * 2 ^ shift < 2 ^ 53 * 2 ^ shift := mul_lt_mul_of_pos_right h.below (by positivity)
      _ ≤ (2 ^ 53 - 1 / 2) * 2 ^ top := by linarith

end Placed

/-! ## What the rounding chooses -/

/-- A quotient has its place on the grid that the rounding chooses, and what is made of its nearest
number of steps is the result. -/
theorem exists_placed (num : ℕ) {den : ℕ} (hden : 0 < den) :
    ∃ w shift count, Placed (num / den : ℚ) w shift count ∧
      nearest? num den =
        if count = 2 ^ 53 then ofParts? (2 ^ 52) (shift + 1) else ofParts? count shift := by
  obtain ⟨whole, hwhole⟩ : ∃ whole, whole = num / den := ⟨_, rfl⟩
  obtain ⟨shift, hshift⟩ : ∃ shift, shift = whole.log2 - 52 := ⟨_, rfl⟩
  have hpos : (0 : ℚ) < den := by exact_mod_cast hden
  have hstep : (0 : ℚ) < 2 ^ shift := by positivity
  have hlower : (whole : ℚ) ≤ num / den := by
    rw [hwhole]
    exact Nat.cast_div_le
  have hupper : (num / den : ℚ) < whole + 1 := by
    rw [div_lt_iff₀ hpos, hwhole]
    exact_mod_cast Nat.lt_mul_of_div_lt (Nat.lt_succ_self _) hden
  have hw : (num / den : ℚ) = num / (den * 2 ^ shift : ℕ) * 2 ^ shift := by
    push_cast
    field_simp
  refine ⟨num / (den * 2 ^ shift : ℕ), shift, roundHalfEven num (den * 2 ^ shift), ?_, ?_⟩
  · refine ⟨hw, ?_, ?_, abs_sub_roundHalfEven num (by positivity)⟩
    · -- the shift is no larger than it must be
      by_cases hzero : shift = 0
      · exact .inl hzero
      right
      have hne : whole ≠ 0 := by
        rintro rfl
        exact hzero (by simpa using hshift)
      have hlog : 2 ^ 52 * 2 ^ shift ≤ whole := by
        rw [← pow_add, (by omega : 52 + shift = whole.log2)]
        exact Nat.log2_self_le hne
      have hlog : (2 ^ 52 * 2 ^ shift : ℚ) ≤ whole := by exact_mod_cast hlog
      exact le_of_mul_le_mul_right (hw ▸ hlog.trans hlower) hstep
    · -- and it is large enough
      have hlog : whole < 2 ^ 53 * 2 ^ shift := by
        rw [← pow_add]
        exact Nat.lt_log2_self.trans_le (Nat.pow_le_pow_right two_pos (by omega))
      have hlog : (whole + 1 : ℚ) ≤ 2 ^ 53 * 2 ^ shift := by exact_mod_cast hlog
      exact lt_of_mul_lt_mul_right (hw ▸ hupper.trans_le hlog) hstep.le
  · rw [nearest?, ← hwhole, ← hshift]
    rfl

theorem ofParts?_eq_some_iff {significand : ℕ} :
    ofParts? significand shift = some m ↔ m.significand = significand ∧ m.shift = shift := by
  unfold ofParts?
  constructor
  · intro h
    split at h
    next hfits =>
      cases h
      exact ⟨rfl, rfl⟩
    next => cases h
  · rintro ⟨rfl, rfl⟩
    rw [dif_pos m.fits]

theorem ofParts?_eq_none_iff {significand : ℕ} (hsmall : significand < 2 ^ 53)
    (hlarge : shift ≠ 0 → 2 ^ 52 ≤ significand) :
    ofParts? significand shift = none ↔ 2046 ≤ shift := by
  unfold ofParts?
  split
  next h => simp [Nat.not_le.2 (Nat.lt_succ_of_le h.2.1)]
  next h =>
    simp only [true_iff]
    by_contra hshift
    exact h ⟨hsmall, by omega, or_iff_not_imp_left.2 hlarge⟩

variable {num den : ℕ}

/-- What a quotient is rounded to is nearer to it than any other magnitude, or it is even and the
other one, just as near, is odd. -/
theorem nearer_or_tie (hden : 0 < den) (h : nearest? num den = some m) (hne : other ≠ m) :
    |(num / den : ℚ) - m.units| < |(num / den : ℚ) - other.units| ∨
      |(num / den : ℚ) - m.units| = |(num / den : ℚ) - other.units| ∧ Even m.significand ∧
        Odd other.significand := by
  obtain ⟨w, shift, count, hplaced, hresult⟩ := exists_placed num hden
  rw [hresult] at h
  split at h
  next hcarry =>
    -- the count is carried into one more bit: half as many steps twice as large
    obtain ⟨hsignificand, hshift⟩ := ofParts?_eq_some_iff.1 h
    refine hplaced.nearer_or_tie ?_ (fun _ => ?_) hne
    · rw [m.units_eq, hsignificand, hshift, hcarry]
      ring
    · rw [hsignificand]
      exact even_two.pow_of_ne_zero (by decide)
  next =>
    obtain ⟨hsignificand, hshift⟩ := ofParts?_eq_some_iff.1 h
    refine hplaced.nearer_or_tie ?_ (fun heven => hsignificand ▸ heven) hne
    rw [m.units_eq, hsignificand, hshift]

theorem isNearest_of_nearest? (hden : 0 < den) (h : nearest? num den = some m) :
    m.IsNearest (num / den : ℚ) :=
  fun _ hne => (nearer_or_tie hden h hne).imp_right fun htie => ⟨htie.1, htie.2.1⟩

/-- Nothing but the rounded magnitude is nearest. -/
theorem IsNearest.eq_of_nearest? (hden : 0 < den) (h : nearest? num den = some m)
    (hother : other.IsNearest (num / den : ℚ)) : other = m := by
  by_contra hne
  rcases nearer_or_tie hden h hne with hless | ⟨-, -, hodd⟩
  · exact absurd (hother.abs_sub_le m) (not_le.2 hless)
  · rcases hother m (Ne.symm hne) with hless | ⟨-, heven⟩
    · exact absurd ((isNearest_of_nearest? hden h).abs_sub_le other) (not_le.2 hless)
    · exact Nat.not_even_iff_odd.2 hodd heven

/-- From here on, counted in units, no magnitude is nearest. -/
def limit : ℕ := (2 ^ 54 - 1) * 2 ^ 2044

theorem limit_eq : (limit : ℚ) = (2 ^ 53 - 1 / 2) * 2 ^ 2045 := by
  have hone : 1 ≤ 2 ^ 54 := Nat.one_le_two_pow
  rw [limit, Nat.cast_mul, Nat.cast_sub hone, pow_succ' _ 2044, ← mul_assoc, Nat.cast_pow,
    Nat.cast_pow]
  congr 1
  norm_num

/-- A quotient has no nearest magnitude exactly if it reaches the limit. -/
theorem nearest?_eq_none_iff (hden : 0 < den) :
    nearest? num den = none ↔ (limit : ℚ) ≤ num / den := by
  obtain ⟨w, shift, count, hplaced, hresult⟩ := exists_placed num hden
  rw [hresult, limit_eq, hplaced.reaches_iff]
  split
  next hcarry =>
    rw [ofParts?_eq_none_iff (by norm_num) (fun _ => le_rfl)]
    omega
  next hcount =>
    rw [ofParts?_eq_none_iff (lt_of_le_of_ne hplaced.count_le hcount) hplaced.le_count]
    omega

theorem nearest?_eq_some_iff (hden : 0 < den) :
    nearest? num den = some m ↔ (num / den : ℚ) < limit ∧ m.IsNearest (num / den : ℚ) := by
  constructor
  · intro h
    refine ⟨?_, isNearest_of_nearest? hden h⟩
    rw [← not_le, ← nearest?_eq_none_iff hden, h]
    exact Option.some_ne_none m
  · rintro ⟨hbelow, hnearest⟩
    rw [← not_le, ← nearest?_eq_none_iff hden, ← ne_eq, Option.ne_none_iff_exists'] at hbelow
    obtain ⟨found, hfound⟩ := hbelow
    rw [hfound, hnearest.eq_of_nearest? hden hfound]

end Magnitude

end ShipTelemetry
