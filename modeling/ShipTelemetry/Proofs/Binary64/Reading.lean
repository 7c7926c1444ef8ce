import ShipTelemetry.Proofs.Binary64.Nearest
import ShipTelemetry.Proofs.Decimal.Value

/-!
# Reading a number

A text is read as the finite number that is nearest to the value of the decimal literal that it
spells, of two that are equally near as the one with the even significand
(`Binary64.read?_eq_some_iff`).  Nothing is read from `Binary64.limit` on, and below it there is
always exactly one such number (`Binary64.existsUnique_isNearest`) once minus zero is left out.

The reader looks at the size of a literal before it computes anything.  That changes nothing: what
it lets pass as zero is less than half a unit, and what it refuses is past the limit
(`Magnitude.ofLiteral?_eq_some_iff`).
-/

namespace ShipTelemetry

namespace Magnitude

variable {m other : Magnitude} {v w : ℚ}

/-! ## What is nearest -/

@[simp] theorem units_zero : zero.units = 0 := rfl

theorem units_ne_zero_iff : m.units ≠ 0 ↔ m ≠ zero :=
  (units_injective.ne_iff (x := m) (y := zero))

/-- Zero is nearest up to half a unit, the tie included. -/
theorem isNearest_zero_iff (hv : 0 ≤ v) : zero.IsNearest v ↔ v ≤ 1 / 2 := by
  rw [IsNearest, units_zero, Nat.cast_zero, sub_zero, abs_of_nonneg hv]
  constructor
  · intro h
    -- held against a single unit
    let one : Magnitude := ⟨1, 0, by decide⟩
    have hone : ((one.units : ℕ) : ℚ) = 1 := by norm_num [one, units]
    have hle : v ≤ |v - 1| := by
      rw [← hone]
      exact (h one (by decide)).elim le_of_lt fun htie => htie.1.le
    rcases le_abs.1 hle with h | h <;> linarith
  · intro hhalf other hne
    have hother : (1 : ℚ) ≤ other.units := by
      exact_mod_cast Nat.one_le_iff_ne_zero.2 (units_ne_zero_iff.2 hne)
    have hle : v ≤ |v - other.units| := by
      rw [abs_sub_comm]
      exact le_trans (by linarith) (le_abs_self _)
    exact hle.lt_or_eq.imp_right fun htie => ⟨htie, Even.zero⟩

/-- Below the limit there is exactly one nearest magnitude. -/
theorem existsUnique_isNearest (hv : 0 ≤ v) (hlimit : v < limit) :
    ∃! m : Magnitude, m.IsNearest v := by
  have hquotient : v = (v.num.toNat : ℚ) / v.den := by
    have hnum : ((v.num.toNat : ℤ) : ℚ) = v.num := by
      rw [Int.toNat_of_nonneg (Rat.num_nonneg.2 hv)]
    rw [← Int.cast_natCast, hnum, Rat.num_div_den]
  have hsome : nearest? v.num.toNat v.den ≠ none := by
    rw [ne_eq, nearest?_eq_none_iff v.den_pos, ← hquotient]
    exact not_le.2 hlimit
  obtain ⟨m, hm⟩ := Option.ne_none_iff_exists'.1 hsome
  rw [hquotient]
  exact ⟨m, isNearest_of_nearest? v.den_pos hm, fun _ hother => hother.eq_of_nearest? v.den_pos hm⟩

/-- The farther up a number lies, the more of two others the upper one gains on the lower one. -/
theorem abs_sub_sub_abs_sub_mono {a b : ℚ} (hab : a ≤ b) (hvw : v ≤ w) :
    |v - a| - |v - b| ≤ |w - a| - |w - b| := by
  rcases abs_cases (v - a) with hva | hva <;> rcases abs_cases (v - b) with hvb | hvb <;>
    rcases abs_cases (w - a) with hwa | hwa <;> rcases abs_cases (w - b) with hwb | hwb <;>
      linarith [hva.1, hvb.1, hwa.1, hwb.1]

/-- A magnitude that is nearest to two numbers is nearest to all between them. -/
theorem IsNearest.between {u : ℚ} (hlower : m.IsNearest v) (hupper : m.IsNearest w) (hvu : v ≤ u)
    (huw : u ≤ w) : m.IsNearest u := by
  intro other hne
  -- one of the two numbers speaks for `u`: the one on the other magnitude's side
  obtain ⟨x, hx, hgain⟩ : ∃ x, m.IsNearest x ∧
      |u - m.units| - |u - other.units| ≤ |x - m.units| - |x - other.units| := by
    rcases le_total m.units other.units with hle | hle
    · exact ⟨w, hupper, abs_sub_sub_abs_sub_mono (by exact_mod_cast hle) huw⟩
    · have hle : (other.units : ℚ) ≤ m.units := by exact_mod_cast hle
      have hmono := abs_sub_sub_abs_sub_mono hle hvu
      exact ⟨v, hlower, by linarith⟩
  rcases hx other hne with hless | ⟨htie, heven⟩
  · exact .inl (by linarith)
  · have hle : |u - m.units| ≤ |u - other.units| := by linarith
    exact hle.lt_or_eq.imp_right fun heq => ⟨heq, heven⟩

/-! ## Literals -/

/-- How many units make one. -/
@[irreducible]
def perOne : ℕ := Nat.pow 2 1074

theorem cast_perOne : (perOne : ℚ) = 2 ^ 1074 := by
  unfold perOne
  -- the power itself is never computed
  generalize 1074 = exponent
  rw [Nat.pow_eq, Nat.cast_pow, Nat.cast_ofNat]

theorem perOne_pos : (0 : ℚ) < perOne := by
  rw [cast_perOne]
  positivity

theorem one_le_limit : (1 : ℚ) ≤ limit := by
  rw [limit_eq]
  exact one_le_mul_of_one_le_of_one_le (by norm_num) (one_le_pow₀ one_le_two)

theorem ofDecimal?_eq (coefficient : ℕ) (place : ℤ) :
    ofDecimal? coefficient place =
      nearest? (coefficient * 10 ^ place.toNat * perOne) (10 ^ (-place).toNat) := by
  rw [← Nat.pow_eq, ← Nat.pow_eq]
  unfold ofDecimal? perOne
  rfl

theorem ten_zpow_eq_div (place : ℤ) :
    (10 : ℚ) ^ place = 10 ^ place.toNat / 10 ^ (-place).toNat := by
  rw [eq_div_iff (by positivity), ← zpow_natCast, ← zpow_natCast, ← zpow_add₀ (by norm_num)]
  congr 1
  omega

theorem ofDecimal?_eq_some_iff {coefficient : ℕ} {place : ℤ} {x : ℚ}
    (hx : x = coefficient * 10 ^ place) :
    ofDecimal? coefficient place = some m ↔ x * perOne < limit ∧ m.IsNearest (x * perOne) := by
  have hden : 0 < 10 ^ (-place).toNat := by positivity
  have hquotient : x * perOne =
      (coefficient * 10 ^ place.toNat * perOne : ℕ) / (10 ^ (-place).toNat : ℕ) := by
    rw [hx, ten_zpow_eq_div]
    push_cast
    ring
  rw [hquotient, ofDecimal?_eq, ← nearest?_eq_some_iff hden]

variable {l : Decimal.Literal} {x : ℚ}

theorem abs_value_lt_zpow (h : Decimal.AreDigits l.allDigits) :
    |l.value| < 10 ^ (l.significant.length + l.place : ℤ) := by
  have hlt : (l.coefficient : ℚ) < 10 ^ l.significant.length := by
    exact_mod_cast l.coefficient_lt h
  rw [l.abs_value, zpow_add₀ (by norm_num), zpow_natCast]
  exact mul_lt_mul_of_pos_right hlt (by positivity)

theorem zpow_le_abs_value (h : Decimal.AreDigits l.allDigits) (hne : l.significant ≠ []) :
    10 ^ (l.significant.length + l.place - 1 : ℤ) ≤ |l.value| := by
  have hlength : 1 ≤ l.significant.length := List.length_pos_of_ne_nil hne
  have hle : (10 ^ (l.significant.length - 1) : ℚ) ≤ l.coefficient := by
    exact_mod_cast l.le_coefficient h hne
  have hsplit : (l.significant.length + l.place - 1 : ℤ) =
      (l.significant.length - 1 : ℕ) + l.place := by omega
  rw [l.abs_value, hsplit, zpow_add₀ (by norm_num), zpow_natCast]
  exact mul_le_mul_of_nonneg_right hle (by positivity)

theorem perOne_mul_two_le : (perOne * 2 : ℚ) ≤ 10 ^ 325 :=
  calc (perOne * 2 : ℚ) = (2 ^ 43) ^ 25 := by rw [cast_perOne, ← pow_succ, ← pow_mul]
    _ ≤ (10 ^ 13) ^ 25 := pow_le_pow_left₀ (by positivity) (by norm_num) 25
    _ = 10 ^ 325 := by rw [← pow_mul]

theorem limit_le_pow_mul_perOne : (limit : ℚ) ≤ 10 ^ 309 * perOne := by
  have hpowers : ((2 ^ 63) ^ 16 * 2 ^ 16 : ℚ) ≤ (10 ^ 19) ^ 16 * 10 ^ 5 :=
    mul_le_mul (pow_le_pow_left₀ (by positivity) (by norm_num) 16) (by norm_num) (by positivity)
      (by positivity)
  calc (limit : ℚ) ≤ 2 ^ 53 * 2 ^ 2045 := by
        rw [limit_eq]
        exact mul_le_mul_of_nonneg_right (by norm_num) (by positivity)
    _ = (2 ^ 63) ^ 16 * 2 ^ 16 * perOne := by
        rw [cast_perOne, ← pow_mul, ← pow_add, ← pow_add, ← pow_add]
    _ ≤ (10 ^ 19) ^ 16 * 10 ^ 5 * perOne := mul_le_mul_of_nonneg_right hpowers perOne_pos.le
    _ = 10 ^ 309 * perOne := by rw [← pow_mul, ← pow_add]

/-- With 325 or more zeros after its point a number is nearer to zero than to a unit. -/
theorem mul_perOne_lt_half (hx : x < 10 ^ (-325 : ℤ)) : x * perOne < 1 / 2 := by
  have hshifted : (10 : ℚ) ^ (-325 : ℤ) = 1 / 10 ^ 325 := by
    rw [zpow_neg, one_div]
    rfl
  calc x * perOne < 1 / 10 ^ 325 * perOne := mul_lt_mul_of_pos_right (hshifted ▸ hx) perOne_pos
    _ ≤ 1 / 2 := by
      rw [one_div_mul_eq_div, div_le_div_iff₀ (by positivity) two_pos, one_mul]
      exact perOne_mul_two_le

/-- With 310 digits before its point a number is past the limit. -/
theorem limit_le_mul_perOne (hx : 10 ^ (309 : ℤ) ≤ x) : limit ≤ x * perOne :=
  limit_le_pow_mul_perOne.trans (mul_le_mul_of_nonneg_right hx perOne_pos.le)

/-- With so few digits before its point, or none but zeros, a literal is nearest to zero. -/
theorem abs_value_mul_perOne_lt_half (h : Decimal.AreDigits l.allDigits)
    (hsmall : l.significant = [] ∨ (l.significant.length : ℤ) + l.place < -324) :
    |l.value| * perOne < 1 / 2 := by
  apply mul_perOne_lt_half
  rcases hsmall with hnil | hsize
  · have hzero : l.coefficient = 0 := by
      rw [← Decimal.Literal.digitsValue_significant, hnil, Decimal.digitsValue_nil]
    rw [l.abs_value, hzero, Nat.cast_zero, zero_mul]
    positivity
  · exact (abs_value_lt_zpow h).trans_le (zpow_le_zpow_right₀ (by norm_num) (by omega))

theorem limit_le_abs_value_mul_perOne (h : Decimal.AreDigits l.allDigits)
    (hne : l.significant ≠ []) (hlarge : 310 ≤ (l.significant.length : ℤ) + l.place) :
    limit ≤ |l.value| * perOne := by
  apply limit_le_mul_perOne
  exact (zpow_le_zpow_right₀ (by norm_num) (by omega)).trans (zpow_le_abs_value h hne)

/-- A literal is rounded to the magnitude nearest to its value. -/
theorem ofLiteral?_eq_some_iff (h : Decimal.AreDigits l.allDigits) :
    ofLiteral? l = some m ↔ |l.value| * perOne < limit ∧ m.IsNearest (|l.value| * perOne) := by
  have hnonneg : 0 ≤ |l.value| * perOne := by positivity
  unfold ofLiteral?
  dsimp only
  split
  next hsmall =>
    have hhalf := abs_value_mul_perOne_lt_half h hsmall
    have hlimit : |l.value| * perOne < limit := by linarith [one_le_limit]
    have hzero := (isNearest_zero_iff hnonneg).2 hhalf.le
    constructor
    · rintro ⟨⟩
      exact ⟨hlimit, hzero⟩
    · rintro ⟨-, hnearest⟩
      rw [(existsUnique_isNearest hnonneg hlimit).unique hzero hnearest]
  next hnotSmall =>
    split
    next hlarge =>
      have hle := limit_le_abs_value_mul_perOne h (mt .inl hnotSmall) hlarge
      simp only [reduceCtorEq, false_iff, not_and]
      exact fun hlimit => absurd hle (not_le.2 hlimit)
    next => exact ofDecimal?_eq_some_iff l.abs_value

end Magnitude

namespace Binary64

open Magnitude (perOne perOne_pos)

variable {x other : Binary64} {v a : ℚ} {negative : Bool} {l : Decimal.Literal} {cs : List Char}

/-! ## Numbers with a sign -/

/-- The exact value of a number. -/
def value (x : Binary64) : ℚ := (if x.negative then -1 else 1) * (x.magnitude.units / perOne)

/-- Zero with a minus. -/
def negativeZero : Binary64 := ⟨true, .zero⟩

/-- From here on no number is nearest. -/
def limit : ℚ := 2 ^ 1024 - 2 ^ 970

theorem limit_mul_perOne : limit * perOne = Magnitude.limit := by
  have hhalf : (1 / 2 : ℚ) * 2 ^ 2045 = 2 ^ 2044 := by
    rw [pow_succ' _ 2044, one_div, inv_mul_cancel_left₀ two_ne_zero]
  rw [limit, Magnitude.limit_eq, Magnitude.cast_perOne, sub_mul, sub_mul, hhalf, ← pow_add,
    ← pow_add, ← pow_add]

/-- Of all finite numbers this one is nearest to `v`; where another one is as near, its significand
is even.  The two zeros are not told apart. -/
def IsNearest (v : ℚ) (x : Binary64) : Prop :=
  ∀ other : Binary64, other.value ≠ x.value → |v - x.value| < |v - other.value| ∨
    |v - x.value| = |v - other.value| ∧ Even x.magnitude.significand

theorem abs_value_mul_perOne (x : Binary64) : |x.value| * perOne = x.magnitude.units := by
  have hnonneg : (0 : ℚ) ≤ x.magnitude.units / perOne := by positivity
  rw [value, abs_mul, Decimal.Literal.abs_sign, one_mul, abs_of_nonneg hnonneg,
    div_mul_cancel₀ _ perOne_pos.ne']

/-- On the same side a number is as far as its magnitude is, on the other side as far as both
together. -/
theorem abs_sub_value_mul_perOne (hv : v = (if negative then -1 else 1) * a) (ha : 0 ≤ a)
    (x : Binary64) : |v - x.value| * perOne =
      if x.negative = negative then |a * perOne - x.magnitude.units|
      else a * perOne + x.magnitude.units := by
  have hpos := perOne_pos
  have hnonneg : (0 : ℚ) ≤ a * perOne + x.magnitude.units := by positivity
  have hscaled : |v - x.value| * perOne =
      |(if negative then -1 else 1) * (a * perOne) -
        (if x.negative then -1 else 1) * (x.magnitude.units : ℚ)| := by
    rw [← abs_of_pos hpos, ← abs_mul, hv, value, abs_of_pos hpos]
    congr 1
    field_simp
  rw [hscaled]
  obtain ⟨sign, magnitude⟩ := x
  cases sign <;> cases negative <;> simp only [if_true, if_false, Bool.false_eq_true, reduceCtorEq]
  · rw [one_mul, one_mul]
  · rw [abs_sub_comm, one_mul, neg_one_mul, sub_neg_eq_add, add_comm, abs_of_nonneg hnonneg]
  · rw [one_mul, neg_one_mul, sub_neg_eq_add, abs_of_nonneg hnonneg]
  · rw [neg_one_mul, neg_one_mul, neg_sub_neg, abs_sub_comm]

theorem le_abs_sub_value_mul_perOne (hv : v = (if negative then -1 else 1) * a) (ha : 0 ≤ a)
    (x : Binary64) : |a * perOne - x.magnitude.units| ≤ |v - x.value| * perOne := by
  rw [abs_sub_value_mul_perOne hv ha]
  split
  next => rfl
  next =>
    have hnonneg : 0 ≤ a * perOne := by positivity
    have hunits : (0 : ℚ) ≤ x.magnitude.units := by positivity
    exact abs_sub_le_iff.2 ⟨by linarith, by linarith⟩

theorem abs_sub_value_mul_perOne_of_agree (hv : v = (if negative then -1 else 1) * a) (ha : 0 ≤ a)
    (x : Binary64) (h : x.negative = negative ∨ x.magnitude = .zero) :
    |v - x.value| * perOne = |a * perOne - x.magnitude.units| := by
  rw [abs_sub_value_mul_perOne hv ha]
  split
  next => rfl
  next hsign =>
    have hnonneg : 0 ≤ a * perOne := by positivity
    rw [h.resolve_left hsign, Magnitude.units_zero, Nat.cast_zero, add_zero, sub_zero,
      abs_of_nonneg hnonneg]

theorem isNearest_iff_mul_perOne :
    x.IsNearest v ↔ ∀ other : Binary64, other.value ≠ x.value →
      |v - x.value| * perOne < |v - other.value| * perOne ∨
        |v - x.value| * perOne = |v - other.value| * perOne ∧ Even x.magnitude.significand := by
  simp only [mul_lt_mul_iff_of_pos_right perOne_pos, mul_left_inj' perOne_pos.ne']
  rfl

theorem value_ne_of_magnitude_ne (h : other.magnitude ≠ x.magnitude) : other.value ≠ x.value := by
  intro hvalue
  have hunits : (other.magnitude.units : ℚ) = x.magnitude.units := by
    rw [← abs_value_mul_perOne, ← abs_value_mul_perOne, hvalue]
  exact h (Magnitude.units_injective (by exact_mod_cast hunits))

theorem abs_sub_zero_units (ha : 0 ≤ a) : |a * perOne - Magnitude.zero.units| = a * perOne := by
  rw [Magnitude.units_zero, Nat.cast_zero, sub_zero, abs_of_nonneg (by positivity)]

theorem units_pos (h : x.magnitude ≠ .zero) : (0 : ℚ) < x.magnitude.units :=
  Nat.cast_pos.2 (Nat.pos_of_ne_zero (Magnitude.units_ne_zero_iff.2 h))

/-- What is nearest lies on the right side of zero: from the wrong side zero is nearer. -/
theorem IsNearest.agrees (h : x.IsNearest v) (hv : v = (if negative then -1 else 1) * a)
    (ha : 0 ≤ a) : x.negative = negative ∨ x.magnitude = .zero := by
  by_contra hnot
  rw [not_or] at hnot
  obtain ⟨hwrong, hne⟩ := hnot
  have hpos := units_pos hne
  have hless := isNearest_iff_mul_perOne.1 h ⟨negative, .zero⟩
    (value_ne_of_magnitude_ne (Ne.symm hne))
  rw [abs_sub_value_mul_perOne_of_agree hv ha ⟨negative, .zero⟩ (.inl rfl),
    abs_sub_value_mul_perOne hv ha, if_neg hwrong, abs_sub_zero_units ha] at hless
  rcases hless with hless | ⟨htie, -⟩ <;> linarith

/-- The same magnitude on the other side of zero is farther, as even zero is no nearer than the
nearest magnitude. -/
theorem lt_abs_sub_value_mul_perOne (hv : v = (if negative then -1 else 1) * a) (ha : 0 ≤ a)
    (hnearest : x.magnitude.IsNearest (a * perOne)) (hne : x.magnitude ≠ .zero)
    (hmagnitude : other.magnitude = x.magnitude) (hwrong : other.negative ≠ negative) :
    |a * perOne - x.magnitude.units| < |v - other.value| * perOne := by
  have hpos := units_pos hne
  have hle := (hnearest.abs_sub_le .zero).trans_eq (abs_sub_zero_units ha)
  rw [abs_sub_value_mul_perOne hv ha other, if_neg hwrong, hmagnitude]
  linarith

/-- A number is nearest if its magnitude is, and if it lies on the right side of zero. -/
theorem isNearest_iff (hv : v = (if negative then -1 else 1) * a) (ha : 0 ≤ a) :
    x.IsNearest v ↔ x.magnitude.IsNearest (a * perOne) ∧
      (x.negative = negative ∨ x.magnitude = .zero) := by
  constructor
  · intro h
    have hagree := h.agrees hv ha
    refine ⟨fun other hne => ?_, hagree⟩
    have hother :=
      isNearest_iff_mul_perOne.1 h ⟨negative, other⟩ (value_ne_of_magnitude_ne hne)
    rwa [abs_sub_value_mul_perOne_of_agree hv ha _ hagree,
      abs_sub_value_mul_perOne_of_agree hv ha ⟨negative, other⟩ (.inl rfl)] at hother
  · rintro ⟨hnearest, hagree⟩
    rw [isNearest_iff_mul_perOne]
    intro other hne
    rw [abs_sub_value_mul_perOne_of_agree hv ha _ hagree]
    by_cases hmagnitude : other.magnitude = x.magnitude
    · have hsign : other.negative ≠ x.negative :=
        fun hsign => hne (by rw [value, value, hsign, hmagnitude])
      have hzero : x.magnitude ≠ .zero := by
        intro hx
        apply hne
        rw [value, value, hmagnitude, hx, Magnitude.units_zero, Nat.cast_zero, zero_div, mul_zero,
          mul_zero]
      have hwrong : other.negative ≠ negative := hagree.resolve_right hzero ▸ hsign
      exact .inl (lt_abs_sub_value_mul_perOne hv ha hnearest hzero hmagnitude hwrong)
    · have hle := le_abs_sub_value_mul_perOne hv ha other
      rcases hnearest other.magnitude hmagnitude with hless | ⟨htie, heven⟩
      · exact .inl (hless.trans_le hle)
      · exact (htie.trans_le hle).lt_or_eq.imp_right fun heq => ⟨heq, heven⟩

/-! ## Reading -/

theorem ofLiteral?_eq_some_iff_magnitude :
    ofLiteral? l = some x ↔
      Magnitude.ofLiteral? l = some x.magnitude ∧ x.negative = l.negative := by
  rw [ofLiteral?, Option.map_eq_some_iff]
  constructor
  · rintro ⟨magnitude, hmagnitude, rfl⟩
    exact ⟨hmagnitude, rfl⟩
  · rintro ⟨hmagnitude, hnegative⟩
    exact ⟨x.magnitude, hmagnitude, by rw [← hnegative]⟩

theorem abs_lt_limit_iff : |v| < limit ↔ |v| * perOne < Magnitude.limit := by
  rw [← limit_mul_perOne, mul_lt_mul_iff_of_pos_right perOne_pos]

/-- A literal is read as the number nearest to its value, with its own sign. -/
theorem ofLiteral?_eq_some_iff (h : Decimal.AreDigits l.allDigits) :
    ofLiteral? l = some x ↔ |l.value| < limit ∧ x.IsNearest l.value ∧ x.negative = l.negative := by
  rw [ofLiteral?_eq_some_iff_magnitude, Magnitude.ofLiteral?_eq_some_iff h, abs_lt_limit_iff,
    isNearest_iff l.value_eq (abs_nonneg _), and_assoc, and_assoc]
  constructor
  · rintro ⟨hlimit, hnearest, hnegative⟩
    exact ⟨hlimit, hnearest, .inl hnegative, hnegative⟩
  · rintro ⟨hlimit, hnearest, -, hnegative⟩
    exact ⟨hlimit, hnearest, hnegative⟩

/-- A text is read as the number nearest to the value of the decimal literal that it spells. -/
theorem read?_eq_some_iff : read? cs = some x ↔
    ∃ l, Decimal.SpellsLiteral l cs ∧ |l.value| < limit ∧ x.IsNearest l.value ∧
      x.negative = l.negative := by
  rw [read?, Option.bind_eq_some_iff]
  refine exists_congr fun l => ?_
  rw [Decimal.Literal.read?_eq_some_iff]
  exact and_congr_right fun hspells =>
    ofLiteral?_eq_some_iff (Decimal.Literal.areDigits_of_spellsLiteral hspells)

@[simp] theorem addZero_magnitude (x : Binary64) : x.addZero.magnitude = x.magnitude := by
  unfold addZero
  split <;> rfl

theorem addZero_ne_negativeZero (x : Binary64) : x.addZero ≠ negativeZero := by
  unfold addZero negativeZero
  split
  next => simp
  next hne =>
    rintro rfl
    exact hne rfl

theorem eq_of_ne_negativeZero (h : x ≠ negativeZero) (hzero : x.magnitude = .zero) :
    x = ⟨false, .zero⟩ := by
  obtain ⟨sign, magnitude⟩ := x
  obtain rfl : magnitude = .zero := hzero
  cases sign
  · rfl
  · exact absurd rfl h

theorem addZero_of_ne (h : x ≠ negativeZero) : x.addZero = x := by
  unfold addZero
  split
  next hzero => rw [eq_of_ne_negativeZero h hzero]
  next => rfl

@[simp] theorem value_addZero (x : Binary64) : x.addZero.value = x.value := by
  unfold addZero
  split
  next hzero => simp [value, hzero]
  next => rfl

theorem isNearest_addZero : x.addZero.IsNearest v ↔ x.IsNearest v := by
  simp [IsNearest]

theorem eq_sign_mul_abs (v : ℚ) : v = (if decide (v < 0) then -1 else 1) * |v| := by
  rcases lt_or_ge v 0 with hneg | hnonneg
  · rw [decide_eq_true hneg, if_pos rfl, abs_of_neg hneg, neg_one_mul, neg_neg]
  · rw [decide_eq_false (not_lt.2 hnonneg), if_neg Bool.false_ne_true, abs_of_nonneg hnonneg,
      one_mul]

/-- Below the limit there is exactly one nearest number, if minus zero is left out. -/
theorem existsUnique_isNearest (hlimit : |v| < limit) :
    ∃! x : Binary64, x.IsNearest v ∧ x ≠ negativeZero := by
  have hnonneg : 0 ≤ |v| * perOne := by positivity
  obtain ⟨m, hm, hunique⟩ :=
    Magnitude.existsUnique_isNearest hnonneg (abs_lt_limit_iff.1 hlimit)
  obtain ⟨x, hx⟩ : ∃ x : Binary64, x = ⟨decide (v < 0), m⟩ := ⟨_, rfl⟩
  have hnearest : x.IsNearest v := by
    rw [isNearest_iff (eq_sign_mul_abs v) (abs_nonneg v), hx]
    exact ⟨hm, .inl rfl⟩
  refine ⟨x.addZero, ⟨isNearest_addZero.2 hnearest, x.addZero_ne_negativeZero⟩, ?_⟩
  rintro y ⟨hy, hne⟩
  rw [isNearest_iff (eq_sign_mul_abs v) (abs_nonneg v)] at hy
  have hmagnitude : y.magnitude = x.magnitude := by rw [hunique _ hy.1, hx]
  rcases hy.2 with hsign | hzero
  · have heq : y = x := by
      rw [hx] at hmagnitude ⊢
      obtain ⟨sign, magnitude⟩ := y
      exact congrArg₂ mk hsign hmagnitude
    rw [← heq, addZero_of_ne hne]
  · have hsame : x.addZero.magnitude = .zero := by rw [addZero_magnitude, ← hmagnitude, hzero]
    rw [eq_of_ne_negativeZero hne hzero, eq_of_ne_negativeZero x.addZero_ne_negativeZero hsame]

/-! ## Below zero -/

theorem isBelowZero_iff : x.isBelowZero = true ↔ x.negative = true ∧ x.magnitude ≠ .zero := by
  rw [isBelowZero, Bool.and_eq_true, decide_eq_true_eq]

theorem isBelowZero_iff_value : x.isBelowZero = true ↔ x.value < 0 := by
  have hpos := perOne_pos
  rw [isBelowZero_iff, ← Magnitude.units_ne_zero_iff, value]
  cases x.negative
  · have hnonneg : (0 : ℚ) ≤ x.magnitude.units / perOne := by positivity
    simpa using hnonneg
  · rw [if_pos rfl, neg_one_mul, neg_lt_zero, div_pos_iff_of_pos_right hpos, Nat.cast_pos,
      Nat.pos_iff_ne_zero]
    simp

theorem half_mul_perOne : (2 : ℚ) ^ (-1075 : ℤ) * perOne = 1 / 2 := by
  rw [Magnitude.cast_perOne, ← zpow_natCast, ← zpow_add₀ two_ne_zero]
  norm_num

theorem half_lt_limit : (2 : ℚ) ^ (-1075 : ℤ) < limit := by
  refine lt_of_mul_lt_mul_right ?_ perOne_pos.le
  rw [half_mul_perOne, limit_mul_perOne]
  linarith [Magnitude.one_le_limit]

theorem lt_half (hv : v < 10 ^ (-325 : ℤ)) : v < 2 ^ (-1075 : ℤ) := by
  refine lt_of_mul_lt_mul_right ?_ perOne_pos.le
  rw [half_mul_perOne]
  exact Magnitude.mul_perOne_lt_half hv

/-- What is nearest to a number is zero if the number is no more than half a unit away from it. -/
theorem IsNearest.magnitude_eq_zero_iff (h : x.IsNearest v) :
    x.magnitude = .zero ↔ |v| ≤ 2 ^ (-1075 : ℤ) := by
  have hnonneg : 0 ≤ |v| * perOne := by positivity
  have hnearest := ((isNearest_iff (eq_sign_mul_abs v) (abs_nonneg v)).1 h).1
  rw [← mul_le_mul_iff_of_pos_right perOne_pos, half_mul_perOne,
    ← Magnitude.isNearest_zero_iff hnonneg]
  constructor
  · exact fun hzero => hzero ▸ hnearest
  · intro hzero
    have hhalf := (Magnitude.isNearest_zero_iff hnonneg).1 hzero
    have hlimit : |v| * perOne < Magnitude.limit := by linarith [Magnitude.one_le_limit]
    exact (Magnitude.existsUnique_isNearest hnonneg hlimit).unique hnearest hzero

/-- What is nearest to a number lies below zero if the number lies more than half a unit below
it. -/
theorem IsNearest.isBelowZero_iff (h : x.IsNearest v) :
    x.isBelowZero = true ↔ v < -2 ^ (-1075 : ℤ) := by
  have hhalf : (0 : ℚ) < 2 ^ (-1075 : ℤ) := by positivity
  have hsign := ((isNearest_iff (eq_sign_mul_abs v) (abs_nonneg v)).1 h).2
  rw [Binary64.isBelowZero_iff]
  constructor
  · rintro ⟨hnegative, hne⟩
    have hdecide := hsign.resolve_right hne
    rw [ne_eq, h.magnitude_eq_zero_iff, not_le] at hne
    rw [hnegative] at hdecide
    rw [abs_of_neg (of_decide_eq_true hdecide.symm)] at hne
    linarith
  · intro hlt
    have hneg : v < 0 := by linarith
    have hne : x.magnitude ≠ .zero := by
      rw [ne_eq, h.magnitude_eq_zero_iff, not_le, abs_of_neg hneg]
      linarith
    exact ⟨(hsign.resolve_right hne).trans (decide_eq_true hneg), hne⟩

/-- A text spells a decimal literal below the limit, and `x` is the number nearest to its value.
Zero has no sign. -/
def IsReadAs (text : String) (x : Binary64) : Prop :=
  ∃ l, Decimal.SpellsLiteral l text.toList ∧ |l.value| < limit ∧ x.IsNearest l.value ∧
    x ≠ negativeZero

theorem isReadAs_iff {text : String} :
    IsReadAs text x ↔ (read? text.toList).map addZero = some x := by
  rw [Option.map_eq_some_iff]
  constructor
  · rintro ⟨l, hspells, hlimit, hnearest, hne⟩
    obtain ⟨y, hy⟩ : ∃ y : Binary64, y = ⟨l.negative, x.magnitude⟩ := ⟨_, rfl⟩
    have hsame : y.IsNearest l.value := by
      rw [isNearest_iff l.value_eq (abs_nonneg _)] at hnearest ⊢
      rw [hy]
      exact ⟨hnearest.1, .inl rfl⟩
    refine ⟨y, read?_eq_some_iff.2 ⟨l, hspells, hlimit, hsame, hy ▸ rfl⟩, ?_⟩
    exact (existsUnique_isNearest hlimit).unique
      ⟨isNearest_addZero.2 hsame, y.addZero_ne_negativeZero⟩ ⟨hnearest, hne⟩
  · rintro ⟨y, hread, rfl⟩
    obtain ⟨l, hspells, hlimit, hnearest, -⟩ := read?_eq_some_iff.1 hread
    exact ⟨l, hspells, hlimit, isNearest_addZero.2 hnearest, y.addZero_ne_negativeZero⟩

end Binary64

end ShipTelemetry
