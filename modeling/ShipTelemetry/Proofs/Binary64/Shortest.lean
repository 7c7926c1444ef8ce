import ShipTelemetry.Proofs.Binary64.Reading

/-!
# The shortest decimal form

A number is shown with as few significant digits as any decimal that is read as it
(`Binary64.precision_display_le`), and what is shown is read back (`Binary64.read?_display`).

## Strategy

The expansion of a magnitude is exact, and is read as it.  The numbers that are read as one
magnitude form an interval (`IsRead.between`).  So if any number that ends in so many zeros is read
as the magnitude, then one of the two next to the expansion is (`rounded?_ne_none`), and the digits
that are rounded away in the end are the most that can be.  A decimal with `k` digits ends in all
the zeros that it should, unless it lies below the place of the expansion's first digit, and then
that place itself is read as the magnitude (`pow_dvd_shortest`).
-/

namespace ShipTelemetry

namespace Magnitude

variable {m : Magnitude} {n dropped head k : ℕ}

/-! ## Decimals that read back -/

theorem units_lt_limit (m : Magnitude) : (m.units : ℚ) < limit := by
  have hsignificand : (m.significand : ℚ) + 1 ≤ 2 ^ 53 := by exact_mod_cast m.significand_lt
  rw [limit_eq, m.units_eq, Nat.cast_mul, Nat.cast_pow, Nat.cast_ofNat]
  calc (m.significand * 2 ^ m.shift : ℚ) ≤ m.significand * 2 ^ 2045 :=
        mul_le_mul_of_nonneg_left (pow_le_pow_right₀ one_le_two m.shift_le) (by positivity)
    _ < (2 ^ 53 - 1 / 2) * 2 ^ 2045 := mul_lt_mul_of_pos_right (by linarith) (by positivity)

theorem isNearest_units (m : Magnitude) : m.IsNearest m.units := by
  intro other hne
  have hunits : (m.units : ℚ) ≠ other.units :=
    Nat.cast_injective.ne (units_injective.ne (Ne.symm hne))
  rw [sub_self, abs_zero]
  exact .inl (abs_pos.2 (sub_ne_zero.2 hunits))

/-- The number with `n` in the last place of the expansion is read as `m`. -/
def IsRead (n : ℕ) (m : Magnitude) : Prop := nearest? n (Nat.pow 5 places) = some m

theorem isRead_iff :
    m.IsRead n ↔ (n / 5 ^ places : ℚ) < limit ∧ m.IsNearest (n / 5 ^ places) := by
  have hpos : 0 < 5 ^ places := by positivity
  rw [IsRead, Nat.pow_eq, nearest?_eq_some_iff hpos, Nat.cast_pow, Nat.cast_ofNat]

theorem expansion_div (m : Magnitude) : (m.expansion / 5 ^ places : ℚ) = m.units := by
  rw [expansion, Nat.pow_eq, Nat.cast_mul, Nat.cast_pow, Nat.cast_ofNat,
    mul_div_cancel_right₀ _ (by positivity)]

theorem isRead_expansion (m : Magnitude) : m.IsRead m.expansion := by
  rw [isRead_iff, expansion_div]
  exact ⟨m.units_lt_limit, m.isNearest_units⟩

theorem readsBack_iff : m.readsBack head dropped = true ↔ m.IsRead (head * 10 ^ dropped) := by
  rw [readsBack, decide_eq_true_eq]
  rfl

theorem isRead_of_isNearest {lower : ℚ} {upper : ℕ} (hlower : m.IsNearest (lower / 5 ^ places))
    (hupper : m.IsRead upper) (hle : lower ≤ n) (hge : n ≤ upper) : m.IsRead n := by
  rw [isRead_iff] at hupper ⊢
  have hle : lower / 5 ^ places ≤ n / 5 ^ places := by gcongr
  have hge : (n / 5 ^ places : ℚ) ≤ upper / 5 ^ places := by gcongr
  exact ⟨hge.trans_lt hupper.1, hlower.between hupper.2 hle hge⟩

/-- What lies between two numbers that are read as `m` is read as `m`. -/
theorem IsRead.between {lower upper : ℕ} (hlower : m.IsRead lower) (hupper : m.IsRead upper)
    (hle : lower ≤ n) (hge : n ≤ upper) : m.IsRead n :=
  isRead_of_isNearest (isRead_iff.1 hlower).2 hupper (by exact_mod_cast hle) hge

/-! ## Rounding digits away -/

/-- Rounding leaves the digits in front or one more, and what is left reads back. -/
theorem isRead_of_rounded? (h : m.rounded? dropped = some head) :
    m.IsRead (head * 10 ^ dropped) ∧ head ≤ m.expansion / 10 ^ dropped + 1 := by
  unfold rounded? at h
  dsimp only at h
  rw [Nat.pow_eq] at h
  split at h
  next hlow =>
    split at h
    next hhigh =>
      cases h
      split
      next => exact ⟨readsBack_iff.1 hlow, Nat.le_succ _⟩
      next => exact ⟨readsBack_iff.1 hhigh, le_rfl⟩
    next =>
      cases h
      exact ⟨readsBack_iff.1 hlow, Nat.le_succ _⟩
  next =>
    split at h
    next hhigh =>
      cases h
      exact ⟨readsBack_iff.1 hhigh, le_rfl⟩
    next => cases h

theorem rounded?_eq_none_iff : m.rounded? dropped = none ↔
    ¬ m.IsRead (m.expansion / 10 ^ dropped * 10 ^ dropped) ∧
      ¬ m.IsRead ((m.expansion / 10 ^ dropped + 1) * 10 ^ dropped) := by
  rw [← readsBack_iff, ← readsBack_iff]
  unfold rounded?
  dsimp only
  rw [Nat.pow_eq]
  by_cases hlow : m.readsBack (m.expansion / 10 ^ dropped) dropped = true <;>
    by_cases hhigh : m.readsBack (m.expansion / 10 ^ dropped + 1) dropped = true <;>
      simp [hlow, hhigh]

/-- If any number with so many zeros at its end reads back, then so many digits can be rounded
away: of all such numbers the two next to the expansion come first. -/
theorem rounded?_ne_none (h : m.IsRead (n * 10 ^ dropped)) : m.rounded? dropped ≠ none := by
  have hpos : 0 < 10 ^ dropped := by positivity
  rw [ne_eq, rounded?_eq_none_iff, not_and_or, not_not, not_not]
  rcases Nat.lt_or_ge (m.expansion / 10 ^ dropped) n with hhigh | hlow
  · have hle : m.expansion ≤ (m.expansion / 10 ^ dropped + 1) * 10 ^ dropped :=
      (Nat.lt_mul_of_div_lt (Nat.lt_succ_self _) hpos).le
    exact .inr (m.isRead_expansion.between h hle (Nat.mul_le_mul_right _ hhigh))
  · exact .inl
      (h.between m.isRead_expansion (Nat.mul_le_mul_right _ hlow) (Nat.div_mul_le_self _ _))

/-! ## What is left in the end -/

theorem shortened_zero (m : Magnitude) : m.shortened 0 = m.expansion := by rw [shortened]

theorem shortened_succ (m : Magnitude) (dropped : ℕ) :
    (∃ head, m.rounded? (dropped + 1) = some head ∧
      m.shortened (dropped + 1) = head * 10 ^ (dropped + 1)) ∨
      m.rounded? (dropped + 1) = none ∧ m.shortened (dropped + 1) = m.shortened dropped := by
  rw [shortened]
  cases m.rounded? (dropped + 1) with
  | none => exact .inr ⟨rfl, rfl⟩
  | some head => exact .inl ⟨head, rfl, rfl⟩

theorem isRead_shortened (m : Magnitude) (dropped : ℕ) : m.IsRead (m.shortened dropped) := by
  induction dropped with
  | zero =>
      rw [m.shortened_zero]
      exact m.isRead_expansion
  | succ dropped ih =>
      rcases m.shortened_succ dropped with ⟨head, hrounded, hresult⟩ | ⟨-, hresult⟩
      · rw [hresult]
        exact (isRead_of_rounded? hrounded).1
      · rw [hresult]
        exact ih

/-- If so many digits can be rounded away, at least as many are. -/
theorem dvd_shortened {place : ℕ} (hplace : m.rounded? place ≠ none) (hle : place ≤ dropped) :
    10 ^ place ∣ m.shortened dropped := by
  induction dropped with
  | zero =>
      obtain rfl : place = 0 := Nat.le_zero.1 hle
      exact one_dvd _
  | succ dropped ih =>
      rcases m.shortened_succ dropped with ⟨head, -, hresult⟩ | ⟨hnone, hresult⟩
      · rw [hresult]
        exact (pow_dvd_pow 10 hle).trans (Nat.dvd_mul_left _ _)
      · have hne : place ≠ dropped + 1 := fun h => hplace (h ▸ hnone)
        rw [hresult]
        exact ih (by omega)

/-- Rounding up adds a digit only if all digits were nines. -/
theorem shortened_le {length : ℕ} (hlength : m.expansion < 10 ^ length) (hle : dropped ≤ length) :
    m.shortened dropped ≤ 10 ^ length := by
  induction dropped with
  | zero =>
      rw [m.shortened_zero]
      exact hlength.le
  | succ dropped ih =>
      rcases m.shortened_succ dropped with ⟨head, hrounded, hresult⟩ | ⟨-, hresult⟩
      · have hpow : 10 ^ length = 10 ^ (length - (dropped + 1)) * 10 ^ (dropped + 1) := by
          rw [← pow_add, Nat.sub_add_cancel hle]
        have hhead : head ≤ 10 ^ (length - (dropped + 1)) := by
          refine (isRead_of_rounded? hrounded).2.trans ?_
          rw [Nat.succ_le_iff, Nat.div_lt_iff_lt_mul (by positivity), ← hpow]
          exact hlength
        rw [hresult, hpow]
        exact Nat.mul_le_mul_right _ hhead
      · rw [hresult]
        exact ih (by omega)

/-! ## No shorter decimal reads back -/

theorem expansion_ne_zero (hne : m ≠ zero) : m.expansion ≠ 0 := by
  have hunits := units_ne_zero_iff.2 hne
  rw [expansion, Nat.pow_eq]
  positivity

theorem expansion_lt (m : Magnitude) : m.expansion < 10 ^ (Decimal.digits m.expansion).length :=
  (Nat.length_toDigits_le_iff (by decide) Nat.length_toDigits_pos).1 le_rfl

theorem le_expansion (hne : m ≠ zero) :
    10 ^ ((Decimal.digits m.expansion).length - 1) ≤ m.expansion := by
  rcases Nat.eq_zero_or_pos ((Decimal.digits m.expansion).length - 1) with hzero | hpos
  · rw [hzero, pow_zero]
    exact Nat.one_le_iff_ne_zero.2 (expansion_ne_zero hne)
  · rw [← not_lt, ← Nat.length_toDigits_le_iff (by decide) hpos]
    unfold Decimal.digits at hpos ⊢
    omega

/-- A number with few digits that is read as `m` shows that all but so many digits can be rounded
away. -/
theorem pow_dvd_shortest (hne : m ≠ zero) {c : ℕ} {e : ℤ} (hc : c < 10 ^ k) (hk : 0 < k)
    (hlimit : (c * 10 ^ e / 5 ^ places : ℚ) < limit)
    (hnearest : m.IsNearest (c * 10 ^ e / 5 ^ places)) :
    10 ^ ((Decimal.digits m.expansion).length - k) ∣ m.shortest := by
  obtain ⟨length, hlength⟩ : ∃ length, length = (Decimal.digits m.expansion).length := ⟨_, rfl⟩
  have hfirst := le_expansion hne
  rw [shortest]
  rw [← hlength] at hfirst ⊢
  obtain ⟨zeros, hzeros⟩ : ∃ zeros, zeros = length - k := ⟨_, rfl⟩
  rw [← hzeros]
  rcases Nat.eq_zero_or_pos zeros with rfl | hpos
  · exact one_dvd _
  rcases le_or_gt (zeros : ℤ) e with hle | hlt
  · -- the number itself ends in so many zeros
    have hsplit : (c * 10 ^ e : ℚ) = (c * 10 ^ (e - zeros).toNat * 10 ^ zeros : ℕ) := by
      push_cast
      rw [mul_assoc, ← zpow_natCast, ← zpow_natCast, ← zpow_add₀ (by norm_num)]
      congr 2
      omega
    rw [hsplit] at hlimit hnearest
    have hread := isRead_iff.2 ⟨hlimit, hnearest⟩
    exact dvd_shortened (rounded?_ne_none hread) (by omega)
  · -- the number is no larger than the place of the first digit of the expansion
    have hbelow : (c * 10 ^ e : ℚ) ≤ (1 * 10 ^ (length - 1) : ℕ) := by
      have hc : (c : ℚ) ≤ 10 ^ k := by exact_mod_cast hc.le
      have he : (10 : ℚ) ^ e ≤ 10 ^ (zeros - 1) := by
        rw [← zpow_natCast]
        exact zpow_le_zpow_right₀ (by norm_num) (by omega)
      calc (c * 10 ^ e : ℚ) ≤ 10 ^ k * 10 ^ (zeros - 1) :=
            mul_le_mul hc he (by positivity) (by positivity)
        _ = (1 * 10 ^ (length - 1) : ℕ) := by
            rw [← pow_add, (by omega : k + (zeros - 1) = length - 1), one_mul]
            push_cast
            rfl
    have hread := isRead_of_isNearest hnearest m.isRead_expansion hbelow (by rwa [one_mul])
    exact (pow_dvd_pow 10 (by omega)).trans (dvd_shortened (rounded?_ne_none hread) le_rfl)

theorem perOne_mul_pow : (perOne * 5 ^ places : ℚ) = 10 ^ places := by
  rw [cast_perOne, places, ← mul_pow]
  norm_num only

theorem mul_perOne_eq_div (v : ℚ) : v * perOne = v * 10 ^ places / 5 ^ places := by
  rw [← perOne_mul_pow, ← mul_assoc, mul_div_cancel_right₀ _ (by positivity)]

theorem isRead_shortest (m : Magnitude) : m.IsRead m.shortest := m.isRead_shortened _

/-- What is shown of a magnitude is read as it. -/
theorem shortest_lt_limit_and_isNearest (m : Magnitude) :
    (m.shortest / 10 ^ places * perOne : ℚ) < limit ∧
      m.IsNearest (m.shortest / 10 ^ places * perOne) := by
  rw [mul_perOne_eq_div, div_mul_cancel₀ _ (by positivity)]
  exact isRead_iff.1 m.isRead_shortest

theorem isNearest_zero_ne (hne : m ≠ zero) : ¬ m.IsNearest 0 := by
  intro h
  have hle := h.abs_sub_le zero
  rw [units_zero, Nat.cast_zero, zero_sub, abs_neg, sub_zero, abs_zero] at hle
  exact units_ne_zero_iff.2 hne (Nat.cast_eq_zero.1 (abs_nonpos_iff.1 hle))

/-- All nines may be rounded up to one digit more, but no further. -/
theorem shortest_le (m : Magnitude) :
    m.shortest ≤ 10 ^ (Decimal.digits m.expansion).length :=
  shortened_le m.expansion_lt (Nat.sub_le _ _)

/-- What is shown of a magnitude has no more significant digits than any other number that is read
as it. -/
theorem hasDigits_shortest (hne : m ≠ zero) {v : ℚ} (hv : Decimal.HasDigits k v)
    (hlimit : v * perOne < limit) (hnearest : m.IsNearest (v * perOne)) :
    Decimal.HasDigits k (m.shortest / 10 ^ places) := by
  obtain ⟨c, e, hc, rfl⟩ := hv
  have hk : 0 < k := by
    by_contra hk
    obtain rfl : c = 0 := by simpa [Nat.eq_zero_of_not_pos hk] using hc
    rw [Nat.cast_zero, zero_mul, zero_mul] at hnearest
    exact isNearest_zero_ne hne hnearest
  have hshift : (c * 10 ^ e * perOne : ℚ) = c * 10 ^ (e + places) / 5 ^ places := by
    rw [mul_perOne_eq_div, zpow_add₀ (by norm_num), zpow_natCast, mul_assoc]
  rw [hshift] at hlimit hnearest
  have hle := m.shortest_le
  obtain ⟨head, hhead⟩ := pow_dvd_shortest hne hc hk hlimit hnearest
  generalize (Decimal.digits m.expansion).length = length at hle hhead
  have hhead_le : head ≤ 10 ^ k := by
    have hpos : 0 < 10 ^ (length - k) := by positivity
    refine Nat.le_of_mul_le_mul_left (hhead ▸ hle.trans ?_) hpos
    rw [← pow_add]
    exact Nat.pow_le_pow_right (by decide) (by omega)
  have hvalue : (m.shortest / 10 ^ places : ℚ) = head * 10 ^ ((length - k : ℕ) - places : ℤ) := by
    rw [hhead, zpow_sub₀ (by norm_num), zpow_natCast, zpow_natCast]
    push_cast
    ring
  rw [hvalue]
  exact Decimal.hasDigits_of_le hk hhead_le _

end Magnitude

/-! ## Writing in place -/

open Decimal (AreDigits digitsValue)

theorem areDigits_digits (n : ℕ) : AreDigits (Decimal.digits n) :=
  fun _ => Text.isDigit_of_mem_digits

theorem digitsValue_digits (n : ℕ) : digitsValue (Decimal.digits n) = n :=
  Nat.ofDigitChars_ten_toDigits

/-- Digits with a point among them or without one, and a minus in front of them or not. -/
def IsInPlace (negative : Bool) (whole fraction cs : List Char) : Prop :=
  whole ≠ [] ∧ AreDigits whole ∧ AreDigits fraction ∧
    cs = (if negative then ['-'] else []) ++
      (whole ++ if fraction = [] then [] else '.' :: fraction)

theorem IsInPlace.spellsLiteral {negative : Bool} {whole fraction cs : List Char}
    (h : IsInPlace negative whole fraction cs) :
    Decimal.SpellsLiteral { negative, whole, fraction, exponent := 0 } cs := by
  obtain ⟨hne, hwhole, hfraction, rfl⟩ := h
  have hsign : Decimal.SpellsSign negative (if negative then ['-'] else []) := by
    cases negative
    · exact .none
    · exact .minus
  have hdigits : Decimal.SpellsDigits whole fraction
      (whole ++ if fraction = [] then [] else '.' :: fraction) := by
    split
    next hempty =>
      rw [hempty, List.append_nil]
      exact .whole hne hwhole
    next => exact .both hne hwhole hfraction
  have hspells := Decimal.SpellsLiteral.literal hsign hdigits .none
  rwa [List.append_nil] at hspells

/-- The digits of `n` with zeros in front to fill the places. -/
def padded (n places : ℕ) : List Char :=
  List.replicate (places - (Decimal.digits n).length) '0' ++ Decimal.digits n

theorem length_padded {n places : ℕ} (hplaces : 0 < places) (h : n < 10 ^ places) :
    (padded n places).length = places := by
  have hle : (Decimal.digits n).length ≤ places :=
    (Nat.length_toDigits_le_iff (by decide) hplaces).2 h
  rw [padded, List.length_append, List.length_replicate, Nat.sub_add_cancel hle]

theorem digitsValue_padded (n places : ℕ) : digitsValue (padded n places) = n := by
  rw [padded, Decimal.digitsValue_append, Decimal.digitsValue_replicate, zero_mul, zero_add,
    digitsValue_digits]

theorem areDigits_padded (n places : ℕ) : AreDigits (padded n places) := by
  refine AreDigits.append (fun c hc => ?_) (areDigits_digits n)
  rw [List.eq_of_mem_replicate hc]
  rfl

theorem inPlace_eq (n places : ℕ) :
    Magnitude.inPlace n places = Decimal.digits (n / 10 ^ places) ++
      if Decimal.trimZeros (padded (n % 10 ^ places) places) = [] then []
      else '.' :: Decimal.trimZeros (padded (n % 10 ^ places) places) := rfl

/-- What is written in place has the value of the digits in these places. -/
theorem exists_inPlace (n : ℕ) {places : ℕ} (hplaces : 0 < places) :
    ∃ whole fraction, IsInPlace false whole fraction (Magnitude.inPlace n places) ∧
      (digitsValue whole + digitsValue fraction / 10 ^ fraction.length : ℚ) = n / 10 ^ places := by
  have hrest : n % 10 ^ places < 10 ^ places := Nat.mod_lt _ (by positivity)
  refine ⟨Decimal.digits (n / 10 ^ places), Decimal.trimZeros (padded (n % 10 ^ places) places),
    ⟨Nat.toDigits_ne_nil, areDigits_digits _, ?_, inPlace_eq n places⟩, ?_⟩
  · exact Decimal.areDigits_trimZeros (areDigits_padded _ _)
  · have hsplit : (n : ℚ) = 10 ^ places * (n / 10 ^ places : ℕ) + (n % 10 ^ places : ℕ) := by
      exact_mod_cast (Nat.div_add_mod n (10 ^ places)).symm
    rw [Decimal.digitsValue_trimZeros_div, length_padded hplaces hrest, digitsValue_padded,
      digitsValue_digits]
    conv_rhs => rw [hsplit]
    field_simp

/-! ## Numbers -/

namespace Binary64

open Magnitude (places)

variable {x : Binary64} {l shown : Decimal.Literal}

theorem exists_display (x : Binary64) :
    ∃ whole fraction, IsInPlace x.negative whole fraction x.display.toList ∧
      |Decimal.Literal.value { negative := x.negative, whole, fraction, exponent := 0 }| =
        x.magnitude.shortest / 10 ^ places := by
  obtain ⟨whole, fraction, ⟨hne, hwhole, hfraction, hcs⟩, hvalue⟩ :=
    exists_inPlace x.magnitude.shortest (by decide : 0 < places)
  refine ⟨whole, fraction, ⟨hne, hwhole, hfraction, ?_⟩, ?_⟩
  · rw [if_neg Bool.false_ne_true, List.nil_append] at hcs
    rw [display, String.toList_ofList, Magnitude.display, hcs]
    cases x.negative <;> rfl
  · rw [Decimal.Literal.abs_value_eq, zpow_zero, mul_one]
    exact hvalue

/-- Every number is read back from its display. -/
theorem read?_display (x : Binary64) : read? x.display.toList = some x := by
  obtain ⟨whole, fraction, hinPlace, hvalue⟩ := x.exists_display
  obtain ⟨hlimit, hnearest⟩ := x.magnitude.shortest_lt_limit_and_isNearest
  rw [← hvalue] at hlimit hnearest
  refine read?_eq_some_iff.2 ⟨_, hinPlace.spellsLiteral, abs_lt_limit_iff.2 hlimit, ?_, rfl⟩
  rw [isNearest_iff (Decimal.Literal.value_eq _) (abs_nonneg _)]
  exact ⟨hnearest, .inl rfl⟩

/-- No decimal with fewer significant digits than the display is read as the number. -/
theorem precision_display_le (hne : x.magnitude ≠ .zero)
    (hshown : Decimal.SpellsLiteral shown x.display.toList) {cs : List Char}
    (hl : Decimal.SpellsLiteral l cs) (hlimit : |l.value| < limit)
    (hnearest : x.IsNearest l.value) : shown.precision ≤ l.precision := by
  obtain ⟨whole, fraction, hinPlace, hvalue⟩ := x.exists_display
  rw [← Decimal.Literal.unique_of_spellsLiteral hinPlace.spellsLiteral hshown] at hvalue
  have hdigits := Decimal.Literal.areDigits_of_spellsLiteral hshown
  have hcoefficient : shown.coefficient ≠ 0 := by
    intro hzero
    have hshortest := x.magnitude.shortest_lt_limit_and_isNearest.2
    rw [← hvalue, shown.abs_value, hzero, Nat.cast_zero, zero_mul, zero_mul] at hshortest
    exact Magnitude.isNearest_zero_ne hne hshortest
  rw [Decimal.Literal.precision_le_iff hdigits hcoefficient, hvalue]
  refine Magnitude.hasDigits_shortest hne ?_ (abs_lt_limit_iff.1 hlimit) ?_
  · exact Decimal.Literal.hasDigits_precision (Decimal.Literal.areDigits_of_spellsLiteral hl)
  · exact ((isNearest_iff l.value_eq (abs_nonneg _)).1 hnearest).1

end Binary64

end ShipTelemetry
