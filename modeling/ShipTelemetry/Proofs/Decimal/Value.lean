import Mathlib.Algebra.Order.Field.Power
import Mathlib.Data.Rat.Cast.Order
import Mathlib.Tactic.FieldSimp
import Mathlib.Tactic.Linarith
import Mathlib.Tactic.Positivity
import Mathlib.Tactic.Ring
import ShipTelemetry.Proofs.Decimal.Grammar
import ShipTelemetry.Proofs.Text.Basic

/-!
# The value of a decimal literal

A run of digits has a value, zeros in front of it do not count, and each zero behind it counts
tenfold.  The value of a literal is that of its digits, shifted to where the point and the exponent
put them (`abs_value`).

A number has `k` significant digits if it is a whole number below `10 ^ k`, shifted.  The precision
of a literal, which counts its digits from the first to the last that is not zero, is the least
number of significant digits that its value has (`precision_le_iff`).
-/

namespace ShipTelemetry.Decimal

/-! ## Runs of digits -/

section Runs

variable {cs : List Char} {c : Char}

@[simp] theorem digitsValue_nil : digitsValue [] = 0 := rfl

theorem digitsValue_singleton (c : Char) : digitsValue [c] = digitValue c := by
  rw [digitsValue, Nat.ofDigitChars_cons, Nat.ofDigitChars_nil]
  exact Nat.zero_add _

theorem digitsValue_append (first second : List Char) :
    digitsValue (first ++ second) =
      digitsValue first * 10 ^ second.length + digitsValue second := by
  rw [digitsValue, Nat.ofDigitChars_append, Nat.ofDigitChars_eq_ofDigitChars_zero, mul_comm]
  rfl

theorem digitsValue_cons (c : Char) (rest : List Char) :
    digitsValue (c :: rest) = digitValue c * 10 ^ rest.length + digitsValue rest := by
  rw [← List.singleton_append, digitsValue_append, digitsValue_singleton]

theorem digitsValue_replicate (n : ℕ) : digitsValue (List.replicate n '0') = 0 := by
  rw [digitsValue, Nat.ofDigitChars_replicate_zero, mul_zero]

theorem AreDigits.append {first second : List Char} (hfirst : AreDigits first)
    (hsecond : AreDigits second) : AreDigits (first ++ second) :=
  List.forall_mem_append.2 ⟨hfirst, hsecond⟩

theorem digitValue_lt (h : c.isDigit = true) : digitValue c < 10 := by
  have hzero : '0'.toNat = 48 := rfl
  have hdigit := Text.toNat_of_isDigit h
  unfold digitValue
  omega

theorem digitValue_pos (h : c.isDigit = true) (hne : c ≠ '0') : 0 < digitValue c := by
  have hzero : '0'.toNat = 48 := rfl
  have hdigit := Text.toNat_of_isDigit h
  have hcode : c.toNat ≠ '0'.toNat := mt Char.toNat_inj.1 hne
  unfold digitValue
  omega

theorem digitsValue_lt (h : AreDigits cs) : digitsValue cs < 10 ^ cs.length := by
  induction cs with
  | nil => exact Nat.one_pos
  | cons c rest ih =>
      have hc : digitValue c ≤ 9 := Nat.le_of_lt_succ (digitValue_lt (h c List.mem_cons_self))
      have hrest := ih fun d hd => h d (List.mem_cons_of_mem c hd)
      rw [digitsValue_cons, List.length_cons, pow_succ]
      have := Nat.mul_le_mul_right (10 ^ rest.length) hc
      omega

/-- The zeros in front of a run. -/
theorem exists_zeros_append (cs : List Char) :
    ∃ n, cs = List.replicate n '0' ++ cs.dropWhile (· = '0') := by
  refine ⟨(cs.takeWhile (· = '0')).length, ?_⟩
  have hzeros : cs.takeWhile (· = '0') = List.replicate (cs.takeWhile (· = '0')).length '0' :=
    List.eq_replicate_of_mem fun c hc => by
      simpa using List.all_eq_true.1 List.all_takeWhile c hc
  rw [← hzeros, List.takeWhile_append_dropWhile]

/-- A run without the zeros at its end. -/
def trimZeros (cs : List Char) : List Char := (cs.reverse.dropWhile (· = '0')).reverse

theorem exists_append_zeros (cs : List Char) :
    ∃ n, cs = trimZeros cs ++ List.replicate n '0' := by
  obtain ⟨n, hn⟩ := exists_zeros_append cs.reverse
  refine ⟨n, ?_⟩
  rw [← List.reverse_replicate, trimZeros, ← List.reverse_append, ← hn, List.reverse_reverse]

theorem ne_zero_of_dropWhile {rest : List Char} (h : cs.dropWhile (· = '0') = c :: rest) :
    c ≠ '0' := by
  have hhead := List.head?_dropWhile_not (· = '0') cs
  simpa [h] using hhead

/-- Nothing is left to be trimmed. -/
theorem ne_zero_of_trimZeros {init : List Char} (h : trimZeros cs = init ++ [c]) : c ≠ '0' := by
  have hreverse : cs.reverse.dropWhile (· = '0') = c :: init.reverse := by
    rw [← List.reverse_reverse (cs.reverse.dropWhile _)]
    exact (congrArg List.reverse h).trans (by simp)
  exact ne_zero_of_dropWhile hreverse

theorem digitsValue_dropWhile (cs : List Char) :
    digitsValue (cs.dropWhile (· = '0')) = digitsValue cs := by
  obtain ⟨n, hn⟩ := exists_zeros_append cs
  conv_rhs => rw [hn]
  rw [digitsValue_append, digitsValue_replicate, zero_mul, zero_add]

theorem areDigits_trimZeros (h : AreDigits cs) : AreDigits (trimZeros cs) := by
  obtain ⟨n, hn⟩ := exists_append_zeros cs
  exact fun c hc => h c (hn ▸ List.mem_append_left _ hc)

/-- Each zero at the end counts tenfold. -/
theorem exists_digitsValue_eq (cs : List Char) :
    ∃ n, cs.length = (trimZeros cs).length + n ∧
      digitsValue cs = digitsValue (trimZeros cs) * 10 ^ n := by
  obtain ⟨n, hn⟩ := exists_append_zeros cs
  refine ⟨n, ?_, ?_⟩
  · conv_lhs => rw [hn]
    rw [List.length_append, List.length_replicate]
  · conv_lhs => rw [hn]
    rw [digitsValue_append, digitsValue_replicate, List.length_replicate, add_zero]

/-- Behind a point the zeros at the end do not count. -/
theorem digitsValue_trimZeros_div (cs : List Char) :
    (digitsValue (trimZeros cs) / 10 ^ (trimZeros cs).length : ℚ) =
      digitsValue cs / 10 ^ cs.length := by
  obtain ⟨n, hlength, hvalue⟩ := exists_digitsValue_eq cs
  rw [hlength, hvalue, pow_add]
  push_cast
  field_simp

/-- The first digit that is not zero tells how large a run is at least. -/
theorem pow_le_digitsValue {rest : List Char} (hdigit : c.isDigit = true) (hne : c ≠ '0') :
    10 ^ rest.length ≤ digitsValue (c :: rest) := by
  rw [digitsValue_cons]
  calc 10 ^ rest.length ≤ digitValue c * 10 ^ rest.length :=
        Nat.le_mul_of_pos_left _ (digitValue_pos hdigit hne)
    _ ≤ digitValue c * 10 ^ rest.length + digitsValue rest := Nat.le_add_right _ _

end Runs

/-- A number can be written with so many significant digits. -/
def HasDigits (k : ℕ) (v : ℚ) : Prop := ∃ c : ℕ, ∃ e : ℤ, c < 10 ^ k ∧ v = c * 10 ^ e

/-- A one with `k` zeros behind it has no more than `k` significant digits either. -/
theorem hasDigits_of_le {k c : ℕ} (hk : 0 < k) (hc : c ≤ 10 ^ k) (e : ℤ) :
    HasDigits k (c * 10 ^ e) := by
  rcases hc.lt_or_eq with hlt | rfl
  · exact ⟨c, e, hlt, rfl⟩
  · refine ⟨1, k + e, Nat.one_lt_pow hk.ne' (by decide), ?_⟩
    rw [zpow_add₀ (by norm_num), zpow_natCast, Nat.cast_one, one_mul]
    push_cast
    rfl

/-! ## Literals -/

namespace Literal

variable {l : Literal} {k : ℕ}

/-- The exact value of a literal. -/
def value (l : Literal) : ℚ :=
  (if l.negative then -1 else 1) *
    ((digitsValue l.whole + digitsValue l.fraction / 10 ^ l.fraction.length) * 10 ^ l.exponent)

theorem abs_sign (negative : Bool) : |(if negative then -1 else 1 : ℚ)| = 1 := by
  cases negative <;> simp

theorem abs_value_eq (l : Literal) :
    |l.value| =
      (digitsValue l.whole + digitsValue l.fraction / 10 ^ l.fraction.length) *
        10 ^ l.exponent := by
  rw [value, abs_mul, abs_sign, one_mul]
  exact abs_of_nonneg (by positivity)

theorem value_eq (l : Literal) : l.value = (if l.negative then -1 else 1) * |l.value| := by
  rw [abs_value_eq]
  rfl

theorem abs_value (l : Literal) : |l.value| = l.coefficient * 10 ^ l.place := by
  have hshift : (10 : ℚ) ^ l.exponent = 10 ^ l.fraction.length * 10 ^ l.place := by
    rw [← zpow_natCast, ← zpow_add₀ (by norm_num), place]
    congr 1
    omega
  rw [abs_value_eq, hshift, ← mul_assoc, coefficient, allDigits, digitsValue_append]
  congr 1
  push_cast
  field_simp

theorem areDigits_of_spellsLiteral {cs : List Char} (h : SpellsLiteral l cs) :
    AreDigits l.allDigits := by
  obtain ⟨-, hdigits, -⟩ := h
  cases hdigits with
  | whole _ hwhole => exact hwhole.append (fun _ h => absurd h List.not_mem_nil)
  | both _ hwhole hfraction => exact hwhole.append hfraction
  | fraction _ hfraction => exact hfraction

theorem digitsValue_significant (l : Literal) : digitsValue l.significant = l.coefficient :=
  digitsValue_dropWhile _

theorem areDigits_significant (h : AreDigits l.allDigits) : AreDigits l.significant :=
  fun c hc => h c (List.dropWhile_subset _ hc)

/-- The first significant digit is not zero. -/
theorem le_coefficient (h : AreDigits l.allDigits) (hne : l.significant ≠ []) :
    10 ^ (l.significant.length - 1) ≤ l.coefficient := by
  obtain ⟨first, rest, hcons⟩ := List.exists_cons_of_ne_nil hne
  rw [← digitsValue_significant, hcons]
  exact pow_le_digitsValue (areDigits_significant h first (hcons ▸ List.mem_cons_self))
    (ne_zero_of_dropWhile hcons)

theorem coefficient_lt (h : AreDigits l.allDigits) :
    l.coefficient < 10 ^ l.significant.length := by
  rw [← digitsValue_significant]
  exact digitsValue_lt (areDigits_significant h)

/-! ## Significant digits -/

/-- The digits from the first to the last that is not zero. -/
def core (l : Literal) : List Char := trimZeros l.significant

/-- The number of digits from the first to the last that is not zero. -/
def precision (l : Literal) : ℕ := l.core.length

theorem exists_abs_value_eq (l : Literal) : ∃ e : ℤ, |l.value| = digitsValue l.core * 10 ^ e := by
  obtain ⟨n, -, hcoefficient⟩ := exists_digitsValue_eq l.significant
  rw [digitsValue_significant] at hcoefficient
  refine ⟨n + l.place, ?_⟩
  rw [abs_value, hcoefficient, zpow_add₀ (by norm_num), zpow_natCast, ← mul_assoc]
  push_cast
  rfl

theorem areDigits_core (h : AreDigits l.allDigits) : AreDigits l.core :=
  areDigits_trimZeros (areDigits_significant h)

theorem hasDigits_precision (h : AreDigits l.allDigits) : HasDigits l.precision |l.value| := by
  obtain ⟨e, he⟩ := l.exists_abs_value_eq
  exact ⟨digitsValue l.core, e, digitsValue_lt (areDigits_core h), he⟩

theorem exists_core_eq_cons (hne : l.significant ≠ []) :
    ∃ first rest, l.core = first :: rest ∧ first ≠ '0' := by
  obtain ⟨n, hn⟩ := exists_append_zeros l.significant
  obtain ⟨first, rest, hcons⟩ := List.exists_cons_of_ne_nil hne
  have hfirst : first ≠ '0' := ne_zero_of_dropWhile hcons
  cases hcore : l.core with
  | nil =>
      rw [core] at hcore
      rw [hcore, List.nil_append, hcons] at hn
      exact absurd (List.eq_of_mem_replicate (hn ▸ List.mem_cons_self)) hfirst
  | cons c more =>
      rw [core] at hcore
      rw [hcore, hcons] at hn
      exact ⟨c, more, rfl, (List.cons.inj hn).1 ▸ hfirst⟩

theorem le_digitsValue_core (h : AreDigits l.allDigits) (hne : l.significant ≠ []) :
    10 ^ (l.precision - 1) ≤ digitsValue l.core := by
  obtain ⟨first, rest, hcore, hfirst⟩ := exists_core_eq_cons hne
  rw [precision, hcore]
  exact pow_le_digitsValue (areDigits_core h first (hcore ▸ List.mem_cons_self)) hfirst

theorem not_ten_dvd_core (h : AreDigits l.allDigits) (hne : l.significant ≠ []) :
    ¬ 10 ∣ digitsValue l.core := by
  obtain ⟨first, rest, hcore, -⟩ := exists_core_eq_cons hne
  have hne : l.core ≠ [] := hcore ▸ List.cons_ne_nil first rest
  have hlast := (List.dropLast_append_getLast hne).symm
  have hdigit := areDigits_core h _ (List.getLast_mem hne)
  have hpos := digitValue_pos hdigit (ne_zero_of_trimZeros hlast)
  have hlt := digitValue_lt hdigit
  rw [hlast, digitsValue_append, digitsValue_singleton, List.length_singleton]
  omega

/-- A whole number that is a shifted one is it with zeros behind it. -/
theorem eq_mul_pow_of_zpow {a b : ℕ} {d e : ℤ} (h : (a : ℚ) * 10 ^ d = b * 10 ^ e) (hle : e ≤ d) :
    b = a * 10 ^ (d - e).toNat := by
  have hten : (10 : ℚ) ≠ 0 := by norm_num
  have hsplit : (10 : ℚ) ^ d = 10 ^ (d - e).toNat * 10 ^ e := by
    rw [← zpow_natCast, ← zpow_add₀ hten]
    congr 1
    omega
  rw [hsplit, ← mul_assoc] at h
  have hcast : (a : ℚ) * 10 ^ (d - e).toNat = b := mul_right_cancel₀ (zpow_ne_zero e hten) h
  exact_mod_cast hcast.symm

/-- The precision is the least number of significant digits. -/
theorem precision_le_iff (h : AreDigits l.allDigits) (hne : l.coefficient ≠ 0) {k : ℕ} :
    l.precision ≤ k ↔ HasDigits k |l.value| := by
  constructor
  · intro hle
    obtain ⟨c, e, hc, hvalue⟩ := hasDigits_precision h
    exact ⟨c, e, hc.trans_le (Nat.pow_le_pow_right (by decide) hle), hvalue⟩
  · rintro ⟨c, e, hc, hvalue⟩
    have hsignificant : l.significant ≠ [] := by
      intro hnil
      rw [← digitsValue_significant, hnil] at hne
      exact hne rfl
    obtain ⟨d, hd⟩ := l.exists_abs_value_eq
    have hsame := hd.symm.trans hvalue
    rcases le_or_gt e d with hle | hlt
    · -- the other number is the core with zeros behind it
      have hcore : digitsValue l.core ≤ c := by
        rw [eq_mul_pow_of_zpow hsame hle]
        exact Nat.le_mul_of_pos_right _ (by positivity)
      have hpow : 10 ^ (l.precision - 1) < 10 ^ k :=
        ((le_digitsValue_core h hsignificant).trans hcore).trans_lt hc
      have := (Nat.pow_lt_pow_iff_right (by decide : 1 < 10)).1 hpow
      omega
    · -- the core would be the other number with zeros behind it, but does not end in zero
      have hcore := eq_mul_pow_of_zpow hsame.symm hlt.le
      obtain ⟨n, hn⟩ : ∃ n, (e - d).toNat = n + 1 := ⟨(e - d).toNat - 1, by omega⟩
      rw [hn, pow_succ, ← mul_assoc] at hcore
      exact absurd (hcore ▸ Nat.dvd_mul_left 10 _) (not_ten_dvd_core h hsignificant)

end Literal

end ShipTelemetry.Decimal
