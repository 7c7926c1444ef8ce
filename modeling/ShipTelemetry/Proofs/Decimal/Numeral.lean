import ShipTelemetry.Decimal

/-!
# What is read as a numeral

A text is a numeral within a limit if it consists of digits, with one plus sign before them or
none, and their value does not exceed the limit (`readNumeral_eq_ok_iff`).  That the reader
looks at the limit after each digit makes no difference, since the value never becomes smaller.
-/

namespace ShipTelemetry.Decimal

variable {limit n value : Nat} {cs : List Char}

theorem ofDigitChars_cons (c : Char) (rest : List Char) (value : Nat) :
    Nat.ofDigitChars 10 (c :: rest) value = Nat.ofDigitChars 10 rest (10 * value + digitValue c) :=
  Nat.ofDigitChars_cons

theorem le_ofDigitChars (value : Nat) (cs : List Char) : value ≤ Nat.ofDigitChars 10 cs value := by
  induction cs generalizing value with
  | nil => simp
  | cons c rest ih =>
      rw [ofDigitChars_cons]
      calc value ≤ 10 * value + digitValue c := by omega
        _ ≤ Nat.ofDigitChars 10 rest (10 * value + digitValue c) := ih _

theorem readDigits_eq_ok_iff (hvalue : value ≤ limit) :
    readDigits limit value cs = .ok n ↔
      (∀ c ∈ cs, c.isDigit = true) ∧ Nat.ofDigitChars 10 cs value = n ∧ n ≤ limit := by
  induction cs generalizing value with
  | nil =>
      rw [readDigits, Nat.ofDigitChars_nil]
      constructor
      · rintro ⟨rfl⟩
        exact ⟨by simp, rfl, hvalue⟩
      · rintro ⟨-, rfl, -⟩
        rfl
  | cons c rest ih =>
      rw [readDigits, ofDigitChars_cons, List.forall_mem_cons]
      by_cases hdigit : c.isDigit = true
      · by_cases hnext : 10 * value + digitValue c ≤ limit
        · simpa [hdigit, hnext] using ih hnext
        · -- the value is too large already, and digits to come do not make it smaller
          have hle := le_ofDigitChars (10 * value + digitValue c) rest
          simp only [hdigit, hnext, if_true, if_false, reduceCtorEq, false_iff, not_and]
          rintro - rfl
          exact fun hlimit => hnext (Nat.le_trans hle hlimit)
      · simp [hdigit]

theorem readNumeral_eq_ok_iff :
    readNumeral limit cs = .ok n ↔
      ∃ digits, (cs = digits ∨ cs = '+' :: digits) ∧ digits ≠ [] ∧
        (∀ c ∈ digits, c.isDigit = true) ∧ Nat.ofDigitChars 10 digits 0 = n ∧ n ≤ limit := by
  have hplus : ¬ '+'.isDigit = true := by decide
  unfold readNumeral
  split
  next => simp
  next =>
    constructor
    · rintro ⟨⟩
    · rintro ⟨digits, rfl | hsigned, hne, hdigits, -⟩
      · exact absurd (hdigits '+' List.mem_cons_self) hplus
      · exact absurd (List.cons.inj hsigned).2.symm hne
  next rest hrest =>
    rw [readDigits_eq_ok_iff (Nat.zero_le limit)]
    constructor
    · intro h
      exact ⟨rest, .inr rfl, fun hnil => hrest (hnil ▸ rfl), h⟩
    · rintro ⟨digits, rfl | hsigned, -, hdigits, h⟩
      · exact absurd (hdigits '+' List.mem_cons_self) hplus
      · obtain rfl := (List.cons.inj hsigned).2
        exact ⟨hdigits, h⟩
  next hne hsign hsigned =>
    rw [readDigits_eq_ok_iff (Nat.zero_le limit)]
    constructor
    · intro h
      exact ⟨cs, .inl rfl, hne, h⟩
    · rintro ⟨digits, rfl | rfl, -, h⟩
      · exact h
      · exact absurd rfl (hsigned digits)

theorem le_of_readNumeral (h : readNumeral limit cs = .ok n) : n ≤ limit := by
  obtain ⟨digits, -, -, -, -, hle⟩ := readNumeral_eq_ok_iff.1 h
  exact hle

end ShipTelemetry.Decimal
