import Mathlib.Data.Nat.Digits.Lemmas
import ShipTelemetry.Proofs.Text.Basic
import ShipTelemetry.Text.Quoted

/-!
# Reading quoted texts

A quoted text is read character by character, and a `Place` says what the characters before have
begun.  Every text is read back from its quoted form (`read?_encode`), which has no control
character in it (`all_isOrdinary_encode`), so it stays on its line whatever the text is.
-/

namespace ShipTelemetry.Text.Quoted

/-! ## The reader -/

/-- What has been begun inside a quoted text. -/
inductive Place
  | plain
  | escape
  | brace
  | number (value : Nat)
deriving DecidableEq, Repr

/-- The letters of short escapes and the characters for which they stand. -/
def shortEscapes : List (Char × Char) :=
  [('"', '"'), ('\\', '\\'), ('n', '\n'), ('r', '\r'), ('t', '\t'), ('0', '\x00')]

/-- Looks at one character: what is begun after it, and the character that it completes. -/
def step? : Place → Char → Option (Place × List Char)
  | .plain, c => if c = '\\' then some (.escape, []) else some (.plain, [c])
  | .escape, c =>
      if c = 'u' then some (.brace, [])
      else (shortEscapes.lookup c).map fun meant => (.plain, [meant])
  | .brace, c => if c = '\x7b' then some (.number 0, []) else none
  | .number value, c =>
      if c = '\x7d' then some (.plain, [Char.ofNat value])
      else (hexValue? c.toNat).map fun digit => (.number (16 * value + digit), [])

/-- Reads what stands behind the opening quote, up to the closing one at the very end. -/
def readInside? : Place → List Char → Option (List Char)
  | _, [] => none
  | place, c :: rest =>
      if place = .plain ∧ c = '"' then if rest = [] then some [] else none
      else
        (step? place c).bind fun (next, completed) =>
          (readInside? next rest).map (completed ++ ·)

/-- Reads a quoted text. -/
def read? (quoted : String) : Option String :=
  match quoted.toList with
  | '"' :: inside => (readInside? .plain inside).map String.ofList
  | _ => none

example : read? "\"a\\\"\\n\\u\x7b1b\x7d\"" = some "a\"\n\x1b" := by decide +kernel

/-! ## Steps of the reader -/

/-- A step that completes no character. -/
theorem readInside?_of_silent {place next : Place} {c : Char}
    (hquote : ¬ (place = .plain ∧ c = '"')) (hstep : step? place c = some (next, []))
    (rest : List Char) : readInside? place (c :: rest) = readInside? next rest := by
  rw [readInside?, if_neg hquote, hstep, Option.bind_some]
  exact Option.map_id' ..

/-- A step that completes a character. -/
theorem readInside?_of_completed {place : Place} {c meant : Char}
    (hquote : ¬ (place = .plain ∧ c = '"')) (hstep : step? place c = some (.plain, [meant]))
    (rest : List Char) :
    readInside? place (c :: rest) = (readInside? .plain rest).map (meant :: ·) := by
  rw [readInside?, if_neg hquote, hstep, Option.bind_some]
  rfl

theorem readInside?_shortEscape {letter meant : Char}
    (hmeant : shortEscapes.lookup letter = some meant) (rest : List Char) :
    readInside? .plain ('\\' :: letter :: rest) =
      (readInside? .plain rest).map (meant :: ·) := by
  have hletter : letter ≠ 'u' := by
    rintro rfl
    cases hmeant
  have hescape : step? .escape letter = some (.plain, [meant]) := by
    simp [step?, hletter, hmeant]
  rw [readInside?_of_silent (by decide) rfl, readInside?_of_completed (by simp) hescape]

theorem readInside?_digit {value digit : Nat} (hdigit : digit < 16) (rest : List Char) :
    readInside? (.number value) (Nat.digitChar digit :: rest) =
      readInside? (.number (16 * value + digit)) rest := by
  have hbrace : ∀ n < 16, Nat.digitChar n ≠ '\x7d' := by decide
  refine readInside?_of_silent (by simp) ?_ rest
  rw [step?, if_neg (hbrace digit hdigit), hexValue?_digitChar hdigit, Option.map_some]

/-- The digits of a number, the last of them behind those of its sixteenth. -/
theorem readInside?_digits (n : Nat) (rest : List Char) :
    readInside? (.number 0) (Nat.toDigits 16 n ++ rest) = readInside? (.number n) rest := by
  induction n using Nat.strongRecOn generalizing rest with
  | ind n ih =>
    by_cases hn : n < 16
    · rw [Nat.toDigits_of_lt_base hn, List.singleton_append, readInside?_digit hn, Nat.mul_zero,
        Nat.zero_add]
    · have hdigit : n % 16 < 16 := Nat.mod_lt n (by decide)
      rw [Nat.toDigits_of_base_le (by decide) (Nat.not_lt.1 hn), List.append_assoc,
        List.singleton_append, ih (n / 16) (by omega), readInside?_digit hdigit, Nat.div_add_mod]

theorem readInside?_byNumber (c : Char) (rest : List Char) :
    readInside? .plain (byNumber c ++ rest) = (readInside? .plain rest).map (c :: ·) := by
  have hclosing : step? (.number c.toNat) '\x7d' = some (.plain, [c]) := by
    rw [step?, if_pos rfl, Char.ofNat_toNat]
  rw [byNumber, List.cons_append, List.cons_append, List.cons_append, List.append_assoc,
    readInside?_of_silent (by decide) rfl, readInside?_of_silent (by decide) rfl,
    readInside?_of_silent (by decide) rfl, readInside?_digits, List.singleton_append,
    readInside?_of_completed (by simp) hclosing]

/-! ## Reading gives back what was quoted -/

theorem readInside?_encodeChar (c : Char) (rest : List Char) :
    readInside? .plain (encodeChar c ++ rest) = (readInside? .plain rest).map (c :: ·) := by
  unfold encodeChar
  split
  next => exact readInside?_shortEscape rfl rest
  next => exact readInside?_shortEscape rfl rest
  next => exact readInside?_shortEscape rfl rest
  next => exact readInside?_shortEscape rfl rest
  next => exact readInside?_shortEscape rfl rest
  next => exact readInside?_shortEscape rfl rest
  next hquote hbackslash _ _ _ _ =>
    split
    next => exact readInside?_byNumber c rest
    next =>
      have hplain : step? .plain c = some (.plain, [c]) := if_neg hbackslash
      exact readInside?_of_completed (fun h => hquote h.2) hplain rest

theorem readInside?_flatMap (cs : List Char) :
    readInside? .plain (cs.flatMap encodeChar ++ ['"']) = some cs := by
  induction cs with
  | nil => rfl
  | cons c rest ih =>
    rw [List.flatMap_cons, List.append_assoc, readInside?_encodeChar, ih, Option.map_some]

/-- A text is read back from its quoted form. -/
theorem read?_encode (text : String) : read? (encode text) = some text := by
  unfold read? encode
  rw [String.toList_ofList]
  simp only [readInside?_flatMap, Option.map_some, String.ofList_toList]

/-! ## A quoted text stays on its line -/

theorem isUnprintable_of_isControl {c : Char} (h : isControl c = true) :
    isUnprintable c = true := by
  simp only [isControl, Bool.or_eq_true, Bool.and_eq_true, decide_eq_true_eq] at h
  refine List.any_eq_true.2 ?_
  rcases h with hlow | hhigh
  · exact ⟨(0x0, 0x1f), List.mem_cons_self, by simp; omega⟩
  · exact ⟨(0x7f, 0xa0), List.mem_cons_of_mem _ List.mem_cons_self, by simp; omega⟩

theorem isPrintable_of_mem_toDigits {n : Nat} {d : Char} (h : d ∈ Nat.toDigits 16 n) :
    isPrintable d = true := by
  have hdigit : ∀ m < 16, isPrintable (Nat.digitChar m) = true := by decide
  induction n using Nat.strongRecOn with
  | ind n ih =>
    by_cases hn : n < 16
    · rw [Nat.toDigits_of_lt_base hn, List.mem_singleton] at h
      exact h ▸ hdigit n hn
    · rw [Nat.toDigits_of_base_le (by decide) (Nat.not_lt.1 hn), List.mem_append,
        List.mem_singleton] at h
      rcases h with h | rfl
      · exact ih (n / 16) (by omega) h
      · exact hdigit _ (Nat.mod_lt n (by decide))

theorem isPrintable_of_mem_byNumber {c d : Char} (h : d ∈ byNumber c) : isPrintable d = true := by
  simp only [byNumber, List.mem_cons, List.mem_append, List.not_mem_nil, or_false] at h
  rcases h with rfl | rfl | rfl | hdigit | rfl
  · decide
  · decide
  · decide
  · exact isPrintable_of_mem_toDigits hdigit
  · decide

/-- A character is escaped with printable characters, or it prints itself. -/
theorem isOrdinary_of_mem_encodeChar {c d : Char} (h : d ∈ encodeChar c) :
    isOrdinary d = true := by
  have hescape : ∀ letter ∈ ['"', '\\', 'n', 'r', 't', '0'], d ∈ ['\\', letter] →
      isOrdinary d = true := by
    intro letter hletter hd
    simp only [List.mem_cons, List.not_mem_nil, or_false] at hletter hd
    rcases hd with rfl | rfl
    · decide
    · rcases hletter with rfl | rfl | rfl | rfl | rfl | rfl <;> decide
  unfold encodeChar at h
  split at h
  next => exact hescape _ (by decide) h
  next => exact hescape _ (by decide) h
  next => exact hescape _ (by decide) h
  next => exact hescape _ (by decide) h
  next => exact hescape _ (by decide) h
  next => exact hescape _ (by decide) h
  next =>
    split at h
    next => exact admitsPrintable_isOrdinary d (isPrintable_of_mem_byNumber h)
    next hprints =>
      obtain rfl := List.mem_singleton.1 h
      rw [isOrdinary, Bool.not_eq_true']
      exact Bool.eq_false_iff.2 fun hcontrol => hprints (isUnprintable_of_isControl hcontrol)

/-- There is no control character in a quoted text. -/
theorem all_isOrdinary_encode (text : String) : All isOrdinary (encode text) := by
  unfold encode
  rw [all_ofList]
  intro d hd
  rw [List.mem_cons, List.mem_append, List.mem_singleton] at hd
  rcases hd with rfl | hd | rfl
  · decide
  · obtain ⟨c, -, hmember⟩ := List.mem_flatMap.1 hd
    exact isOrdinary_of_mem_encodeChar hmember
  · decide

end ShipTelemetry.Text.Quoted
