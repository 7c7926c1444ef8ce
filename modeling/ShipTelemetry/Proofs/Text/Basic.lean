import Mathlib.Data.List.TakeWhile
import ShipTelemetry.Decimal
import ShipTelemetry.Text.Basic

/-!
# Characters, blanks and lines of a text

`Text.All p` says that every character of a text passes the test `p`.  Texts in the log are
put together from smaller ones, and `All` goes through every way in which that is done.

Four tests matter for the log.  A character is unbroken if it neither ends a line nor is
dropped at the end of one; it is ordinary if it is no control character; it is visible if it
is neither a blank nor an ASCII control character; and it is printable if it is an ASCII
character with a place of its own.  What the log itself adds to the texts in it is always
printable.

What `trim` takes off a text are the blanks at its two ends: nothing but blanks is taken off
(`exists_trim`), and a text that holds no blanks is what is left when blanks stand around it
(`trim_append`).

A text without line feeds and carriage returns, followed by a line feed, is exactly one line
(`lines_append_feed`).  Whatever stands before a line feed, the lines of what follows it are lines
of the whole (`lines_feed`).
-/

namespace ShipTelemetry.Text

/-! ## Tests for all characters -/

/-- Every character of a text passes a test. -/
def All (p : Char → Bool) (s : String) : Prop := ∀ c ∈ s.toList, p c = true

instance (p : Char → Bool) (s : String) : Decidable (All p s) :=
  decidable_of_iff (s.toList.all p = true) List.all_eq_true

variable {p q : Char → Bool}

theorem All.imp {s : String} (hall : All p s) (himp : ∀ c, p c = true → q c = true) :
    All q s :=
  fun c hc => himp c (hall c hc)

@[simp] theorem all_empty : All p "" := by simp [All]

@[simp] theorem all_append {s t : String} : All p (s ++ t) ↔ All p s ∧ All p t := by
  simp [All, or_imp, forall_and]

@[simp] theorem all_ofList {cs : List Char} :
    All p (String.ofList cs) ↔ ∀ c ∈ cs, p c = true := by
  simp [All]

@[simp] theorem all_join {texts : List String} :
    All p (String.join texts) ↔ ∀ s ∈ texts, All p s := by
  induction texts with
  | nil => simp
  | cons s rest ih => simp [String.join_cons, ih]

theorem all_intercalate {separator : String} {texts : List String}
    (hseparator : All p separator) (htexts : ∀ s ∈ texts, All p s) :
    All p (separator.intercalate texts) := by
  induction texts with
  | nil => simp
  | cons s rest ih =>
      have hs := htexts s List.mem_cons_self
      have hrest := ih fun t ht => htexts t (List.mem_cons_of_mem s ht)
      cases rest with
      | nil => simpa using hs
      | cons t more =>
          rw [String.intercalate_cons_cons]
          simp [hs, hseparator, hrest]

/-! ## Four tests -/

/-- The character neither ends a line nor is dropped at its end. -/
def isUnbroken (c : Char) : Bool := c ≠ '\n' && c ≠ '\r'

/-- The character is no control character. -/
def isOrdinary (c : Char) : Bool := !isControl c

/-- The character is neither a blank nor an ASCII control character. -/
def isVisible (c : Char) : Bool := 0x20 < c.toNat && c.toNat ≠ 0x7f

/-- The character is the blank or a visible ASCII character. -/
def isPrintable (c : Char) : Bool := 0x20 ≤ c.toNat && c.toNat < 0x7f

/-- The test lets all printable characters through. -/
def AdmitsPrintable (p : Char → Bool) : Prop := ∀ c, isPrintable c = true → p c = true

theorem AdmitsPrintable.literal (hp : AdmitsPrintable p) {s : String}
    (h : s.toList.all isPrintable = true) : All p s :=
  fun c hc => hp c (List.all_eq_true.1 h c hc)

theorem isUnbroken_iff {c : Char} : isUnbroken c = true ↔ c ≠ '\n' ∧ c ≠ '\r' := by
  simp [isUnbroken]

theorem isUnbroken_of_le {c : Char} (h : 0x20 ≤ c.toNat) : isUnbroken c = true := by
  rw [isUnbroken_iff]
  constructor
  · rintro rfl
    exact absurd h (by decide)
  · rintro rfl
    exact absurd h (by decide)

theorem isUnbroken_of_isVisible (c : Char) (h : isVisible c = true) : isUnbroken c = true := by
  simp only [isVisible, Bool.and_eq_true, decide_eq_true_eq] at h
  exact isUnbroken_of_le (by omega)

theorem isUnbroken_of_isOrdinary (c : Char) (h : isOrdinary c = true) : isUnbroken c = true := by
  refine isUnbroken_of_le ?_
  simp only [isOrdinary, isControl, Bool.not_eq_true', Bool.or_eq_false_iff,
    decide_eq_false_iff_not] at h
  omega

theorem admitsPrintable_isOrdinary : AdmitsPrintable isOrdinary := by
  intro c h
  simp only [isPrintable, Bool.and_eq_true, decide_eq_true_eq] at h
  simp only [isOrdinary, isControl, Bool.not_eq_true', Bool.or_eq_false_iff,
    Bool.and_eq_false_iff, decide_eq_false_iff_not]
  omega

theorem admitsPrintable_isUnbroken : AdmitsPrintable isUnbroken := by
  intro c h
  simp only [isPrintable, Bool.and_eq_true, decide_eq_true_eq] at h
  exact isUnbroken_of_le h.1

/-! ## Letters and digits -/

theorem toNat_of_isAlphanum {c : Char} (h : c.isAlphanum = true) :
    (65 ≤ c.toNat ∧ c.toNat ≤ 90) ∨ (97 ≤ c.toNat ∧ c.toNat ≤ 122) ∨
      (48 ≤ c.toNat ∧ c.toNat ≤ 57) := by
  unfold Char.isAlphanum Char.isAlpha Char.isUpper Char.isLower at h
  simpa [Char.isDigit, UInt32.le_iff_toNat_le, or_assoc] using h

theorem isPrintable_of_isAlphanum {c : Char} (h : c.isAlphanum = true) :
    isPrintable c = true := by
  have hcode := toNat_of_isAlphanum h
  simp only [isPrintable, Bool.and_eq_true, decide_eq_true_eq]
  omega

theorem isVisible_of_isAlphanum {c : Char} (h : c.isAlphanum = true) : isVisible c = true := by
  have hcode := toNat_of_isAlphanum h
  simp only [isVisible, Bool.and_eq_true, decide_eq_true_eq]
  omega

/-! ## Numbers -/

theorem isDigit_of_mem_digits {n : Nat} {c : Char} (h : c ∈ Decimal.digits n) :
    c.isDigit = true :=
  Nat.isDigit_of_mem_toDigits (by decide) (by decide) h

theorem toNat_of_isDigit {c : Char} (h : c.isDigit = true) : 48 ≤ c.toNat ∧ c.toNat ≤ 57 := by
  simpa [Char.isDigit, UInt32.le_iff_toNat_le] using h

theorem isPrintable_of_isDigit (c : Char) (h : c.isDigit = true) : isPrintable c = true := by
  have hdigit := toNat_of_isDigit h
  simp only [isPrintable, Bool.and_eq_true, decide_eq_true_eq]
  omega

theorem all_isPrintable_decimal (n : Nat) : All isPrintable (Decimal.text n) := by
  unfold Decimal.text
  rw [all_ofList]
  exact fun c hc => isPrintable_of_isDigit c (isDigit_of_mem_digits hc)

theorem isPrintable_of_mem_hexPair {n : Nat} (hn : n < 256) {c : Char} (h : c ∈ hexPair n) :
    isPrintable c = true := by
  have hdigit : ∀ m < 16, isPrintable (Nat.digitChar m) = true := by decide
  simp only [hexPair, List.mem_cons, List.not_mem_nil, or_false] at h
  rcases h with rfl | rfl
  · exact hdigit _ (by omega)
  · exact hdigit _ (by omega)

theorem hexValue?_digitChar {n : Nat} (hn : n < 16) :
    hexValue? (Nat.digitChar n).toNat = some n := by
  have hall : ∀ m < 16, hexValue? (Nat.digitChar m).toNat = some m := by decide
  exact hall n hn

/-! ## Blanks around a text -/

section

variable {before core after cs : List Char} {c : Char}

theorem isBlank_of_isDigit (h : c.isDigit = true) : isBlank c = false := by
  have hdigit := toNat_of_isDigit h
  simp [isBlank, blankRanges]
  omega

theorem dropWhile_isBlank (h : ∀ c ∈ cs, isBlank c = false) : cs.dropWhile isBlank = cs := by
  cases cs with
  | nil => rfl
  | cons c rest => exact List.dropWhile_cons_of_neg (by simp [h c List.mem_cons_self])

theorem trimEnd_append (hcore : ∀ c ∈ core, isBlank c = false)
    (hafter : ∀ c ∈ after, isBlank c = true) : trimEnd (core ++ after) = core := by
  have hblanks : ∀ c ∈ after.reverse, isBlank c = true :=
    fun c hc => hafter c (List.mem_reverse.1 hc)
  have hreverse : ∀ c ∈ core.reverse, isBlank c = false :=
    fun c hc => hcore c (List.mem_reverse.1 hc)
  rw [trimEnd, List.reverse_append, List.dropWhile_append_of_pos hblanks,
    dropWhile_isBlank hreverse, List.reverse_reverse]

theorem trim_append (hbefore : ∀ c ∈ before, isBlank c = true)
    (hcore : ∀ c ∈ core, isBlank c = false) (hafter : ∀ c ∈ after, isBlank c = true) :
    trim (before ++ core ++ after) = core := by
  rw [trim, List.append_assoc, List.dropWhile_append_of_pos hbefore]
  cases core with
  | nil =>
    -- the blanks behind are taken off from the front as well
    have hnone : after.dropWhile isBlank = [] := List.dropWhile_eq_nil_iff.2 hafter
    rw [List.nil_append, hnone]
    rfl
  | cons c rest =>
    have hc := hcore c List.mem_cons_self
    rw [List.cons_append, List.dropWhile_cons_of_neg (by simp [hc]), ← List.cons_append]
    exact trimEnd_append hcore hafter

theorem exists_trimEnd (cs : List Char) :
    ∃ after, (∀ c ∈ after, isBlank c = true) ∧ cs = trimEnd cs ++ after := by
  refine ⟨(cs.reverse.takeWhile isBlank).reverse, ?_, ?_⟩
  · intro c hc
    exact List.mem_takeWhile_imp (List.mem_reverse.1 hc)
  · rw [trimEnd, ← List.reverse_append, List.takeWhile_append_dropWhile, List.reverse_reverse]

theorem exists_trim (cs : List Char) :
    ∃ before after, (∀ c ∈ before, isBlank c = true) ∧ (∀ c ∈ after, isBlank c = true) ∧
      cs = before ++ trim cs ++ after := by
  obtain ⟨after, hafter, hend⟩ := exists_trimEnd (cs.dropWhile isBlank)
  refine ⟨cs.takeWhile isBlank, after, fun c hc => List.mem_takeWhile_imp hc, hafter, ?_⟩
  calc cs = cs.takeWhile isBlank ++ cs.dropWhile isBlank := List.takeWhile_append_dropWhile.symm
    _ = cs.takeWhile isBlank ++ (trim cs ++ after) := by rw [← trim] at hend; rw [← hend]
    _ = cs.takeWhile isBlank ++ trim cs ++ after := (List.append_assoc ..).symm

end

/-! ## Lines -/

theorem linesAfter_append_feed {line : List Char} (hline : ∀ c ∈ line, c ≠ '\n')
    (taken rest : List Char) :
    linesAfter taken (line ++ '\n' :: rest) =
      dropReturn (taken.reverse ++ line) :: linesAfter [] rest := by
  induction line generalizing taken with
  | nil => simp [linesAfter]
  | cons c more ih =>
      have hc : c ≠ '\n' := hline c List.mem_cons_self
      have hmore := ih (fun d hd => hline d (List.mem_cons_of_mem c hd)) (c :: taken)
      simpa [linesAfter, hc] using hmore

theorem dropReturn_eq_self {line : List Char} (hline : ∀ c ∈ line, c ≠ '\r') :
    dropReturn line = line := by
  unfold dropReturn
  rw [if_neg]
  intro hlast
  exact hline '\r' (List.mem_of_getLast? hlast) rfl

theorem lines_append_feed {line : String} (hline : All isUnbroken line) (rest : String) :
    lines (line ++ "\n" ++ rest) = line :: lines rest := by
  have hfeed : ∀ c ∈ line.toList, c ≠ '\n' := fun c hc => (isUnbroken_iff.1 (hline c hc)).1
  have hreturn : ∀ c ∈ line.toList, c ≠ '\r' := fun c hc => (isUnbroken_iff.1 (hline c hc)).2
  have htext : (line ++ "\n" ++ rest).toList = line.toList ++ '\n' :: rest.toList := by simp
  unfold lines
  rw [htext, linesAfter_append_feed hfeed]
  simp [dropReturn_eq_self hreturn]

theorem linesAfter_feed (taken line rest : List Char) :
    linesAfter taken (line ++ '\n' :: rest) =
      linesAfter taken (line ++ ['\n']) ++ linesAfter [] rest := by
  induction line generalizing taken with
  | nil => simp [linesAfter]
  | cons c more ih =>
      by_cases hc : c = '\n'
      · simp [linesAfter, hc, ih]
      · simp [linesAfter, hc, ih]

theorem lines_feed (text rest : String) :
    lines (text ++ "\n" ++ rest) = lines (text ++ "\n") ++ lines rest := by
  have hwhole : (text ++ "\n" ++ rest).toList = text.toList ++ '\n' :: rest.toList := by simp
  have hfirst : (text ++ "\n").toList = text.toList ++ ['\n'] := by simp
  unfold lines
  rw [hwhole, hfirst, linesAfter_feed, List.map_append]

end ShipTelemetry.Text
