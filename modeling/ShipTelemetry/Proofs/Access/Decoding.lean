import ShipTelemetry.Access
import ShipTelemetry.Proofs.Log.Record

/-!
# Decoding the text of an access entry

The path in an access entry is not quoted, and it may hold whatever follows it there: blanks,
arrows, and even the end of another entry.  An entry can be decoded from its text all the same,
because the blanks around the path are found from the two ends.

## Strategy

Three words stand behind the path: the arrow, the status, and the duration in its parentheses.
None of them holds a blank, so they are cut off as the last three words of the text, whatever
stands in the path (`cutLastWord_append`).  In what is left the method is the first word, because
there is no blank in the name of a method, and the path is the rest.

What the reader has found it writes again and compares with the text.  So it accepts nothing but
texts of entries, and `read?_eq_some_iff` is about all texts.
-/

namespace ShipTelemetry

/-! ## The last word -/

/-- The last word of a text, and what stands in front of the blank before it. -/
def Log.cutLastWord (cs : List Char) : List Char × List Char :=
  let (word, front) := cutWord cs.reverse
  (front.reverse, word.reverse)

theorem Log.cutLastWord_append {word : List Char} (hword : ∀ c ∈ word, isInWord c = true)
    (front : List Char) : cutLastWord (front ++ ' ' :: word) = (front, word) := by
  have hreversed : (front ++ ' ' :: word).reverse = word.reverse ++ ' ' :: front.reverse := by simp
  have hword' : ∀ c ∈ word.reverse, isInWord c = true := fun c hc => hword c (List.mem_reverse.1 hc)
  rw [cutLastWord, hreversed, cutWord_append hword']
  simp only [List.reverse_reverse]

theorem Http.Method.ofName?_name (method : Http.Method) :
    Http.Method.ofName? method.name = some method := by
  unfold Http.Method.ofName?
  rw [dif_pos method.valid]

namespace Access.Entry

open Log

/-! ## Writing -/

/-- The duration in its parentheses, with its unit. -/
def durationWord (millis : Nat) : List Char :=
  '(' :: (Decimal.digits millis ++ ['m', 's', ')'])

theorem toList_text (e : Entry) :
    e.text.toList = (e.method.name.toList ++ ' ' :: e.path.toList) ++ ' ' :: ['→'] ++
      ' ' :: Decimal.digits e.status ++ ' ' :: durationWord e.millis := by
  have harrow : " → ".toList = [' ', '→', ' '] := by decide
  have hopening : " (".toList = [' ', '('] := by decide
  have hunit : "ms)".toList = ['m', 's', ')'] := by decide
  have hblank : " ".toList = [' '] := by decide
  simp [text, message, Piece.decimal, durationWord, Decimal.text, String.join_cons, harrow,
    hopening, hunit, hblank]

/-! ## Reading -/

/-- Reads an entry from its text. -/
def read? (text : String) : Option Entry :=
  let (beforeDuration, duration) := cutLastWord text.toList
  let (beforeStatus, status) := cutLastWord beforeDuration
  let (beforeArrow, _) := cutLastWord beforeStatus
  let (method, path) := cutWord beforeArrow
  (Http.Method.ofName? (String.ofList method)).bind fun method =>
    let e : Entry :=
      { method, path := String.ofList path, status := Nat.ofDigitChars 10 status 0
        millis := Nat.ofDigitChars 10 ((duration.drop 1).takeWhile Char.isDigit) 0 }
    if e.text = text then some e else none

theorem isInWord_of_mem_durationWord {millis : Nat} {c : Char} (h : c ∈ durationWord millis) :
    isInWord c = true := by
  simp only [durationWord, List.mem_cons, List.mem_append, List.not_mem_nil, or_false] at h
  rcases h with rfl | hdigit | rfl | rfl | rfl
  · decide
  · exact isInWord_of_test (by decide) (Text.isDigit_of_mem_digits hdigit)
  · decide
  · decide
  · decide

/-- The digits of a duration are cut out of their word. -/
theorem takeWhile_durationWord (millis : Nat) :
    ((durationWord millis).drop 1).takeWhile Char.isDigit = Decimal.digits millis := by
  have hdigits : ∀ c ∈ Decimal.digits millis, c.isDigit = true :=
    fun c hc => Text.isDigit_of_mem_digits hc
  have hunit : ¬ 'm'.isDigit = true := by decide
  rw [durationWord, List.drop_succ_cons, List.drop_zero, List.takeWhile_append_of_pos hdigits,
    List.takeWhile_cons_of_neg hunit, List.append_nil]

/-- An entry is read back from its text. -/
theorem read?_text (e : Entry) : read? e.text = some e := by
  have hstatus : ∀ c ∈ Decimal.digits e.status, isInWord c = true :=
    fun c hc => isInWord_of_test (by decide) (Text.isDigit_of_mem_digits hc)
  have hduration : ∀ c ∈ durationWord e.millis, isInWord c = true :=
    fun c hc => isInWord_of_mem_durationWord hc
  have harrow : ∀ c ∈ ['→'], isInWord c = true := List.forall_mem_singleton.2 (by decide)
  have hmethod : ∀ c ∈ e.method.name.toList, isInWord c = true := fun c hc =>
    isInWord_of_test (by decide) (List.all_eq_true.1 e.method.valid.2 c hc)
  unfold read?
  -- the last three words, then the first one
  rw [e.toList_text, cutLastWord_append hduration]
  dsimp only
  rw [cutLastWord_append hstatus]
  dsimp only
  rw [cutLastWord_append harrow]
  dsimp only
  rw [cutWord_append hmethod]
  dsimp only
  rw [String.ofList_toList, String.ofList_toList, Http.Method.ofName?_name, Option.bind_some,
    takeWhile_durationWord, Decimal.digits, Decimal.digits, Nat.ofDigitChars_ten_toDigits,
    Nat.ofDigitChars_ten_toDigits]
  exact if_pos rfl

/-- The reader accepts the texts of entries and no others. -/
theorem read?_eq_some_iff {text : String} {e : Entry} : read? text = some e ↔ e.text = text := by
  constructor
  · intro h
    unfold read? at h
    obtain ⟨method, -, hentry⟩ := Option.bind_eq_some_iff.1 h
    dsimp only at hentry
    split at hentry
    next hsame => exact Option.some.inj hentry ▸ hsame
    next => cases hentry
  · rintro rfl
    exact e.read?_text

/-- A path that ends like an entry. -/
example : read? "GET /a → 200 (0ms) → 404 (17ms)" =
    some { method := .get, path := "/a → 200 (0ms)", status := 404, millis := 17 } := by
  decide +kernel

theorem text_injective : Function.Injective text := by
  intro e other h
  have hread := e.read?_text
  rw [h, other.read?_text] at hread
  exact (Option.some.inj hread).symm

/-- The text of an entry is made of its four parts as they are, and the entry can be decoded from
it: a text is read as an entry exactly if it is the text of this entry.  So entries with the same
text agree in all four parts, whatever stands in their paths. -/
theorem text_decodes (e other : Entry) :
    e.text = e.method.name ++ " " ++ e.path ++ " → " ++ Decimal.text e.status ++ " (" ++
        Decimal.text e.millis ++ "ms)" ∧
      (∀ text, read? text = some e ↔ e.text = text) ∧
      (e.text = other.text ↔ e.method = other.method ∧ e.path = other.path ∧
        e.status = other.status ∧ e.millis = other.millis) := by
  refine ⟨?_, fun text => read?_eq_some_iff, ?_⟩
  · simp [text, message, Piece.decimal, String.join_cons, String.append_assoc]
  · rw [text_injective.eq_iff]
    obtain ⟨method, path, status, millis⟩ := e
    obtain ⟨method', path', status', millis'⟩ := other
    exact Entry.mk.injEq ..|>.to_iff

end Access.Entry

end ShipTelemetry
