import ShipTelemetry.Log.Event
import ShipTelemetry.Proofs.Text.Basic

/-!
# Reading log lines

A plain log line is read from left to right: the time up to the first blank, five characters
for the level, the span if the line goes on with `request` and a brace, then the target up to
a colon and a blank, and all that is left is the message with its fields.

What a line says is a `Record`.  It is `Valid` if its time, the texts of its span and its
target are such as loggers write: the time and the span texts hold no blank, and the target
is made of names and colons.  The main statement is `read?_text`: the reader gives back every
valid record from its line, so a line has only one valid reading (`eq_of_text_eq`).
-/

namespace ShipTelemetry.Log

/-! ## Words -/

/-- The character belongs to a word. -/
def isInWord (c : Char) : Bool := c ≠ ' '

/-- What passes a test that the blank fails belongs to a word. -/
theorem isInWord_of_test {p : Char → Bool} (hblank : p ' ' = false) {c : Char} (h : p c = true) :
    isInWord c = true := by
  have hne : c ≠ ' ' := by
    rintro rfl
    simp [hblank] at h
  simp [isInWord, hne]

/-- The first word of a text, and what stands after the blank behind it. -/
def cutWord (cs : List Char) : List Char × List Char :=
  (cs.takeWhile isInWord, (cs.dropWhile isInWord).drop 1)

theorem cutWord_append {word : List Char} (hword : ∀ c ∈ word, isInWord c = true)
    (rest : List Char) : cutWord (word ++ ' ' :: rest) = (word, rest) := by
  have hblank : ¬ isInWord ' ' = true := by decide
  rw [cutWord, List.takeWhile_append_of_pos hword, List.dropWhile_append_of_pos hword,
    List.takeWhile_cons_of_neg hblank, List.dropWhile_cons_of_neg hblank]
  simp

/-- The part of a word between a beginning and an end, if it has them. -/
def between? (opening closing word : List Char) : Option (List Char) :=
  let inner := (word.drop opening.length).take (word.length - opening.length - closing.length)
  if word = opening ++ inner ++ closing then some inner else none

theorem between?_append (opening inner closing : List Char) :
    between? opening closing (opening ++ inner ++ closing) = some inner := by
  have hlength : (opening ++ inner ++ closing).length - opening.length - closing.length =
      inner.length := by
    simp only [List.length_append]
    omega
  unfold between?
  dsimp only
  rw [hlength]
  simp

/-! ## Records -/

/-- The texts of a request span. -/
structure SpanText where
  method : String
  uri : String
  version : String
deriving DecidableEq, Repr

/-- A span as it stands in a line, with the blank after it. -/
def SpanText.text (s : SpanText) : String :=
  "request\x7bmethod=" ++ s.method ++ " uri=" ++ s.uri ++ " version=" ++ s.version ++ "\x7d: "

/-- What a plain log line says. -/
structure Record where
  time : String
  level : Level
  span : Option SpanText
  target : String
  message : String
deriving DecidableEq, Repr

/-- The line that says it. -/
def Record.text (r : Record) : String :=
  r.time ++ " " ++ r.level.label ++ " " ++ (r.span.elim "" SpanText.text) ++ r.target ++ ": " ++
    r.message

/-- A character of a target. -/
def isTargetCharacter (c : Char) : Bool := c.isAlphanum || c = '_' || c = ':'

/-- The texts of a span are words. -/
structure SpanText.Valid (s : SpanText) : Prop where
  method : Text.All isInWord s.method
  uri : Text.All isInWord s.uri
  version : Text.All isInWord s.version

/-- The time and the texts of the span are words, and the target is made of names and colons.
-/
structure Record.Valid (r : Record) : Prop where
  time : Text.All isInWord r.time
  span : ∀ s, r.span = some s → s.Valid
  target : Text.All isTargetCharacter r.target

/-! ## Reading -/

/-- The level with this label. -/
def Level.ofLabel? (label : List Char) : Option Level :=
  [error, warn, info, debug, trace].find? fun level => level.label.toList = label

/-- The beginning of a span. -/
def spanOpening : List Char := "request\x7b".toList

/-- The first word of a span, up to the method. -/
def methodOpening : List Char := "request\x7bmethod=".toList

/-- The second word of a span, up to the target of the request. -/
def uriOpening : List Char := "uri=".toList

/-- The third word of a span, up to the version. -/
def versionOpening : List Char := "version=".toList

/-- The end of a span. -/
def spanClosing : List Char := "\x7d:".toList

/-- Reads a span, if there is one, and leaves what follows. -/
def SpanText.read? (cs : List Char) : Option (Option SpanText × List Char) :=
  if spanOpening.isPrefixOf cs then
    let (method, afterMethod) := cutWord cs
    let (uri, afterUri) := cutWord afterMethod
    let (version, rest) := cutWord afterUri
    match between? methodOpening [] method, between? uriOpening [] uri,
        between? versionOpening spanClosing version with
    | some method, some uri, some version =>
        some (some ⟨String.ofList method, String.ofList uri, String.ofList version⟩, rest)
    | _, _, _ => none
  else some (none, cs)

/-- Reads a line. -/
def Record.read? (line : String) : Option Record :=
  let (time, afterTime) := cutWord line.toList
  match Level.ofLabel? (afterTime.take 5), SpanText.read? (afterTime.drop 6) with
  | some level, some (span, afterSpan) =>
      let (word, message) := cutWord afterSpan
      (between? [] [':'] word).map fun target =>
        { time := String.ofList time, level, span, target := String.ofList target,
          message := String.ofList message }
  | _, _ => none

/-! ## Reading gives back what was written -/

theorem length_label (level : Level) : level.label.toList.length = 5 := by
  cases level <;> rfl

theorem ofLabel?_label (level : Level) : Level.ofLabel? level.label.toList = some level := by
  cases level <;> rfl

theorem isInWord_of_isTargetCharacter {c : Char} (h : isTargetCharacter c = true) :
    isInWord c = true :=
  isInWord_of_test (by decide) h

theorem SpanText.toList_text_append (s : SpanText) (rest : List Char) :
    s.text.toList ++ rest =
      (methodOpening ++ s.method.toList) ++ ' ' :: ((uriOpening ++ s.uri.toList) ++ ' ' ::
        ((versionOpening ++ s.version.toList ++ spanClosing) ++ ' ' :: rest)) := by
  have hmethod : "request\x7bmethod=".toList = methodOpening := rfl
  have huri : " uri=".toList = ' ' :: uriOpening := rfl
  have hversion : " version=".toList = ' ' :: versionOpening := rfl
  have hclosing : "\x7d: ".toList = spanClosing ++ [' '] := rfl
  unfold SpanText.text
  rw [String.toList_append, String.toList_append, String.toList_append, String.toList_append,
    String.toList_append, String.toList_append, hclosing, hversion, huri, hmethod]
  simp only [List.append_assoc, List.cons_append, List.nil_append]

/-- A span that stands in front of a text is read from it. -/
theorem SpanText.read?_text_append {s : SpanText} (hvalid : s.Valid) (rest : List Char) :
    SpanText.read? (s.text.toList ++ rest) = some (some s, rest) := by
  have hmethod : ∀ c ∈ methodOpening ++ s.method.toList, isInWord c = true :=
    List.forall_mem_append.2 ⟨List.all_eq_true.1 (by decide), hvalid.method⟩
  have huri : ∀ c ∈ uriOpening ++ s.uri.toList, isInWord c = true :=
    List.forall_mem_append.2 ⟨List.all_eq_true.1 (by decide), hvalid.uri⟩
  have hversion : ∀ c ∈ versionOpening ++ s.version.toList ++ spanClosing, isInWord c = true :=
    List.forall_mem_append.2
      ⟨List.forall_mem_append.2 ⟨List.all_eq_true.1 (by decide), hvalid.version⟩,
        List.all_eq_true.1 (by decide)⟩
  have hopening : spanOpening.isPrefixOf (s.text.toList ++ rest) = true := by
    have hhead : methodOpening = spanOpening ++ "method=".toList := rfl
    rw [List.isPrefixOf_iff_prefix, s.toList_text_append, hhead, List.append_assoc,
      List.append_assoc]
    exact List.prefix_append _ _
  have hmethodText := between?_append methodOpening s.method.toList []
  have huriText := between?_append uriOpening s.uri.toList []
  rw [List.append_nil] at hmethodText huriText
  unfold SpanText.read?
  rw [if_pos hopening, s.toList_text_append, cutWord_append hmethod]
  dsimp only
  rw [cutWord_append huri]
  dsimp only
  rw [cutWord_append hversion]
  dsimp only
  rw [hmethodText, huriText, between?_append]
  simp

/-- A text that begins with a target is read without a span. -/
theorem SpanText.read?_of_target {target : List Char}
    (htarget : ∀ c ∈ target, isTargetCharacter c = true) (rest : List Char) :
    SpanText.read? (target ++ ':' :: ' ' :: rest) =
      some (none, target ++ ':' :: ' ' :: rest) := by
  unfold SpanText.read?
  rw [if_neg]
  intro hopening
  obtain ⟨after, hafter⟩ := List.isPrefixOf_iff_prefix.1 hopening
  -- the brace would stand in the target, or be one of the two characters behind it
  have hbrace : '\x7b' ∈ target ++ [':'] := by
    have hword : (target ++ ':' :: ' ' :: rest).takeWhile isInWord = target ++ [':'] := by
      have hhead : ∀ c ∈ target, isInWord c = true := fun c hc =>
        isInWord_of_isTargetCharacter (htarget c hc)
      rw [List.takeWhile_append_of_pos hhead, List.takeWhile_cons_of_pos (by decide),
        List.takeWhile_cons_of_neg (by decide)]
    rw [← hword, ← hafter, List.takeWhile_append_of_pos (List.all_eq_true.1 (by decide))]
    exact List.mem_append_left _ (by decide)
  rcases List.mem_append.1 hbrace with h | h
  · exact absurd (htarget _ h) (by decide)
  · exact absurd h (by decide)

/-- A valid record is read back from its line. -/
theorem Record.read?_text {r : Record} (hvalid : r.Valid) : read? r.text = some r := by
  have htext : r.text.toList =
      r.time.toList ++ ' ' :: (r.level.label.toList ++ ' ' ::
        ((r.span.elim "" SpanText.text).toList ++
          (r.target.toList ++ ':' :: ' ' :: r.message.toList))) := by
    simp [Record.text]
  have hspan : SpanText.read? ((r.span.elim "" SpanText.text).toList ++
        (r.target.toList ++ ':' :: ' ' :: r.message.toList)) =
      some (r.span, r.target.toList ++ ':' :: ' ' :: r.message.toList) := by
    cases hs : r.span with
    | none => simpa using SpanText.read?_of_target hvalid.target r.message.toList
    | some s => exact SpanText.read?_text_append (hvalid.span s hs) _
  -- the target and its colon are one word
  have htarget : ∀ c ∈ r.target.toList ++ [':'], isInWord c = true := by
    intro c hc
    rcases List.mem_append.1 hc with hc | hc
    · exact isInWord_of_isTargetCharacter (hvalid.target c hc)
    · rw [List.mem_singleton.1 hc]; decide
  have hmessage : r.target.toList ++ ':' :: ' ' :: r.message.toList =
      (r.target.toList ++ [':']) ++ ' ' :: r.message.toList := by simp
  have hlabel := length_label r.level
  unfold Record.read?
  rw [htext, cutWord_append hvalid.time]
  dsimp only
  rw [List.take_left' hlabel, ofLabel?_label, List.append_cons,
    List.drop_left' (by simp [hlabel]), hspan]
  dsimp only
  rw [hmessage, cutWord_append htarget]
  dsimp only
  have hbetween := between?_append [] r.target.toList [':']
  rw [List.nil_append] at hbetween
  rw [hbetween]
  simp

/-- A line has only one valid reading. -/
theorem Record.eq_of_text_eq {first second : Record} (hfirst : first.Valid)
    (hsecond : second.Valid) (htext : first.text = second.text) : first = second := by
  have hread := read?_text hfirst
  rw [htext, read?_text hsecond] at hread
  exact (Option.some.inj hread).symm

end ShipTelemetry.Log
