import ShipTelemetry.Proofs.Log.Basic
import ShipTelemetry.Proofs.Log.Record

/-!
# Plain log lines

In a plain layout there are no colours, the time is one word, and times and numbers are
printable.  Then the line of an event is the text of a record (`event_eq_text`), and nothing
but printable characters is added to the texts of the event (`all_record`): the escaper too
only puts printable characters in the place of others.  So a test that lets printable
characters through, and holds for all texts of an event, holds for its line.
-/

namespace ShipTelemetry.Log

open Text

variable {p : Char → Bool}

/-! ## Escaped messages -/

theorem all_escape (hp : AdmitsPrintable p) {message : String} (hall : All p message) :
    All p (escape message) := by
  unfold escape
  rw [all_ofList]
  intro c hc
  obtain ⟨source, hsource, hc⟩ := List.mem_flatMap.1 hc
  unfold escapeChar at hc
  -- a character is written by a pair of digits, by a pair in braces, or as itself
  split at hc
  next hnumbered =>
    have hsmall : source.toNat < 256 := by
      rcases hnumbered with rfl | rfl | rfl | rfl | rfl <;> decide
    simp only [List.mem_cons] at hc
    rcases hc with rfl | rfl | hc
    · exact hp _ (by decide)
    · exact hp _ (by decide)
    · exact hp c (isPrintable_of_mem_hexPair hsmall hc)
  split at hc
  next hrange =>
    simp only [List.mem_cons, List.mem_append, List.not_mem_nil, or_false] at hc
    rcases hc with rfl | rfl | rfl | hc | rfl
    · exact hp _ (by decide)
    · exact hp _ (by decide)
    · exact hp _ (by decide)
    · exact hp c (isPrintable_of_mem_hexPair (by omega) hc)
    · exact hp _ (by decide)
  next => exact (List.mem_singleton.1 hc) ▸ hall source hsource

theorem escape_append (first second : String) :
    escape (first ++ second) = escape first ++ escape second := by
  simp [escape, String.toList_append, List.flatMap_append, String.ofList_append]

/-- The escaper leaves a text without control characters alone. -/
theorem escape_eq_self {message : String} (h : All isOrdinary message) :
    escape message = message := by
  have hsingle : ∀ c ∈ message.toList, escapeChar c = [c] := by
    intro c hc
    have hordinary := h c hc
    have hnumbered : ¬ (c = '\x1b' ∨ c = '\x07' ∨ c = '\x08' ∨ c = '\x0c' ∨ c = '\x7f') := by
      rintro (rfl | rfl | rfl | rfl | rfl) <;> exact absurd hordinary (by decide)
    have hrange : ¬ (0x80 ≤ c.toNat ∧ c.toNat ≤ 0x9f) := by
      simp only [isOrdinary, isControl, Bool.not_eq_true', Bool.or_eq_false_iff,
        Bool.and_eq_false_iff, decide_eq_false_iff_not] at hordinary
      omega
    rw [escapeChar, if_neg hnumbered, if_neg hrange]
  have hwhole : message.toList.flatMap escapeChar = message.toList := by
    rw [List.flatMap_def, List.map_congr_left hsingle, ← List.flatMap_def, List.flatMap_singleton']
  rw [escape, hwhole, String.ofList_toList]

/-! ## Plain layouts -/

namespace Layout

/-- There are no colours, the time is a word, and times and numbers are printable. -/
structure Plain (l : Layout) : Prop where
  coloured : l.coloured = false
  colouredSpans : l.colouredSpans = false
  time_word : All isInWord l.time
  time : All isPrintable l.time
  millis : ∀ n, All isPrintable (l.millis n)
  port : ∀ n, All isPrintable (l.port n)

/-- The plain layout that writes all numbers in decimal. -/
def inDecimal (time : String) : Layout :=
  { coloured := false, colouredSpans := false, time, millis := Decimal.text,
    port := Decimal.text }

theorem plain_inDecimal {time : String} (hword : All isInWord time)
    (hprintable : All isPrintable time) : (inDecimal time).Plain :=
  { coloured := rfl, colouredSpans := rfl, time_word := hword, time := hprintable,
    millis := all_isPrintable_decimal, port := all_isPrintable_decimal }

/-- The message of an event and its fields, as they stand in a plain line. -/
def tail (l : Layout) (e : Event) : String :=
  " ".intercalate (escape (l.text e.message) :: e.fields.map (l.field false))

/-- What the line of an event says, given the texts of its span. -/
def record (l : Layout) (e : Event) (span : Option SpanText) : Record :=
  { time := l.time, level := e.level, span, target := e.target, message := l.tail e }

variable {l : Layout}

@[simp] theorem text_text (l : Layout) (s : String) : l.text [.text s] = s := by
  simp [text, piece]

theorem event_eq_text (hplain : l.Plain) {e : Event} {span : Option SpanText}
    (hspan : e.span.elim "" l.span = span.elim "" SpanText.text) :
    l.event e = (l.record e span).text := by
  have hcolon : (": " : String) = ":" ++ " " := rfl
  unfold Record.text record
  rw [← hspan]
  cases hs : e.span <;>
    simp only [event, paint, hplain.coloured, Bool.false_eq_true, if_false, hs, Option.elim, tail,
      hcolon, String.append_assoc]

/-! ## Texts of an event -/

/-- Every character of a piece passes a test. -/
def PieceAll (p : Char → Bool) : Piece → Prop
  | .text s => All p s
  | .millis _ => True
  | .port _ => True

@[simp] theorem pieceAll_text {s : String} : PieceAll p (.text s) ↔ All p s := Iff.rfl

@[simp] theorem pieceAll_millis {n : Nat} : PieceAll p (.millis n) ↔ True := Iff.rfl

/-- Every character in the name and the value of a field passes a test. -/
structure FieldAll (p : Char → Bool) (f : Field) : Prop where
  name : All p f.name
  value : ∀ piece ∈ f.value, PieceAll p piece

/-- Every character in the message and the fields of an event passes a test. -/
structure EventAll (p : Char → Bool) (e : Event) : Prop where
  message : ∀ piece ∈ e.message, PieceAll p piece
  fields : ∀ f ∈ e.fields, FieldAll p f

theorem fieldAll_plain {name value : String} (hname : All p name) (hvalue : All p value) :
    FieldAll p (.plain name value) :=
  ⟨hname, by simpa [Field.plain] using hvalue⟩

theorem fieldAll_millis {name unit : String} (hname : All p name) (hunit : All p unit) (n : Nat) :
    FieldAll p ⟨name, [.millis n, .text unit]⟩ :=
  ⟨hname, by simpa using hunit⟩

/-- A message in one piece, and fields. -/
theorem eventAll_text {e : Event} {message : String} (hpieces : e.message = [.text message])
    (hmessage : All p message) (hfields : ∀ f ∈ e.fields, FieldAll p f) : EventAll p e where
  message := by simpa [hpieces] using hmessage
  fields := hfields

theorem all_text (hplain : l.Plain) (hp : AdmitsPrintable p) {pieces : List Piece}
    (hpieces : ∀ piece ∈ pieces, PieceAll p piece) : All p (l.text pieces) := by
  unfold text
  rw [all_join]
  intro s hs
  obtain ⟨piece, hpiece, rfl⟩ := List.mem_map.1 hs
  have hall := hpieces piece hpiece
  cases piece with
  | text s => exact hall
  | millis n => exact (hplain.millis n).imp hp
  | port n => exact (hplain.port n).imp hp

theorem all_tail_of_escaped (hplain : l.Plain) (hp : AdmitsPrintable p) {e : Event}
    (hmessage : All p (escape (l.text e.message))) (hfields : ∀ f ∈ e.fields, FieldAll p f) :
    All p (l.tail e) := by
  refine all_intercalate (hp.literal (by decide)) ?_
  intro s hs
  rcases List.mem_cons.1 hs with rfl | hs
  · exact hmessage
  · obtain ⟨f, hf, rfl⟩ := List.mem_map.1 hs
    have hequals : All p "=" := hp.literal (by decide)
    simp only [field, paint, Bool.false_eq_true, if_false, all_append]
    exact ⟨⟨(hfields f hf).name, hequals⟩, all_text hplain hp (hfields f hf).value⟩

theorem all_tail (hplain : l.Plain) (hp : AdmitsPrintable p) {e : Event}
    (he : EventAll p e) : All p (l.tail e) :=
  all_tail_of_escaped hplain hp (all_escape hp (all_text hplain hp he.message)) he.fields

end Layout

/-! ## Whole lines -/

/-- Every character in the texts of a span passes a test. -/
structure SpanText.AllOf (p : Char → Bool) (s : SpanText) : Prop where
  method : All p s.method
  uri : All p s.uri
  version : All p s.version

theorem SpanText.all_text (hp : AdmitsPrintable p) {s : SpanText} (hs : s.AllOf p) :
    All p s.text := by
  unfold SpanText.text
  simp only [all_append]
  exact ⟨⟨⟨⟨⟨⟨hp.literal (by decide), hs.method⟩, hp.literal (by decide)⟩, hs.uri⟩,
    hp.literal (by decide)⟩, hs.version⟩, hp.literal (by decide)⟩

theorem isPrintable_of_isTargetCharacter (c : Char) (h : isTargetCharacter c = true) :
    isPrintable c = true := by
  simp only [isTargetCharacter, Bool.or_eq_true, decide_eq_true_eq] at h
  rcases h with (hletter | rfl) | rfl
  · exact isPrintable_of_isAlphanum hletter
  · decide
  · decide

/-- Nothing but printable characters is added to the texts of an event. -/
theorem Layout.all_record {l : Layout} (hplain : l.Plain) (hp : AdmitsPrintable p) {e : Event}
    (he : EventAll p e) (htarget : All isTargetCharacter e.target) {span : Option SpanText}
    (hspan : ∀ s, span = some s → s.AllOf p) : All p (l.record e span).text := by
  have hlevel : All isPrintable e.level.label := by cases e.level <;> decide
  have hspanText : All p (span.elim "" SpanText.text) := by
    cases span with
    | none => exact all_empty
    | some s => exact s.all_text hp (hspan s rfl)
  unfold Record.text record
  simp only [all_append]
  exact ⟨⟨⟨⟨⟨⟨⟨hplain.time.imp hp, hp.literal (by decide)⟩, hlevel.imp hp⟩,
    hp.literal (by decide)⟩, hspanText⟩,
    (htarget.imp isPrintable_of_isTargetCharacter).imp hp⟩, hp.literal (by decide)⟩,
    all_tail hplain hp he⟩

end ShipTelemetry.Log
