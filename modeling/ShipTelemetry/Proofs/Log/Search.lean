import ShipTelemetry.Log.Layout
import ShipTelemetry.Proofs.Log.Record

/-!
# Where a word is found in a line

A capture looks for a text anywhere in its lines.  If that text is a word, a line that consists
of words and blanks holds it only within one of its parts (`infix_append_stop_iff`), so it is
found in the line of a record only if it is found in one of the texts that the record is made of
(`Record.infix_text_iff`).
-/

namespace ShipTelemetry.Log

/-! ## Parts of a text -/

section

variable {α : Type} {word first rest : List α} {stop : α}

/-- A text without a character is found around that character only on one of its sides. -/
theorem infix_append_stop_iff (hword : stop ∉ word) :
    word <:+: first ++ stop :: rest ↔ word <:+: first ∨ word <:+: rest := by
  constructor
  · intro h
    rcases List.infix_append_iff.1 h with hfirst | hrest | ⟨front, back, rfl, hfront, hback⟩
    · exact .inl hfirst
    · rcases List.infix_cons_iff.1 hrest with hprefix | hrest
      · cases word with
        | nil => exact .inl (List.nil_infix)
        | cons a more =>
          obtain rfl := (List.cons_prefix_cons.1 hprefix).1
          exact absurd List.mem_cons_self hword
      · exact .inr hrest
    · -- what reaches beyond the first part would begin with the character
      cases back with
      | nil =>
        rw [List.append_nil]
        exact .inl hfront.isInfix
      | cons a more =>
        obtain rfl := (List.cons_prefix_cons.1 hback).1
        exact absurd (List.mem_append_right front List.mem_cons_self) hword
  · rintro (h | h)
    · exact h.trans (List.prefix_append first _).isInfix
    · exact (h.trans (List.infix_cons (List.infix_refl rest))).trans
        (List.suffix_append first _).isInfix

theorem not_infix_of_notMem {c : α} (hword : c ∈ word) (hrest : c ∉ rest) :
    ¬ word <:+: rest :=
  fun h => hrest (h.subset hword)

end

theorem occursIn_iff {needle cs : List Char} :
    Capture.occursIn needle cs = true ↔ needle <:+: cs := by
  induction cs with
  | nil => simp [Capture.occursIn]
  | cons c rest ih =>
    rw [Capture.occursIn, Bool.or_eq_true, ih, List.isPrefixOf_iff_prefix, List.infix_cons_iff]

/-! ## Parts of a record -/

/-- A word is found in a span only within one of the texts of the span, or across what they are
introduced by. -/
theorem SpanText.infix_text_append_iff {word : List Char} (hword : ' ' ∉ word) (s : SpanText)
    (rest : List Char) :
    word <:+: s.text.toList ++ rest ↔
      word <:+: methodOpening ++ s.method.toList ∨ word <:+: uriOpening ++ s.uri.toList ∨
        word <:+: versionOpening ++ s.version.toList ++ spanClosing ∨ word <:+: rest := by
  rw [s.toList_text_append, infix_append_stop_iff hword, infix_append_stop_iff hword,
    infix_append_stop_iff hword]

/-- A word is found in the line of a record with a span only in one of its parts. -/
theorem Record.infix_text_iff {word : List Char} (hword : ' ' ∉ word) {r : Record} {s : SpanText}
    (hspan : r.span = some s) :
    word <:+: r.text.toList ↔
      word <:+: r.time.toList ∨ word <:+: r.level.label.toList ∨
        (word <:+: methodOpening ++ s.method.toList ∨ word <:+: uriOpening ++ s.uri.toList ∨
          word <:+: versionOpening ++ s.version.toList ++ spanClosing ∨
          word <:+: r.target.toList ++ [':'] ∨ word <:+: r.message.toList) := by
  have htext : r.text.toList =
      r.time.toList ++ ' ' :: (r.level.label.toList ++ ' ' ::
        (s.text.toList ++ ((r.target.toList ++ [':']) ++ ' ' :: r.message.toList))) := by
    simp [Record.text, hspan]
  rw [htext, infix_append_stop_iff hword, infix_append_stop_iff hword,
    SpanText.infix_text_append_iff hword, infix_append_stop_iff hword]

end ShipTelemetry.Log
