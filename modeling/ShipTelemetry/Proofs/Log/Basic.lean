import ShipTelemetry.Log.Layout
import ShipTelemetry.Proofs.Text.Basic

/-!
# Lines and filters of a log

A log that is written in two parts has the lines of the first part and then those of the second
(`Layout.lines_append`), whatever the messages in it: every event ends with a line feed.  A log
whose events are written without line ends has one line for each of them
(`Layout.lines_eq_map`).

A filter that names a level only lets events through by their level, and shows every span of
that level or a graver one.
-/

namespace ShipTelemetry.Log

/-! ## Lines -/

namespace Layout

/-- Events that are written without line ends are one line each, whatever follows them. -/
theorem lines_log_append {l : Layout} {events : List Event}
    (hevents : ∀ e ∈ events, Text.All Text.isUnbroken (l.event e)) (rest : String) :
    Text.lines (l.log events ++ rest) = events.map l.event ++ Text.lines rest := by
  induction events with
  | nil => simp
  | cons e more ih =>
      have he := hevents e List.mem_cons_self
      have hmore := ih fun d hd => hevents d (List.mem_cons_of_mem e hd)
      rw [log_cons, String.append_assoc, Text.lines_append_feed he, hmore, List.map_cons,
        List.cons_append]

theorem lines_eq_map {l : Layout} {events : List Event}
    (hevents : ∀ e ∈ events, Text.All Text.isUnbroken (l.event e)) :
    l.lines events = events.map l.event := by
  have hlines := lines_log_append hevents ""
  have hend : Text.lines "" = [] := rfl
  rwa [String.append_empty, hend, List.append_nil] at hlines

theorem lines_cons (l : Layout) (e : Event) (rest : List Event) :
    l.lines (e :: rest) = l.lines [e] ++ l.lines rest := by
  have hone : l.log [e] = l.event e ++ "\n" := by simp
  unfold lines
  rw [log_cons, Text.lines_feed, hone]

theorem lines_append (l : Layout) (before after : List Event) :
    l.lines (before ++ after) = l.lines before ++ l.lines after := by
  induction before with
  | nil => rfl
  | cons e rest ih =>
      rw [List.cons_append, lines_cons, ih, lines_cons l e rest, List.append_assoc]

end Layout

/-! ## Filters by level -/

namespace Filter

variable {level : Level}

theorem apply_append (f : Filter) (before after : List Event) :
    f.apply (before ++ after) = f.apply before ++ f.apply after := by
  simp [apply]

@[simp] theorem lets_upTo (level given : Level) (target : String) (has : String → Bool) :
    (upTo level).lets given target has = decide (given.detail ≤ level.detail) := rfl

@[simp] theorem letsWithin_upTo (level given : Level) (s : Span) :
    (upTo level).letsWithin s given = false := rfl

theorem admits_upTo (level : Level) (e : Event) :
    (upTo level).admits e = decide (e.level.detail ≤ level.detail) := by
  unfold admits
  cases e.span <;> simp

theorem shows_upTo (level : Level) (s : Span) :
    (upTo level).shows s = decide (s.level.detail ≤ level.detail) := by
  unfold shows
  rw [lets_upTo]
  rfl

theorem filter_shows_upTo {span : Option Span}
    (h : ∀ s, span = some s → s.level.detail ≤ level.detail) :
    span.filter (upTo level).shows = span := by
  cases span with
  | none => rfl
  | some s =>
      have hshown : (upTo level).shows s = true := by
        rw [shows_upTo]
        exact decide_eq_true (h s rfl)
      rw [Option.filter_some, if_pos hshown]

/-- Events whose spans are all shown pass as they are, if their level does. -/
theorem apply_upTo {events : List Event}
    (hspans : ∀ e ∈ events, ∀ s, e.span = some s → s.level.detail ≤ level.detail) :
    (upTo level).apply events = events.filter fun e => e.level.detail ≤ level.detail := by
  have hadmits : (upTo level).admits = fun e => decide (e.level.detail ≤ level.detail) :=
    funext (admits_upTo level)
  unfold apply
  rw [hadmits]
  -- no event loses its span
  refine (List.map_congr_left fun e he => ?_).trans (List.map_id _)
  rw [filter_shows_upTo (hspans e (List.mem_filter.1 he).1)]
  rfl

theorem apply_upTo_eq_nil {events : List Event}
    (h : ∀ e ∈ events, level.detail < e.level.detail) : (upTo level).apply events = [] := by
  have hnone : events.filter (upTo level).admits = [] := by
    refine List.filter_eq_nil_iff.2 fun e he => ?_
    rw [admits_upTo, decide_eq_true_eq]
    exact Nat.not_le.2 (h e he)
  rw [apply, hnone, List.map_nil]

theorem apply_upTo_flatMap {α : Type} (items : List α) (events : α → List Event) :
    (upTo level).apply (items.flatMap events) =
      items.flatMap fun item => (upTo level).apply (events item) := by
  induction items with
  | nil => rfl
  | cons item rest ih => rw [List.flatMap_cons, List.flatMap_cons, apply_append, ih]

end Filter

end ShipTelemetry.Log
