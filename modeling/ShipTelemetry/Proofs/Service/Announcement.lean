import ShipTelemetry.Proofs.Binary64.Shortest
import ShipTelemetry.Proofs.Service.RoundTrip
import ShipTelemetry.Proofs.Text.Cuts

/-!
# Announcements tell reports apart

The name of a ship stands in its announcement without quotes, and it may hold whatever follows
it there: a name can end in ` in position (1,2) with fuel 3`.  Even so, no two reports are
announced alike.

## Strategy

An announcement is read from its right end.  Behind each of the separators stands the display
of a number, and the last character of a separator is in no display (`eq_of_append_last`).  So
the last separators are where they seem to be, whatever stands in the name, and what is left
before them is the name.  A number is read back from its display, so displays tell numbers
apart (`Binary64.display_injective`).

The escaper of the log could spoil this, because it writes a control character as a text that
a name may hold as well; but there is no control character in the name of a report that was
accepted.
-/

namespace ShipTelemetry

/-! ## Reading from the right end -/

/-- Displays tell numbers apart. -/
theorem Binary64.display_injective : Function.Injective Binary64.display := by
  intro x y h
  have hread := x.read?_display
  rw [h, y.read?_display] at hread
  exact (Option.some.inj hread).symm

/-- A number at the end of a text, and what stands before it. -/
theorem eq_of_append_display {first second : List Char} {stop : Char}
    (hstop : isNumeric stop = false) {x y : Binary64}
    (h : first ++ stop :: x.display.toList = second ++ stop :: y.display.toList) :
    first = second ∧ x = y := by
  obtain ⟨hfront, hdisplay⟩ := eq_of_append_last hstop x.all_display y.all_display h
  exact ⟨hfront, Binary64.display_injective (String.toList_inj.1 hdisplay)⟩

namespace Report

theorem toList_announcement (r : Report) :
    r.announcement.toList =
      "Detected ship ".toList ++ r.name.toList ++ " in position ".toList ++
          '(' :: r.x.display.toList ++ ',' :: r.y.display.toList ++ ") with fuel".toList ++
        ' ' :: r.fuel.display.toList := by
  have hposition : " in position (".toList = " in position ".toList ++ ['('] := by decide
  have hcomma : ",".toList = [','] := by decide
  have hfuel : ") with fuel ".toList = ") with fuel".toList ++ [' '] := by decide
  unfold announcement
  simp only [String.toList_append, hposition, hcomma, hfuel, List.append_assoc,
    List.cons_append, List.nil_append]

/-- No two reports are announced alike, whatever stands in their names. -/
theorem announcement_injective : Function.Injective announcement := by
  intro r s h
  have hlists := congrArg String.toList h
  rw [r.toList_announcement, s.toList_announcement] at hlists
  -- the fuel, `y` and `x` are cut off one after the other, and the name is left
  obtain ⟨hpositions, hfuel⟩ := eq_of_append_display (by decide : isNumeric ' ' = false) hlists
  obtain ⟨hpoints, hy⟩ :=
    eq_of_append_display (by decide : isNumeric ',' = false) (List.append_cancel_right hpositions)
  obtain ⟨hships, hx⟩ := eq_of_append_display (by decide : isNumeric '(' = false) hpoints
  have hnames := (List.append_right_inj _).1 ((List.append_left_inj _).1 hships)
  have hname : r.name = s.name := String.toList_inj.1 hnames
  obtain ⟨name, x, y, fuel⟩ := r
  subst hname hx hy hfuel
  rfl

end Report

namespace Service

open Log

variable {parameters others : List (String × String)} {report other : Report}

/-! ## Accepted reports -/

/-- An announcement is written as it is, once its report has been accepted. -/
theorem escape_announcement (h : Report.ofParameters parameters = .ok report) :
    escape report.announcement = report.announcement :=
  escape_eq_self (all_announcement Text.admitsPrintable_isOrdinary (Report.all_isOrdinary_name h))

/-- The messages that are written while a report is answered. -/
def messages (layout : Layout) (parameters : List (String × String)) : List String :=
  ((ship (.ok parameters)).poll 0).1.map fun e => escape (layout.text e.message)

theorem messages_of_accepted (h : Report.ofParameters parameters = .ok report) (layout : Layout) :
    messages layout parameters = [report.announcement] := by
  have hevents : ((ship (.ok parameters)).poll 0).1 = [detectedEvent report] := by
    simp [ship, h, Handler.ready]
  rw [messages, hevents, List.map_singleton, detectedEvent, Layout.text_text,
    escape_announcement h]

/-- An accepted report is announced by its name and its numbers, and two accepted reports are
announced alike only if they are one and the same.  So the lines of two different reports differ,
whatever requests they belong to and whenever they are written. -/
theorem messages_eq_iff (hreport : Report.ofParameters parameters = .ok report)
    (hother : Report.ofParameters others = .ok other) :
    (∀ layout, messages layout parameters =
      ["Detected ship " ++ report.name ++ " in position (" ++ report.x.display ++ "," ++
        report.y.display ++ ") with fuel " ++ report.fuel.display]) ∧
    (∀ layout, messages layout parameters = messages layout others ↔ report = other) ∧
    ∀ {layout later : Layout} {request another : Http.Request} {text text' : String},
      layout.Plain → later.Plain → Uri.read? text = .ok request.uri →
      Uri.read? text' = .ok another.uri →
      layout.event ((detectedEvent report).within (requestSpan request)) =
        later.event ((detectedEvent other).within (requestSpan another)) → report = other := by
  refine ⟨messages_of_accepted hreport, fun layout => ?_, ?_⟩
  · rw [messages_of_accepted hreport, messages_of_accepted hother, List.singleton_inj]
    exact Report.announcement_injective.eq_iff
  · intro layout later request another text text' hplain hlater htext htext' hlines
    have huri := Uri.visible_of_read? htext
    have huri' := Uri.visible_of_read? htext'
    -- the lines have one reading each, in which the announcements are the messages
    have hread := (told_detectedEvent hreport request).read?_event hplain huri
    rw [hlines, (told_detectedEvent hother another).read?_event hlater huri'] at hread
    have hmessages := congrArg Record.message (Option.some.inj hread)
    simp only [Layout.record] at hmessages
    rw [tail_detectedEvent (Report.all_isOrdinary_name hreport),
      tail_detectedEvent (Report.all_isOrdinary_name hother)] at hmessages
    exact (Report.announcement_injective hmessages).symm

/-- A query with a name that ends like an announcement. -/
def misleadingQuery : String := "name=Argo+in+position+(1,2)+with+fuel+3&x=4&y=5&fuel=6"

def misleadingReport : Report where
  name := "Argo in position (1,2) with fuel 3"
  x := ⟨false, 2 ^ 52, 1024, by decide⟩
  y := ⟨false, 5 * 2 ^ 50, 1024, by decide⟩
  fuel := ⟨false, 3 * 2 ^ 51, 1024, by decide⟩

/-- A query for a report whose announcement the name imitates. -/
def imitatedQuery : String := "name=Argo&x=1&y=2&fuel=3"

def imitatedReport : Report where
  name := "Argo"
  x := ⟨false, 2 ^ 52, 1022, by decide⟩
  y := ⟨false, 2 ^ 52, 1023, by decide⟩
  fuel := ⟨false, 3 * 2 ^ 51, 1023, by decide⟩

theorem messages_eq_iff_misleading :
    Report.ofParameters (Query.pairs misleadingQuery) = .ok misleadingReport ∧
      Report.ofParameters (Query.pairs imitatedQuery) = .ok imitatedReport ∧
      messages (.inDecimal "now") (Query.pairs misleadingQuery) ≠
        messages (.inDecimal "now") (Query.pairs imitatedQuery) ∧
      (Layout.inDecimal "now").event
          ((detectedEvent misleadingReport).within (requestSpan (shipRequest misleadingQuery))) ≠
        (Layout.inDecimal "later").event
          ((detectedEvent imitatedReport).within (requestSpan (shipRequest imitatedQuery))) := by
  have hread : Report.ofParameters (Query.pairs misleadingQuery) = .ok misleadingReport := by
    decide +kernel
  have hreadOther : Report.ofParameters (Query.pairs imitatedQuery) = .ok imitatedReport := by
    decide +kernel
  have hne : misleadingReport ≠ imitatedReport := by decide
  have huri : Uri.read? ("/ship" ++ "?" ++ misleadingQuery) =
      .ok (shipRequest misleadingQuery).uri :=
    Uri.read?_append (by decide) (by decide) (by decide) (by decide)
  have huriOther : Uri.read? ("/ship" ++ "?" ++ imitatedQuery) =
      .ok (shipRequest imitatedQuery).uri :=
    Uri.read?_append (by decide) (by decide) (by decide) (by decide)
  have hnow : (Layout.inDecimal "now").Plain := Layout.plain_inDecimal (by decide) (by decide)
  have hlater : (Layout.inDecimal "later").Plain := Layout.plain_inDecimal (by decide) (by decide)
  obtain ⟨-, halike, hlines⟩ := messages_eq_iff hread hreadOther
  exact ⟨hread, hreadOther, fun h => hne ((halike _).1 h),
    fun h => hne (hlines hnow hlater huri huriOther h)⟩

end Service

end ShipTelemetry
