import ShipTelemetry.Proofs.Json.Grammar
import ShipTelemetry.Service.Layers

/-!
# Envelopes are told apart

No tag says which envelope a body carries.  It shows in the name of the only member, and the
body is JSON text that has this member and no other reading.  So whoever reads the body gets
the envelope back, whatever text it carries: a text that looks like JSON, or like an escape,
is read as that text (`reply_decodes`).
-/

namespace ShipTelemetry

/-! ## Texts of one member -/

/-- A text is on one line, as JSON it is the object of one string member and nothing else, and
the reader of objects of strings reads this member. -/
structure Json.HoldsOnly (text name value : String) : Prop where
  visible : ∀ c ∈ text.toList, 0x20 ≤ c.toNat
  meaning : ∀ v, Json.IsText v text ↔ v = .object [(name, .string value)]
  read : Json.readObject? text = some [(name, value)]

theorem Json.holdsOnly_singleton (name value : String) :
    Json.HoldsOnly (Json.singleton name value) name value where
  visible _ := Json.toNat_of_mem_singleton
  meaning _ := ⟨Json.eq_of_isText_singleton, fun h => h ▸ Json.isText_singleton name value⟩
  read := Json.readObject?_singleton name value

theorem Json.HoldsOnly.unique {text name value name' value' : String}
    (h : Json.HoldsOnly text name value) (h' : Json.HoldsOnly text name' value') :
    name = name' ∧ value = value' := by
  have hread := h.read
  rw [h'.read, Option.some.injEq, List.singleton_inj, Prod.mk.injEq] at hread
  exact ⟨hread.1.symm, hread.2.symm⟩

namespace Envelope

/-! ## Envelopes -/

/-- The name of the only member in a body. -/
def memberName : Envelope → String
  | .greeting _ => "greeting"
  | .error _ => "error"

/-- The text in an envelope. -/
def text : Envelope → String
  | .greeting text => text
  | .error text => text

theorem holdsOnly_body (e : Envelope) : Json.HoldsOnly e.body e.memberName e.text := by
  cases e with
  | greeting text => exact Json.holdsOnly_singleton "greeting" text
  | error text => exact Json.holdsOnly_singleton "error" text

/-- The body tells which envelope it carries. -/
theorem body_injective : Function.Injective body := by
  intro e other h
  have hother := other.holdsOnly_body
  rw [← h] at hother
  obtain ⟨hname, htext⟩ := e.holdsOnly_body.unique hother
  have hkinds : "greeting" ≠ "error" := by decide
  cases e with
  | greeting text =>
    cases other with
    | greeting text' => exact congrArg greeting htext
    | error text' => exact absurd hname hkinds
  | error text =>
    cases other with
    | greeting text' => exact absurd hname hkinds.symm
    | error text' => exact congrArg error htext

theorem ack_injective : Function.Injective ack := by
  intro name other h
  have hlists := congrArg String.toList (greeting.inj h)
  simp only [String.toList_append] at hlists
  exact String.toList_inj.1
    (List.append_cancel_left (List.append_cancel_right hlists))

end Envelope

/-! ## Answers with an envelope -/

namespace Service

/-- The body of an answer that greets, and of one that reports an error, is JSON text on one line
with one member, from which the text is read back character for character.  So the bodies of two
answers are the same only if both greet the same name, or both report the same error. -/
theorem reply_decodes (status other : Http.Status) :
    (∀ name, Json.HoldsOnly (reply status (.ack name)).body "greeting"
      ("Hello, " ++ name ++ "!")) ∧
    (∀ text, Json.HoldsOnly (reply status (.error text)).body "error" text) ∧
    (∀ name name', (reply status (.ack name)).body = (reply other (.ack name')).body ↔
      name = name') ∧
    (∀ text text', (reply status (.error text)).body = (reply other (.error text')).body ↔
      text = text') ∧
    ∀ name text, (reply status (.ack name)).body ≠ (reply other (.error text)).body := by
  refine ⟨fun name => (Envelope.ack name).holdsOnly_body,
    fun text => (Envelope.error text).holdsOnly_body, fun name name' => ?_, fun text text' => ?_,
    fun name text h => ?_⟩
  · exact (Envelope.body_injective.comp Envelope.ack_injective).eq_iff
  · exact Envelope.body_injective.eq_iff.trans
      ⟨Envelope.error.inj, congrArg Envelope.error⟩
  · have hsame : Envelope.ack name = .error text := Envelope.body_injective h
    cases hsame

/- A text that closes the object and opens another member is still one text. -/
example : Json.readObject? (Envelope.error "a\",\"greeting\":\"\\u0062").body =
    some [("error", "a\",\"greeting\":\"\\u0062")] := by decide

end Service

end ShipTelemetry
