import ShipTelemetry.Access
import ShipTelemetry.Proofs.Text.Cuts
import ShipTelemetry.Proofs.Uri.Reading

/-!
# The forms of a URI

The access log shows the path and the query of a request as they were received.  What that is can
be said from the text of the URI alone, without its reader: `Uri.Form text path` says that the text
is written in one of four forms, and that `path` is the part of it that is shown.

## Strategy

The character that ends a part of a form is in no part before it.  So the parts of a text can be
found from left to right, and a text has at most one form (`Form.eq_shown`).  The reader takes a
text apart at the same places, and what it has read is one of the forms (`form_of_read?`).  For an
absolute URI this means that the scheme was written in front of `://`, in whichever case of
letters (`Scheme.exists_written`).
-/

namespace ShipTelemetry

/-- A fragment with its number sign, or nothing. -/
def Uri.IsFragment (s : String) : Prop := ∀ c ∈ s.toList.head?, c = '#'

/-- The forms of a URI: its text, and the part of it that is shown as the path. -/
inductive Uri.Form : String → String → Prop
  | origin {target fragment : String} (hslash : target.toList.head? = some '/')
      (hplain : '#' ∉ target.toList) (hfragment : IsFragment fragment) :
      Form (target ++ fragment) target
  | asterisk : Form "*" "*"
  | absolute {scheme host target fragment : String}
      (hscheme : ∀ c ∈ scheme.toList, Scheme.isCharacter c = true)
      (hhost : ∀ c ∈ host.toList, Authority.isInside c = true)
      (htarget : ∀ c ∈ target.toList.head?, c = '/' ∨ c = '?')
      (hplain : '#' ∉ target.toList) (hfragment : IsFragment fragment) :
      Form (scheme ++ "://" ++ host ++ target ++ fragment) (if target = "" then "/" else target)
  | authority {host : String} (hhost : ∀ c ∈ host.toList, Authority.isInside c = true)
      (hne : host ≠ "*") : Form host ""

/-! ## A text has one form -/

namespace Uri

/-- The text up to the fragment. -/
def beforeFragment (cs : List Char) : List Char := cs.takeWhile (· ≠ '#')

/-- The part of a text that is shown as its path. -/
def shown (text : String) : String :=
  if text.toList.head? = some '/' then String.ofList (beforeFragment text.toList)
  else if text = "*" then "*"
  else if text.toList.all Authority.isInside then ""
  else
    let after := (text.toList.dropWhile Scheme.isCharacter).drop 3
    let target := String.ofList (beforeFragment (after.dropWhile Authority.isInside))
    if target = "" then "/" else target

theorem beforeFragment_append {target fragment : String} (hplain : '#' ∉ target.toList)
    (hfragment : IsFragment fragment) :
    beforeFragment (target.toList ++ fragment.toList) = target.toList := by
  refine takeWhile_append_rest (fun c hc => ?_) (fun c hc => ?_)
  · exact decide_eq_true fun heq => hplain (heq ▸ hc)
  · simp [hfragment c hc]

theorem isInside_head?_append {target fragment : String}
    (htarget : ∀ c ∈ target.toList.head?, c = '/' ∨ c = '?') (hfragment : IsFragment fragment) :
    ∀ c ∈ (target.toList ++ fragment.toList).head?, Authority.isInside c = false := by
  intro c hc
  cases htext : target.toList with
  | nil =>
    rw [htext, List.nil_append] at hc
    rw [hfragment c hc]
    decide
  | cons first more =>
    rw [htext] at hc htarget
    obtain rfl : first = c := Option.some.inj hc
    rcases htarget first rfl with rfl | rfl <;> decide

/-- No character of a scheme is a colon, so `://` is found; and the slashes in it tell the text from
the other forms. -/
theorem shown_of_absolute {text : String} {scheme host rest : List Char}
    (hscheme : ∀ c ∈ scheme, Scheme.isCharacter c = true)
    (hhost : ∀ c ∈ host, Authority.isInside c = true)
    (hrest : ∀ c ∈ rest.head?, Authority.isInside c = false)
    (htext : text.toList = scheme ++ ':' :: '/' :: '/' :: (host ++ rest)) :
    shown text =
      if String.ofList (beforeFragment rest) = "" then "/"
      else String.ofList (beforeFragment rest) := by
  have hcolon : ∀ after : List Char, ∀ c ∈ (':' :: after).head?, Scheme.isCharacter c = false := by
    rintro after c ⟨⟩
    decide
  have hslash : ¬ text.toList.head? = some '/' := by
    rw [htext]
    cases scheme with
    | nil => simp
    | cons first more =>
      rintro ⟨⟩
      exact absurd (hscheme '/' List.mem_cons_self) (by decide)
  have hinside : ¬ text.toList.all Authority.isInside = true := by
    rw [htext, List.all_eq_true]
    exact fun hall => absurd (hall '/' (by simp)) (by decide)
  have hstar : ¬ text = "*" := by
    rintro rfl
    exact hinside (by decide)
  unfold shown
  rw [if_neg hslash, if_neg hstar, if_neg hinside, htext, dropWhile_append_rest hscheme (hcolon _)]
  simp only [List.drop_succ_cons, List.drop_zero]
  rw [dropWhile_append_rest hhost hrest]

/-- The parts of a form are found from left to right. -/
theorem Form.eq_shown {text path : String} (h : Form text path) : path = shown text := by
  cases h with
  | origin hslash hplain hfragment =>
    obtain ⟨more, hmore⟩ := List.head?_eq_some_iff.1 hslash
    rw [shown, String.toList_append, if_pos (by simp [hmore]),
      beforeFragment_append hplain hfragment, String.ofList_toList]
  | asterisk => rfl
  | absolute hscheme hhost htarget hplain hfragment =>
    rw [shown_of_absolute hscheme hhost (isInside_head?_append htarget hfragment) (by simp),
      beforeFragment_append hplain hfragment, String.ofList_toList]
  | authority hhost hne =>
    have hslash : ¬ text.toList.head? = some '/' := fun hhead =>
      absurd (hhost '/' (List.mem_of_mem_head? hhead)) (by decide)
    rw [shown, if_neg hslash, if_neg hne, if_pos (List.all_eq_true.2 hhost)]

end Uri

/-! ## What is accepted has a form -/

/-- A text is its part in front of the fragment, and the fragment. -/
theorem Uri.exists_fragment (cs : List Char) :
    ∃ fragment, IsFragment fragment ∧
      String.ofList cs = String.ofList (beforeFragment cs) ++ fragment := by
  refine ⟨String.ofList (cs.dropWhile (· ≠ '#')), fun c hc => ?_, ?_⟩
  · rw [String.toList_ofList] at hc
    simpa using eq_false_of_mem_head?_dropWhile c hc
  · rw [← String.ofList_append, beforeFragment, List.takeWhile_append_dropWhile]

theorem Uri.notMem_beforeFragment (cs : List Char) :
    '#' ∉ (String.ofList (beforeFragment cs)).toList := by
  rw [String.toList_ofList]
  exact fun hsign => absurd (List.mem_takeWhile_imp hsign) (by decide)

/-! ### Targets -/

namespace Target

theorem querySuffix_of_readQuery? {cs : List Char} {path : String} {query : Option String}
    (hcs : ∀ c ∈ cs.head?, isInPath c = false) (h : readQuery? cs = .ok query) :
    querySuffix { path, query } = String.ofList (Uri.beforeFragment cs) := by
  unfold readQuery? at h
  split at h
  next rest =>
    dsimp only at h
    split at h
    next =>
      obtain rfl := Except.ok.inj h
      rw [Uri.beforeFragment, List.takeWhile_cons_of_pos (by decide), String.ofList_cons]
      rfl
    next => cases h
  next hmark =>
    obtain rfl := Except.ok.inj h
    -- where no query follows, the text ends or the fragment begins
    cases cs with
    | nil => rfl
    | cons c more =>
      have hstop : isInPath c = false := hcs c rfl
      obtain rfl | rfl : c = '?' ∨ c = '#' := by simpa [isInPath, or_iff_not_imp_left] using hstop
      · exact absurd rfl (hmark more)
      · rfl

/-- A target is shown as it was written, up to the fragment. -/
theorem text_of_read? {cs : List Char} {target : Target} (h : read? cs = .ok target) :
    target.text =
      if String.ofList (Uri.beforeFragment cs) = "" then "/"
      else String.ofList (Uri.beforeFragment cs) := by
  obtain ⟨-, hpath, hquery⟩ := read?_eq_ok h
  have hpart : ∀ c ∈ cs.takeWhile isInPath, decide (c ≠ '#') = true := fun c hc => by
    have hinside := List.mem_takeWhile_imp hc
    simp only [isInPath, Bool.and_eq_true] at hinside
    exact hinside.2
  have hwritten : target.path ++ target.querySuffix = String.ofList (Uri.beforeFragment cs) := by
    rw [querySuffix_of_readQuery? eq_false_of_mem_head?_dropWhile hquery, hpath,
      ← String.ofList_append, Uri.beforeFragment, Uri.beforeFragment,
      ← List.takeWhile_append_of_pos hpart, List.takeWhile_append_dropWhile]
  rw [text, hwritten]

end Target

/-! ### Schemes -/

namespace Scheme

/-- Lower case changes upper-case letters only. -/
theorem toLower_eq_or_isUpper (c : Char) :
    c.toLower = c ∨ (c.isUpper = true ∧ c.toLower.isLower = true) := by
  unfold Char.toLower
  split
  case isTrue hupper =>
    have hbounds : 65 ≤ c.toNat ∧ c.toNat ≤ 90 := by
      simpa [UInt32.le_iff_toNat_le] using hupper
    right
    unfold Char.isUpper Char.isLower
    refine ⟨decide_eq_true hupper, ?_⟩
    simp [UInt32.le_iff_toNat_le]
    omega
  case isFalse => exact .inl rfl

/-- A scheme that is compared without regard to case was written in some case of letters. -/
theorem exists_of_cut? {scheme : String} {cs after : List Char}
    (hscheme : ∀ c ∈ scheme.toList, c.isLower = true) (h : cut? scheme cs = some after) :
    ∃ written : List Char, (∀ c ∈ written, isCharacter c = true) ∧
      cs = written ++ ':' :: '/' :: '/' :: after := by
  simp only [cut?, Option.ite_none_right_eq_some, Option.some.injEq] at h
  obtain ⟨hopening, hafter⟩ := h
  obtain ⟨written, mark, hcut, hwritten, hmark⟩ := List.map_eq_append_iff.1 hopening
  refine ⟨written, fun c hc => ?_, ?_⟩
  · have hlower : c.toLower.isLower = true := hscheme _ (hwritten ▸ List.mem_map_of_mem hc)
    unfold isCharacter Char.isAlphanum Char.isAlpha
    rcases toLower_eq_or_isUpper c with heq | ⟨hupper, -⟩
    · rw [heq] at hlower
      simp [hlower]
    · simp [hupper]
  · -- the mark has no letter, so it was written as it stands
    have hsame : ∀ c ∈ mark, c.toLower = c := fun c hc => by
      have hlower : c.toLower ∈ [':', '/', '/'] := hmark ▸ List.mem_map_of_mem hc
      refine (toLower_eq_or_isUpper c).resolve_right fun hupper => ?_
      simp only [List.mem_cons, List.not_mem_nil, or_false] at hlower
      rcases hlower with heq | heq | heq <;> exact absurd (heq ▸ hupper.2) (by decide)
    have hplain : mark = [':', '/', '/'] := by
      rw [← hmark, List.map_congr_left hsame, List.map_id']
    calc cs
        = cs.take (scheme.toList ++ [':', '/', '/']).length ++ after := by
          rw [← hafter, List.take_append_drop]
      _ = written ++ ':' :: '/' :: '/' :: after := by
          rw [hcut, hplain, List.append_assoc]
          rfl

/-- A scheme that was found was written in front of `://`, in some case of letters. -/
theorem exists_written {cs after : List Char} {scheme : String}
    (h : split? cs = .ok (some (scheme, after))) :
    ∃ written : List Char, (∀ c ∈ written, isCharacter c = true) ∧
      cs = written ++ ':' :: '/' :: '/' :: after := by
  rcases split?_eq_ok_some h with ⟨-, hcut⟩ | ⟨-, hcut⟩ | ⟨-, hrest⟩
  · exact exists_of_cut? (List.all_eq_true.1 (by decide)) hcut
  · exact exists_of_cut? (List.all_eq_true.1 (by decide)) hcut
  · refine ⟨cs.takeWhile isCharacter, fun c hc => List.mem_takeWhile_imp hc, ?_⟩
    rw [← hrest, List.takeWhile_append_dropWhile]

end Scheme

/-! ### URIs -/

namespace Uri

theorem head?_beforeFragment (cs : List Char) :
    (String.ofList (beforeFragment cs)).toList.head? = cs.head?.filter (· ≠ '#') := by
  rw [String.toList_ofList, beforeFragment, List.head?_takeWhile]

/-- A text that starts with a slash is a target and a fragment. -/
theorem exists_target {text : String} (hslash : text.toList.head? = some '/') :
    ∃ fragment target, target = String.ofList (beforeFragment text.toList) ∧
      text = target ++ fragment ∧ target.toList.head? = some '/' ∧ '#' ∉ target.toList ∧
        IsFragment fragment ∧ target ≠ "" := by
  obtain ⟨fragment, hfragment, htext⟩ := exists_fragment text.toList
  rw [String.ofList_toList] at htext
  have hhead : (String.ofList (beforeFragment text.toList)).toList.head? = some '/' := by
    rw [head?_beforeFragment, hslash]
    rfl
  refine ⟨fragment, _, rfl, htext, hhead, notMem_beforeFragment _, hfragment, fun hempty => ?_⟩
  rw [hempty] at hhead
  cases hhead

/-- What stands behind an authority is a path, a query, or a fragment. -/
theorem head?_afterAuthority (cs : List Char) :
    ∀ c ∈ (String.ofList (beforeFragment (cs.dropWhile Authority.isInside))).toList.head?,
      c = '/' ∨ c = '?' := by
  intro c hc
  rw [head?_beforeFragment, Option.mem_filter_iff] at hc
  have hstop : Authority.isInside c = false := eq_false_of_mem_head?_dropWhile c hc.1
  have hsign : c ≠ '#' := of_decide_eq_true hc.2
  simpa [Authority.isInside, hsign, or_iff_not_imp_left] using hstop

/-- An accepted text has the form of what was read. -/
theorem form_of_read? {text : String} {uri : Uri} (h : read? text = .ok uri) :
    Form text uri.received := by
  obtain ⟨-, hform⟩ := read?_eq_ok h
  rcases hform with ⟨hstar, rfl⟩ | ⟨rest, target, hslash, htarget, rfl⟩ | hfull
  · obtain rfl : text = "*" := String.toList_inj.1 hstar
    exact Form.asterisk
  · have hhead : text.toList.head? = some '/' := by rw [hslash, List.head?_cons]
    obtain ⟨fragment, written, hwritten, htext, hstart, hplain, hfragment, hne⟩ :=
      exists_target hhead
    rw [received, Target.text_of_read? htarget, ← hwritten, if_neg hne, htext]
    exact Form.origin hstart hplain hfragment
  · rcases readFull?_eq_ok hfull with ⟨-, host, hhost, rfl⟩ |
      ⟨scheme, after, host, rest, target, hscheme, hhost, -, htarget, rfl⟩
    · -- the asterisk is read before an authority is looked for
      obtain ⟨-, hrest, -⟩ := Authority.read?_eq_ok hhost
      refine Form.authority (List.dropWhile_eq_nil_iff.1 hrest.symm) ?_
      rintro rfl
      cases h
    · -- the text is cut where the reader has cut it: at the mark, the authority and the fragment
      obtain ⟨written, hwritten, htext⟩ := Scheme.exists_written hscheme
      obtain ⟨rfl, rfl, -⟩ := Authority.read?_eq_ok hhost
      obtain ⟨fragment, hfragment, hrest⟩ := exists_fragment (after.dropWhile Authority.isInside)
      have hscheme' : ∀ c ∈ (String.ofList written).toList, Scheme.isCharacter c = true := by
        simpa using hwritten
      have hhost' : ∀ c ∈ (String.ofList (after.takeWhile Authority.isInside)).toList,
          Authority.isInside c = true := by
        rw [String.toList_ofList]
        exact fun c hc => List.mem_takeWhile_imp hc
      have hform := Form.absolute hscheme' hhost' (head?_afterAuthority after)
        (notMem_beforeFragment _) hfragment
      have hwhole : String.ofList written ++ "://" ++
          String.ofList (after.takeWhile Authority.isInside) ++
          (String.ofList (beforeFragment (after.dropWhile Authority.isInside)) ++ fragment) =
            text := by
        rw [← hrest, ← String.toList_inj, htext]
        simp
      rw [String.append_assoc, hwhole] at hform
      rwa [received, Target.text_of_read? htarget]

end Uri

/-! ## The path of an access entry -/

namespace Access.Tracker

theorem path_ofRequest_iff {method : Http.Method} {text : String} {uri : Uri}
    (h : Uri.read? text = .ok uri) (path : String) :
    (ofRequest method uri).path = path ↔ Uri.Form text path := by
  have hreceived : Uri.Form text (ofRequest method uri).path := Uri.form_of_read? h
  constructor
  · rintro rfl
    exact hreceived
  · exact fun hform => hreceived.eq_shown.trans hform.eq_shown.symm

/-- The path of an entry is the target as received: of every accepted URI it is the part that its
form names, nothing decoded or encoded anew.  And a target that is accepted by itself and after a
scheme and an authority gets the same path both times. -/
theorem path_as_received :
    (∀ (method : Http.Method) (text : String) (uri : Uri), Uri.read? text = .ok uri →
      ∀ path, (ofRequest method uri).path = path ↔ Uri.Form text path) ∧
    ∀ (method other : Http.Method) (scheme host target : String) (uri absolute : Uri),
      (∀ c ∈ scheme.toList, Scheme.isCharacter c = true) →
      (∀ c ∈ host.toList, Authority.isInside c = true) →
      target.toList.head? = some '/' →
      Uri.read? target = .ok uri →
      Uri.read? (scheme ++ "://" ++ host ++ target) = .ok absolute →
      (ofRequest method uri).path = (ofRequest other absolute).path := by
  refine ⟨fun method text uri h => path_ofRequest_iff h, ?_⟩
  intro method other scheme host target uri absolute hscheme hhost hslash h habsolute
  obtain ⟨fragment, path, -, rfl, hstart, hplain, hfragment, hne⟩ := Uri.exists_target hslash
  have hpath : (ofRequest method uri).path = path :=
    (path_ofRequest_iff h path).2 (Uri.Form.origin hstart hplain hfragment)
  have hform : Uri.Form (scheme ++ "://" ++ host ++ path ++ fragment)
      (if path = "" then "/" else path) :=
    Uri.Form.absolute hscheme hhost (fun c hc => .inl (by simpa [hstart, eq_comm] using hc))
      hplain hfragment
  rw [String.append_assoc, if_neg hne] at hform
  rw [hpath, (path_ofRequest_iff habsolute path).2 hform]

/-- A query directly behind the authority, which looks like a URI itself, and a target with a second
question mark and a fragment that looks like a path. -/
theorem path_as_received_misleading :
    Uri.Form "HTTP://h?q=a://b/#c?d" "?q=a://b/" ∧
      (ofRequest .get (.path { path := "/ship", query := some "to=http://h/?" })).path =
        (ofRequest .head
          (.absolute "https" "u@h:443" { path := "/ship", query := some "to=http://h/?" })).path :=
  ⟨(path_as_received.1 .get "HTTP://h?q=a://b/#c?d"
      (.absolute "http" "h" { path := "", query := some "q=a://b/" }) (by rfl) "?q=a://b/").1 rfl,
    path_as_received.2 .get .head "https" "u@h:443" "/ship?to=http://h/?#/x" _ _
      (List.all_eq_true.1 (by decide)) (List.all_eq_true.1 (by decide)) (by decide) (by rfl)
      (by rfl)⟩

end Access.Tracker

end ShipTelemetry
