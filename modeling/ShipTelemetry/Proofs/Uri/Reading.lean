import ShipTelemetry.Uri

/-!
# What has been read when a target has been read

One inversion lemma for each reader of request targets: what its text looked like, and what
came of it.  Facts about accepted targets are proved from these, without looking into the
readers again.
-/

namespace ShipTelemetry

/-! ## Paths and queries -/

namespace Target

/-- The character is in front of the query and the fragment. -/
def isInPath (c : Char) : Bool := c ≠ '?' && c ≠ '#'

theorem readQuery?_eq_ok {cs : List Char} {query : Option String}
    (h : readQuery? cs = .ok query) :
    query = none ∨ ∃ rest, cs = '?' :: rest ∧
      (∀ c ∈ rest.takeWhile (· ≠ '#'), isQueryCode c.toNat = true) ∧
      query = some (String.ofList (rest.takeWhile (· ≠ '#'))) := by
  unfold readQuery? at h
  split at h
  next rest =>
    dsimp only at h
    split at h
    next hcodes => exact .inr ⟨rest, rfl, List.all_eq_true.1 hcodes, (Except.ok.inj h).symm⟩
    next => cases h
  next => exact .inl (Except.ok.inj h).symm

theorem read?_eq (cs : List Char) :
    read? cs =
      if (cs.takeWhile isInPath).all fun c => isPathCode c.toNat then
        match readQuery? (cs.dropWhile isInPath) with
        | .error e => .error e
        | .ok query => .ok { path := String.ofList (cs.takeWhile isInPath), query }
      else .error .invalidCharacter := rfl

theorem read?_eq_ok {cs : List Char} {target : Target} (h : read? cs = .ok target) :
    (∀ c ∈ cs.takeWhile isInPath, isPathCode c.toNat = true) ∧
      target.path = String.ofList (cs.takeWhile isInPath) ∧
      readQuery? (cs.dropWhile isInPath) = .ok target.query := by
  rw [read?_eq] at h
  split at h
  next hcodes =>
    cases hquery : readQuery? (cs.dropWhile isInPath) with
    | error e => simp [hquery] at h
    | ok query =>
        rw [hquery] at h
        cases h
        exact ⟨List.all_eq_true.1 hcodes, rfl, rfl⟩
  next => cases h

end Target

/-! ## Authorities and schemes -/

theorem Authority.read?_eq_ok {cs host rest : List Char} (h : read? cs = .ok (host, rest)) :
    host = cs.takeWhile isInside ∧ rest = cs.dropWhile isInside ∧
      ∃ seen, scan {} host = .ok seen ∧ isClosed seen host = true := by
  unfold read? at h
  cases hscan : scan {} (cs.takeWhile isInside) with
  | error e => simp [hscan] at h
  | ok seen =>
      simp only [hscan] at h
      split at h
      next hclosed =>
        obtain ⟨rfl, rfl⟩ : cs.takeWhile isInside = host ∧ cs.dropWhile isInside = rest := by
          simpa using h
        exact ⟨rfl, rfl, seen, hscan, hclosed⟩
      next => cases h

/-- What stands after a scheme stood in the text. -/
theorem Scheme.mem_of_cut? {scheme : String} {cs after : List Char}
    (h : cut? scheme cs = some after) : ∀ c ∈ after, c ∈ cs := by
  simp only [cut?, Option.ite_none_right_eq_some, Option.some.injEq] at h
  rw [← h.2]
  exact fun c hc => List.mem_of_mem_drop hc

theorem Scheme.split?_eq_ok_some {cs after : List Char} {scheme : String}
    (h : split? cs = .ok (some (scheme, after))) :
    (scheme = "http" ∧ cut? "http" cs = some after) ∨
      (scheme = "https" ∧ cut? "https" cs = some after) ∨
      (scheme = String.ofList (cs.takeWhile isCharacter) ∧
        cs.dropWhile isCharacter = ':' :: '/' :: '/' :: after) := by
  unfold split? at h
  cases hhttp : cut? "http" cs with
  | some rest =>
      simp only [hhttp, Except.ok.injEq, Option.some.injEq, Prod.mk.injEq] at h
      exact .inl ⟨h.1.symm, by rw [h.2]⟩
  | none =>
      cases hhttps : cut? "https" cs with
      | some rest =>
          simp only [hhttp, hhttps, Except.ok.injEq, Option.some.injEq, Prod.mk.injEq] at h
          exact .inr (.inl ⟨h.1.symm, by rw [h.2]⟩)
      | none =>
          simp only [hhttp, hhttps] at h
          split at h
          next rest hrest =>
            split at h
            next => cases h
            next =>
              split at h
              next => cases h
              next =>
                simp only [Except.ok.injEq, Option.some.injEq, Prod.mk.injEq] at h
                exact .inr (.inr ⟨h.1.symm, by rw [hrest, h.2]⟩)
          next => cases h

/-! ## URIs -/

namespace Uri

theorem readFull?_eq_ok {cs : List Char} {uri : Uri} (h : readFull? cs = .ok uri) :
    (Scheme.split? cs = .ok none ∧
        ∃ host, Authority.read? cs = .ok (host, []) ∧ uri = authority (String.ofList host)) ∨
      ∃ scheme after host rest target, Scheme.split? cs = .ok (some (scheme, after)) ∧
        Authority.read? after = .ok (host, rest) ∧ host ≠ [] ∧
        Target.read? rest = .ok target ∧ uri = absolute scheme (String.ofList host) target := by
  unfold readFull? at h
  cases hscheme : Scheme.split? cs with
  | error e => simp [hscheme] at h
  | ok found =>
      cases found with
      | none =>
          cases hhost : Authority.read? cs with
          | error e => simp [hscheme, hhost] at h
          | ok parts =>
              obtain ⟨host, rest⟩ := parts
              simp only [hscheme, hhost] at h
              split at h
              next hrest => exact .inl ⟨rfl, host, by rw [hrest], (Except.ok.inj h).symm⟩
              next => split at h <;> cases h
      | some parts =>
          obtain ⟨scheme, after⟩ := parts
          simp only [hscheme] at h
          split at h
          next => cases h
          next =>
            cases hhost : Authority.read? after with
            | error e => simp [hhost] at h
            | ok parts =>
                obtain ⟨host, rest⟩ := parts
                simp only [hhost] at h
                split at h
                next => cases h
                next hne =>
                  cases htarget : Target.read? rest with
                  | error e => simp [htarget] at h
                  | ok target =>
                      simp only [htarget, Except.ok.injEq] at h
                      exact .inr ⟨scheme, after, host, rest, target, rfl, hhost, hne, htarget,
                        h.symm⟩

/-- An accepted target is the asterisk, a path and a query, an authority, or an absolute
URI. -/
theorem read?_eq_ok {text : String} {uri : Uri} (h : read? text = .ok uri) :
    text.utf8ByteSize ≤ maxBytes ∧
      ((text.toList = ['*'] ∧ uri = path { path := "*", query := none }) ∨
        (∃ rest target, text.toList = '/' :: rest ∧ Target.read? text.toList = .ok target ∧
          uri = path target) ∨
        readFull? text.toList = .ok uri) := by
  unfold read? at h
  split at h
  next => cases h
  next hsize =>
    refine ⟨by omega, ?_⟩
    split at h
    next => cases h
    next htext => exact .inl ⟨htext, (Except.ok.inj h).symm⟩
    next rest htext =>
      cases htarget : Target.read? ('/' :: rest) with
      | error e => simp [htarget] at h
      | ok target =>
          simp only [htarget, Except.ok.injEq] at h
          exact .inr (.inl ⟨rest, target, htext, by rw [htext, htarget], h.symm⟩)
    next => exact .inr (.inr h)

/-- The route of a target that starts with a slash is its text up to the query, undecoded. -/
theorem route_of_read?_slash {text : String} {uri : Uri} (h : read? text = .ok uri)
    (hslash : text.toList.head? = some '/') :
    uri.route = String.ofList (text.toList.takeWhile Target.isInPath) := by
  obtain ⟨rest, hrest⟩ : ∃ rest, text.toList = '/' :: rest := List.head?_eq_some_iff.1 hslash
  unfold read? at h
  split at h
  next => cases h
  next =>
    simp only [hrest] at h
    cases htarget : Target.read? ('/' :: rest) with
    | error e => simp [htarget] at h
    | ok target =>
        simp only [htarget, Except.ok.injEq] at h
        obtain ⟨-, hpath, -⟩ := Target.read?_eq_ok htarget
        have hne : target.path ≠ "" := by
          rw [hpath, List.takeWhile_cons_of_pos (by decide)]
          simp
        rw [← h, hrest, ← hpath]
        exact if_neg hne

end Uri

/-! ## Targets that are accepted -/

theorem Target.isInPath_of_isPathCode {c : Char} (h : isPathCode c.toNat = true) :
    isInPath c = true := by
  have hmark : c ≠ '?' := by rintro rfl; exact absurd h (by decide)
  have hsign : c ≠ '#' := by rintro rfl; exact absurd h (by decide)
  simp [isInPath, hmark, hsign]

theorem Target.readQuery?_cons {query : List Char}
    (hquery : ∀ c ∈ query, isQueryCode c.toNat = true) :
    readQuery? ('?' :: query) = .ok (some (String.ofList query)) := by
  have hwhole : query.takeWhile (· ≠ '#') = query := by
    have hsign : ∀ c ∈ query, decide (c ≠ '#') = true := fun c hc => by
      refine decide_eq_true ?_
      rintro rfl
      exact absurd (hquery _ hc) (by decide)
    have hend : (query ++ []).takeWhile (· ≠ '#') = query ++ [].takeWhile (· ≠ '#') :=
      List.takeWhile_append_of_pos hsign
    simpa using hend
  simp only [readQuery?]
  rw [hwhole, if_pos (List.all_eq_true.2 hquery)]

theorem Target.read?_append {path query : List Char}
    (hpath : ∀ c ∈ path, isPathCode c.toNat = true)
    (hquery : ∀ c ∈ query, isQueryCode c.toNat = true) :
    read? (path ++ '?' :: query) =
      .ok { path := String.ofList path, query := some (String.ofList query) } := by
  have hinside : ∀ c ∈ path, isInPath c = true := fun c hc => isInPath_of_isPathCode (hpath c hc)
  have hmark : ¬ isInPath '?' = true := by decide
  rw [read?_eq, List.takeWhile_append_of_pos hinside, List.dropWhile_append_of_pos hinside,
    List.takeWhile_cons_of_neg hmark, List.dropWhile_cons_of_neg hmark, List.append_nil,
    if_pos (List.all_eq_true.2 hpath), readQuery?_cons hquery]

/-- A path that starts with a slash and a query are accepted if their characters and their
size are. -/
theorem Uri.read?_append {path query : String} (hslash : path.toList.head? = some '/')
    (hpath : path.toList.all (isPathCode ·.toNat) = true)
    (hquery : query.toList.all (isQueryCode ·.toNat) = true)
    (hsize : (path ++ "?" ++ query).utf8ByteSize ≤ maxBytes) :
    read? (path ++ "?" ++ query) = .ok (.path { path, query := some query }) := by
  have htext : (path ++ "?" ++ query).toList = path.toList ++ '?' :: query.toList := by simp
  have htarget := Target.read?_append (List.all_eq_true.1 hpath) (List.all_eq_true.1 hquery)
  obtain ⟨rest, hrest⟩ : ∃ rest, path.toList = '/' :: rest := List.head?_eq_some_iff.1 hslash
  unfold read?
  rw [if_neg (by omega), htext]
  rw [hrest, List.cons_append] at htarget ⊢
  simp only [htarget]
  rw [← hrest, String.ofList_toList, String.ofList_toList]

end ShipTelemetry
