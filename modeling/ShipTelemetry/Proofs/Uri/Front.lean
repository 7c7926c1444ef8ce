import ShipTelemetry.Proofs.Text.Cuts
import ShipTelemetry.Proofs.Uri.Reading

/-!
# In front of the question mark

Where a target has a query, what stands in front of the question mark decides its route, and
what stands between the question mark and the fragment is its query (`parts_of_read?`).  So the
two do not depend on each other: however long a query gets, the route stays.

The proof follows the reading of a target.  Each of its readers stops at the question mark at
the latest, and finds in front of it what it would find if nothing followed.
-/

namespace ShipTelemetry

variable {front query rest : List Char} {scheme : String}

/-! ## Paths and queries -/

/-- A target is cut at its question mark, and its query at the fragment. -/
theorem Target.eq_of_read? {path : List Char} {target : Target}
    (hpath : ∀ c ∈ path, isInPath c = true) (h : read? (path ++ '?' :: query) = .ok target) :
    target = { path := String.ofList path
               query := some (String.ofList (query.takeWhile (· ≠ '#'))) } := by
  have hmark : ¬ isInPath '?' = true := by decide
  have hwhole : (path ++ '?' :: query).takeWhile isInPath = path := by
    rw [List.takeWhile_append_of_pos hpath, List.takeWhile_cons_of_neg hmark, List.append_nil]
  have hrest : (path ++ '?' :: query).dropWhile isInPath = '?' :: query := by
    rw [List.dropWhile_append_of_pos hpath, List.dropWhile_cons_of_neg hmark]
  obtain ⟨path', query'⟩ := target
  obtain ⟨-, hwritten, hquery⟩ := read?_eq_ok h
  rw [hwhole] at hwritten
  rw [hrest, readQuery?] at hquery
  dsimp only at hwritten hquery
  split at hquery
  next => rw [hwritten, ← Except.ok.inj hquery]
  next => cases hquery

/-! ## Schemes -/

namespace Scheme

theorem cut?_append (hscheme : '?' ∉ scheme.toList) (front query : List Char) :
    cut? scheme (front ++ '?' :: query) = (cut? scheme front).map (· ++ '?' :: query) := by
  unfold cut?
  dsimp only
  have hopening : '?' ∉ scheme.toList ++ [':', '/', '/'] := by simp [hscheme]
  generalize scheme.toList ++ [':', '/', '/'] = opening at hopening
  by_cases hlength : opening.length ≤ front.length
  · rw [List.take_append_of_le_length hlength, List.drop_append_of_le_length hlength]
    split <;> rfl
  · -- the question mark stands where the opening should, or the text is too short
    have hshort : ¬ (front.take opening.length).map Char.toLower = opening := by
      intro heq
      have hsame := congrArg List.length heq
      rw [List.length_map, List.length_take] at hsame
      omega
    have hmark : ¬ ((front ++ '?' :: query).take opening.length).map Char.toLower = opening := by
      intro heq
      have hmember : '?' ∈ (front ++ '?' :: query).take opening.length := by
        rw [List.take_append]
        refine List.mem_append_right _ ?_
        obtain ⟨n, hn⟩ := Nat.exists_eq_add_of_lt (Nat.not_le.1 hlength)
        rw [hn, show front.length + n + 1 - front.length = n + 1 by omega, List.take_succ_cons]
        exact List.mem_cons_self
      rw [← heq] at hopening
      exact hopening (List.mem_map.2 ⟨'?', hmember, by decide⟩)
    rw [if_neg hmark, if_neg hshort]
    rfl

/-- What stands after the scheme, in front of the question mark. -/
def after? (front : List Char) : Option (List Char) :=
  match cut? "http" front, cut? "https" front with
  | some rest, _ => some rest
  | none, some rest => some rest
  | none, none =>
      match front.dropWhile isCharacter with
      | ':' :: '/' :: '/' :: rest => some rest
      | _ => none

theorem after?_of_split? {after : List Char}
    (h : split? (front ++ '?' :: query) = .ok (some (scheme, after))) :
    ∃ rest, after? front = some rest ∧ after = rest ++ '?' :: query := by
  unfold split? at h
  unfold after?
  rw [cut?_append (by decide), cut?_append (by decide)] at h
  cases hhttp : cut? "http" front with
  | some rest =>
    simp only [hhttp, Option.map_some, Except.ok.injEq, Option.some.injEq, Prod.mk.injEq] at h
    exact ⟨rest, rfl, h.2.symm⟩
  | none =>
    cases hhttps : cut? "https" front with
    | some rest =>
      simp only [hhttp, hhttps, Option.map_some, Option.map_none, Except.ok.injEq,
        Option.some.injEq, Prod.mk.injEq] at h
      exact ⟨rest, rfl, h.2.symm⟩
    | none =>
      have hstop : isCharacter '?' = false := by decide
      simp only [hhttp, hhttps, Option.map_none, dropWhile_append_stop hstop] at h
      split at h
      next more hmore =>
        -- the three characters stand in front of the question mark
        obtain ⟨first, hfirst, hslashes⟩ := eq_cons_of_append_stop (by decide) hmore
        obtain ⟨second, hsecond, hslash⟩ := eq_cons_of_append_stop (by decide) hslashes.symm
        obtain ⟨rest, hthird, hrest⟩ := eq_cons_of_append_stop (by decide) hslash.symm
        refine ⟨rest, by simp only [hfirst, hsecond, hthird], ?_⟩
        split at h
        next => cases h
        next =>
          split at h
          next => cases h
          next =>
            simp only [Except.ok.injEq, Option.some.injEq, Prod.mk.injEq] at h
            rw [← h.2, hrest]
      next => cases h

theorem head?_ne_slash_of_after? (h : after? front = some rest) : front.head? ≠ some '/' := by
  intro hslash
  obtain ⟨more, rfl⟩ := List.head?_eq_some_iff.1 hslash
  have hhttp : cut? "http" ('/' :: more) = none := by simp [cut?]
  have hhttps : cut? "https" ('/' :: more) = none := by simp [cut?]
  have hname : isCharacter '/' = false := by decide
  simp [after?, hhttp, hhttps, hname] at h

theorem mem_of_after? (h : after? front = some rest) : ∀ c ∈ rest, c ∈ front := by
  unfold after? at h
  split at h
  next hhttp => exact mem_of_cut? (hhttp.trans h)
  next hhttps => exact mem_of_cut? (hhttps.trans h)
  next =>
    split at h
    next more hmore =>
      obtain rfl := Option.some.inj h
      intro c hc
      refine (List.dropWhile_sublist isCharacter).mem ?_
      rw [hmore]
      simp [hc]
    next => cases h

end Scheme

/-! ## URIs -/

namespace Uri

/-- The path at the end of a text that a question mark follows. -/
def pathOf (front : List Char) : List Char :=
  if front.head? = some '/' then front
  else ((Scheme.after? front).getD []).dropWhile Authority.isInside

/-- What stands in front of the question mark decides the route, and what stands behind it the
query. -/
theorem parts_of_read? {front query : String} {uri : Uri}
    (hfront : ∀ c ∈ front.toList, Target.isInPath c = true)
    (h : read? (front ++ "?" ++ query) = .ok uri) :
    uri.route = Target.rooted { path := String.ofList (pathOf front.toList), query := none } ∧
      uri.query = String.ofList (query.toList.takeWhile (· ≠ '#')) := by
  have htext : (front ++ "?" ++ query).toList = front.toList ++ '?' :: query.toList := by simp
  obtain ⟨-, h⟩ := read?_eq_ok h
  rw [htext] at h
  unfold pathOf
  rcases h with ⟨hstar, -⟩ | ⟨rest, target, hslash, htarget, rfl⟩ | hfull
  · obtain ⟨tail, hfront, hend⟩ := eq_cons_of_append_stop (by decide) hstar
    exact absurd hend (by simp)
  · obtain ⟨tail, hslash, -⟩ := eq_cons_of_append_stop (by decide) hslash
    rw [Target.eq_of_read? hfront htarget, if_pos (by simp [hslash])]
    exact ⟨rfl, rfl⟩
  · rcases readFull?_eq_ok hfull with ⟨-, host, hhost, -⟩ |
      ⟨scheme, after, host, rest, target, hscheme, hhost, -, htarget, rfl⟩
    · -- an authority alone ends before the question mark
      obtain ⟨-, hrest, -⟩ := Authority.read?_eq_ok hhost
      rw [dropWhile_append_stop (by decide)] at hrest
      exact absurd hrest (by simp)
    · obtain ⟨path, hafter, rfl⟩ := Scheme.after?_of_split? hscheme
      obtain ⟨-, hrest, -⟩ := Authority.read?_eq_ok hhost
      rw [dropWhile_append_stop (by decide)] at hrest
      subst hrest
      have hpath : ∀ c ∈ path.dropWhile Authority.isInside, Target.isInPath c = true :=
        fun c hc => hfront c
          (Scheme.mem_of_after? hafter c ((List.dropWhile_sublist Authority.isInside).mem hc))
      rw [Target.eq_of_read? hpath htarget, if_neg (Scheme.head?_ne_slash_of_after? hafter), hafter]
      exact ⟨rfl, rfl⟩

end Uri

end ShipTelemetry
