import Mathlib.Data.List.TakeWhile

/-!
# Cutting texts

Where a text is put together from parts, the parts are found again if a character shows where
one of them ends: the first character that fails a test of the part in front of it
(`eq_of_append_first`), or the last one that fails a test of the part behind it
(`eq_of_append_last`).
-/

namespace ShipTelemetry

variable {α : Type} {p : α → Bool} {stop : α}

/-! ## At the first place -/

theorem takeWhile_append_stop (hstop : p stop = false) (first rest : List α) :
    (first ++ stop :: rest).takeWhile p = first.takeWhile p := by
  induction first with
  | nil => simp [hstop]
  | cons a more ih => cases ha : p a <;> simp [ha, ih]

theorem dropWhile_append_stop (hstop : p stop = false) (first rest : List α) :
    (first ++ stop :: rest).dropWhile p = first.dropWhile p ++ stop :: rest := by
  induction first with
  | nil => simp [hstop]
  | cons a more ih => cases ha : p a <;> simp [ha, ih]

theorem eq_cons_of_append_stop {a : α} {first rest more : List α} (ha : a ≠ stop)
    (h : first ++ stop :: rest = a :: more) :
    ∃ tail, first = a :: tail ∧ more = tail ++ stop :: rest := by
  cases first with
  | nil => exact absurd (List.cons.inj h).1.symm ha
  | cons b tail =>
    obtain ⟨rfl, rfl⟩ := List.cons.inj h
    exact ⟨tail, rfl, rfl⟩

/-- A part whose characters pass a test is found in front of a rest that does not begin with
such a character. -/
theorem takeWhile_append_rest {part rest : List α} (hpart : ∀ c ∈ part, p c = true)
    (hrest : ∀ c ∈ rest.head?, p c = false) : (part ++ rest).takeWhile p = part := by
  rw [List.takeWhile_append_of_pos hpart]
  cases rest with
  | nil => exact List.append_nil part
  | cons c more =>
    have hstop : p c = false := hrest c rfl
    rw [List.takeWhile_cons_of_neg (by simp [hstop]), List.append_nil]

theorem dropWhile_append_rest {part rest : List α} (hpart : ∀ c ∈ part, p c = true)
    (hrest : ∀ c ∈ rest.head?, p c = false) : (part ++ rest).dropWhile p = rest := by
  rw [List.dropWhile_append_of_pos hpart]
  cases rest with
  | nil => rfl
  | cons c more =>
    have hstop : p c = false := hrest c rfl
    exact List.dropWhile_cons_of_neg (by simp [hstop])

theorem eq_of_append_first {u v rest rest' : List α} (hu : ∀ c ∈ u, p c = true)
    (hrest : ∀ c ∈ rest.head?, p c = false) (hv : ∀ c ∈ v, p c = true)
    (hrest' : ∀ c ∈ rest'.head?, p c = false) (h : u ++ rest = v ++ rest') :
    u = v ∧ rest = rest' := by
  constructor
  · rw [← takeWhile_append_rest hu hrest, h, takeWhile_append_rest hv hrest']
  · rw [← dropWhile_append_rest hu hrest, h, dropWhile_append_rest hv hrest']

theorem eq_false_of_mem_head?_dropWhile {cs : List α} :
    ∀ c ∈ (cs.dropWhile p).head?, p c = false := by
  intro c hc
  have hstop := List.head?_dropWhile_not p cs
  rw [show (cs.dropWhile p).head? = some c from hc] at hstop
  simpa using hstop

/-! ## At the last place -/

/-- What stands behind the last place at which a character stops a test, and what stands before
it. -/
theorem eq_of_append_last (hstop : p stop = false) {first second u v : List α}
    (hu : ∀ c ∈ u, p c = true) (hv : ∀ c ∈ v, p c = true)
    (h : first ++ stop :: u = second ++ stop :: v) : first = second ∧ u = v := by
  -- from the other end it is the first place
  have hreversed : u.reverse ++ stop :: first.reverse = v.reverse ++ stop :: second.reverse := by
    simpa using congrArg List.reverse h
  have hrest : ∀ front : List α, ∀ c ∈ (stop :: front.reverse).head?, p c = false := by
    rintro front c ⟨⟩
    exact hstop
  obtain ⟨hend, hfront⟩ := eq_of_append_first (fun c hc => hu c (List.mem_reverse.1 hc))
    (hrest first) (fun c hc => hv c (List.mem_reverse.1 hc)) (hrest second) hreversed
  exact ⟨List.reverse_inj.1 (List.cons.inj hfront).2, List.reverse_inj.1 hend⟩

end ShipTelemetry
