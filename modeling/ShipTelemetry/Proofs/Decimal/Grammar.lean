import ShipTelemetry.Decimal

/-!
# The grammar of decimal literals

A decimal literal is a sign or none, digits with a point among, before or after them or without
one, and an exponent or none.  `SpellsLiteral` says this without a word on how such a text is
read, and the reader gives back exactly the parts of what is spelled (`read?_eq_some_iff`).
-/

namespace ShipTelemetry.Decimal

/-! ## The grammar -/

/-- All characters are decimal digits. -/
def AreDigits (cs : List Char) : Prop := ∀ c ∈ cs, c.isDigit = true

instance (cs : List Char) : Decidable (AreDigits cs) := inferInstanceAs (Decidable (∀ c ∈ cs, _))

/-- A sign, which is `true` for a minus, may be left out. -/
inductive SpellsSign : Bool → List Char → Prop
  | none : SpellsSign false []
  | plus : SpellsSign false ['+']
  | minus : SpellsSign true ['-']

/-- Digits before and after a point.  On one side of it there need not be any, and without any
after it the point may be left out. -/
inductive SpellsDigits : List Char → List Char → List Char → Prop
  | whole {whole : List Char} : whole ≠ [] → AreDigits whole → SpellsDigits whole [] whole
  | both {whole fraction : List Char} : whole ≠ [] → AreDigits whole → AreDigits fraction →
      SpellsDigits whole fraction (whole ++ '.' :: fraction)
  | fraction {fraction : List Char} : fraction ≠ [] → AreDigits fraction →
      SpellsDigits [] fraction ('.' :: fraction)

/-- An exponent may be left out, and is zero then. -/
inductive SpellsExponent : Int → List Char → Prop
  | none : SpellsExponent 0 []
  | written {letter : Char} {negative : Bool} {sign digits : List Char} :
      letter = 'e' ∨ letter = 'E' → SpellsSign negative sign → digits ≠ [] → AreDigits digits →
        SpellsExponent (if negative then -(digitsValue digits : Int) else digitsValue digits)
          (letter :: (sign ++ digits))

/-- A text spells a decimal literal. -/
inductive SpellsLiteral : Literal → List Char → Prop
  | literal {negative : Bool} {whole fraction sign digits exponent : List Char} {power : Int} :
      SpellsSign negative sign → SpellsDigits whole fraction digits →
        SpellsExponent power exponent →
          SpellsLiteral { negative, whole, fraction, exponent := power }
            (sign ++ digits ++ exponent)

/-! ## What each step sets aside is spelled -/

variable {cs : List Char}

theorem exists_sign (cs : List Char) :
    ∃ sign, cs = sign ++ (splitSign cs).2 ∧ SpellsSign (splitSign cs).1 sign := by
  unfold splitSign
  split
  next rest => exact ⟨['-'], rfl, .minus⟩
  next rest => exact ⟨['+'], rfl, .plus⟩
  next => exact ⟨[], rfl, .none⟩

theorem splitDigits_append (cs : List Char) : (splitDigits cs).1 ++ (splitDigits cs).2 = cs :=
  List.takeWhile_append_dropWhile

theorem areDigits_splitDigits (cs : List Char) : AreDigits (splitDigits cs).1 :=
  fun c hc => List.all_eq_true.1 List.all_takeWhile c hc

theorem exists_digits {whole : List Char} (hwhole : AreDigits whole)
    (hne : ¬ (whole = [] ∧ (splitFraction cs).1 = [])) :
    ∃ digits, whole ++ cs = digits ++ (splitFraction cs).2 ∧
      SpellsDigits whole (splitFraction cs).1 digits := by
  unfold splitFraction at hne ⊢
  split
  next after =>
    have hfraction := areDigits_splitDigits after
    refine ⟨whole ++ '.' :: (splitDigits after).1, by simp [splitDigits_append], ?_⟩
    by_cases hempty : whole = []
    · subst hempty
      exact .fraction (fun h => hne ⟨rfl, h⟩) hfraction
    · exact .both hempty hwhole hfraction
  next hpoint =>
    refine ⟨whole, rfl, .whole (fun h => hne ⟨h, ?_⟩) hwhole⟩
    split
    next rest => exact absurd rfl (hpoint rest)
    next => rfl

theorem spellsExponent_of_readExponent? {power : Int} (h : readExponent? cs = some power) :
    SpellsExponent power cs := by
  cases cs with
  | nil =>
      cases h
      exact .none
  | cons letter rest =>
      rw [readExponent?] at h
      split at h
      next hletter =>
        obtain ⟨sign, hrest, hsign⟩ := exists_sign rest
        dsimp only at h
        split at h
        next hdigits =>
          cases h
          have hspelled := SpellsExponent.written hletter hsign hdigits.1
            (fun c hc => List.all_eq_true.1 hdigits.2 c hc)
          rwa [← hrest] at hspelled
        next => cases h
      next => cases h

/-! ## What is spelled is set aside -/

/-- No digit comes first. -/
def StopsDigits (cs : List Char) : Prop := ∀ c rest, cs = c :: rest → c.isDigit = false

theorem splitDigits_of_areDigits {digits rest : List Char} (hdigits : AreDigits digits)
    (hrest : StopsDigits rest) : splitDigits (digits ++ rest) = (digits, rest) := by
  unfold splitDigits
  rw [List.takeWhile_append_of_pos hdigits, List.dropWhile_append_of_pos hdigits]
  cases rest with
  | nil => simp
  | cons c more => simp [hrest c more rfl]

theorem splitSign_append {negative : Bool} {sign : List Char} (h : SpellsSign negative sign)
    (rest : List Char) (hrest : ∀ c more, rest = c :: more → c ≠ '+' ∧ c ≠ '-') :
    splitSign (sign ++ rest) = (negative, rest) := by
  cases h with
  | none =>
      unfold splitSign
      rw [List.nil_append]
      split
      next more => exact absurd rfl (hrest _ more rfl).2
      next more => exact absurd rfl (hrest _ more rfl).1
      next => rfl
  | plus => rfl
  | minus => rfl

theorem not_sign_of_isDigit {c : Char} (h : c.isDigit = true) : c ≠ '+' ∧ c ≠ '-' := by
  constructor <;> (rintro rfl; exact absurd h (by decide))

theorem splitSign_digits {negative : Bool} {sign digits : List Char}
    (hsign : SpellsSign negative sign) (hne : digits ≠ []) (hdigits : AreDigits digits)
    (rest : List Char) : splitSign (sign ++ (digits ++ rest)) = (negative, digits ++ rest) := by
  refine splitSign_append hsign _ fun c more hcons => ?_
  obtain ⟨first, others, rfl⟩ := List.exists_cons_of_ne_nil hne
  obtain ⟨rfl, -⟩ := List.cons.inj hcons
  exact not_sign_of_isDigit (hdigits first List.mem_cons_self)

theorem readExponent?_of_spellsExponent {power : Int} (h : SpellsExponent power cs) :
    readExponent? cs = some power := by
  cases h with
  | none => rfl
  | written hletter hsign hne hdigits =>
      have hsplit := splitSign_digits hsign hne hdigits []
      have hall := List.all_eq_true.2 hdigits
      rw [List.append_nil] at hsplit
      rw [readExponent?, if_pos hletter, hsplit]
      exact if_pos ⟨hne, hall⟩

theorem stops_exponent {power : Int} (h : SpellsExponent power cs) :
    StopsDigits cs ∧ ∀ rest, cs ≠ '.' :: rest := by
  cases h with
  | none => exact ⟨by rintro c rest ⟨⟩, by rintro rest ⟨⟩⟩
  | written hletter =>
      constructor
      · rintro c rest hcons
        obtain ⟨rfl, -⟩ := List.cons.inj hcons
        rcases hletter with rfl | rfl <;> rfl
      · rintro rest hcons
        obtain ⟨rfl, -⟩ := List.cons.inj hcons
        rcases hletter with h | h <;> cases h

namespace Literal

variable {l : Literal}

/-- What the reader gives if each of its steps gives something. -/
theorem read?_of_steps {negative : Bool} {unsigned whole afterWhole fraction rest : List Char}
    {power : Int} (hsign : splitSign cs = (negative, unsigned))
    (hwhole : splitDigits unsigned = (whole, afterWhole))
    (hfraction : splitFraction afterWhole = (fraction, rest))
    (hne : ¬ (whole = [] ∧ fraction = [])) (hexponent : readExponent? rest = some power) :
    read? cs = some { negative, whole, fraction, exponent := power } := by
  simp only [read?, hsign, hwhole, hfraction, if_neg hne, hexponent, Option.map_some]

theorem read?_of_spellsLiteral (h : SpellsLiteral l cs) : read? cs = some l := by
  obtain @⟨negative, whole, fraction, sign, digits, exponent, power, hsign, hdigits, hexponent⟩ := h
  obtain ⟨hstops, hnoPoint⟩ := stops_exponent hexponent
  have hread := readExponent?_of_spellsExponent hexponent
  have hpoint : ∀ rest, StopsDigits ('.' :: rest) := by
    rintro rest c more hcons
    obtain ⟨rfl, -⟩ := List.cons.inj hcons
    rfl
  rw [List.append_assoc]
  cases hdigits with
  | whole hne hdigits =>
      have hfraction : splitFraction exponent = ([], exponent) := by
        unfold splitFraction
        split
        next rest => exact absurd rfl (hnoPoint rest)
        next => rfl
      exact read?_of_steps (splitSign_digits hsign hne hdigits _)
        (splitDigits_of_areDigits hdigits hstops) hfraction (fun h => hne h.1) hread
  | both hne hwhole hfraction =>
      rw [List.append_assoc]
      exact read?_of_steps (splitSign_digits hsign hne hwhole _)
        (splitDigits_of_areDigits hwhole (hpoint _))
        (splitDigits_of_areDigits hfraction hstops) (fun h => hne h.1) hread
  | fraction hne hfraction =>
      have hnone : AreDigits [] := fun _ h => absurd h List.not_mem_nil
      have hsplit := splitSign_append hsign ('.' :: (fraction ++ exponent))
        (by rintro c more ⟨⟩; decide)
      exact read?_of_steps hsplit (splitDigits_of_areDigits hnone (hpoint _))
        (splitDigits_of_areDigits hfraction hstops) (fun h => hne h.2) hread

/-- The reader takes exactly the decimal literals, and takes them apart as they are spelled. -/
theorem read?_eq_some_iff : read? cs = some l ↔ SpellsLiteral l cs := by
  refine ⟨fun h => ?_, read?_of_spellsLiteral⟩
  obtain ⟨sign, hcs, hsign⟩ := exists_sign cs
  unfold read? at h
  dsimp only at h
  split at h
  next => cases h
  next hne =>
    obtain ⟨power, hpower, rfl⟩ := Option.map_eq_some_iff.1 h
    obtain ⟨digits, hdigits, hspelled⟩ := exists_digits (areDigits_splitDigits _) hne
    have hliteral := SpellsLiteral.literal hsign hspelled (spellsExponent_of_readExponent? hpower)
    rwa [List.append_assoc, ← hdigits, splitDigits_append, ← hcs] at hliteral

/-- A text spells one literal at most. -/
theorem unique_of_spellsLiteral {other : Literal} (h : SpellsLiteral l cs)
    (hother : SpellsLiteral other cs) : other = l := by
  rw [← read?_eq_some_iff] at h hother
  exact Option.some.inj (hother.symm.trans h)

end Literal

end ShipTelemetry.Decimal
