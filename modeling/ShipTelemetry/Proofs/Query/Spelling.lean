import ShipTelemetry.Proofs.Text.Basic
import ShipTelemetry.Proofs.Text.Utf8
import ShipTelemetry.Uri

/-!
# Spellings in a query

There are many ways to write a text into a form-encoded query.  A character may stand for
itself, if the grammar of targets allows it and it has no meaning of its own; all bytes of it
may be escaped, with digits in either case; and a blank may be a plus.  `SpellsText` relates a
text to all its spellings, and `decode_of_spellsText` says that each of them is decoded to
the text.
-/

namespace ShipTelemetry.Query

open Text

/-! ## Spellings -/

/-- The character stands for itself in a query. -/
def isLiteral (c : Char) : Bool :=
  isQueryCode c.toNat && c ∉ ['&', '=', '+', '%', '#']

/-- A hexadecimal digit in lower and in upper case. -/
def hexForms (n : Nat) : List Char := [Nat.digitChar n, (Nat.digitChar n).toUpper]

/-- The spellings of several things, one after the other. -/
inductive SpellsEach {α : Type} (spells : α → List Char → Prop) : List α → List Char → Prop
  | nil : SpellsEach spells [] []
  | cons {a : α} {more : List α} {first rest : List Char} :
      spells a first → SpellsEach spells more rest →
        SpellsEach spells (a :: more) (first ++ rest)

/-- The spellings of a byte: a percent sign and two digits. -/
inductive SpellsByte (byte : UInt8) : List Char → Prop
  | escape {high low : Char} : high ∈ hexForms (byte.toNat / 16) →
      low ∈ hexForms (byte.toNat % 16) → SpellsByte byte ['%', high, low]

/-- The spellings of a character. -/
inductive SpellsChar : Char → List Char → Prop
  | literal {c : Char} : isLiteral c = true → SpellsChar c [c]
  | escaped {c : Char} {spelled : List Char} :
      SpellsEach SpellsByte (String.utf8EncodeChar c) spelled → SpellsChar c spelled
  | plus : SpellsChar ' ' ['+']

/-- The spellings of a text. -/
def SpellsText (text : String) (spelled : List Char) : Prop :=
  SpellsEach SpellsChar text.toList spelled

/-- The spellings of a key with a value. -/
inductive SpellsPair (key value : String) : List Char → Prop
  | pair {spelledKey spelledValue : List Char} : SpellsText key spelledKey →
      SpellsText value spelledValue → SpellsPair key value (spelledKey ++ '=' :: spelledValue)

/-- Characters that stand for themselves spell a text. -/
theorem spellsText_of_isLiteral {text : String} (h : All isLiteral text) :
    SpellsText text text.toList := by
  unfold SpellsText
  unfold All at h
  generalize text.toList = cs at h
  induction cs with
  | nil => exact .nil
  | cons c rest ih =>
      have hrest := ih fun d hd => h d (List.mem_cons_of_mem c hd)
      exact .cons (.literal (h c List.mem_cons_self)) hrest

/-! ## Decoding a spelling -/

theorem hexValue?_of_mem_hexForms {n : Nat} (hn : n < 16) {c : Char} (hc : c ∈ hexForms n) :
    hexValue? c.toNat = some n := by
  have hall : ∀ m < 16, (hexForms m).all (hexValue? ·.toNat = some m) = true := by decide
  exact of_decide_eq_true (List.all_eq_true.1 (hall n hn) c hc)

theorem unescape_cons_of_ne {c : Char} (h : c ≠ '%') (rest : List Char) :
    unescape (c :: rest) =
      if c = '+' then 0x20 :: unescape rest else String.utf8EncodeChar c ++ unescape rest := by
  rw [unescape]
  intro high low more hc
  exact absurd hc h

theorem unescape_of_spellsByte {byte : UInt8} {spelled : List Char}
    (h : SpellsByte byte spelled) (rest : List Char) :
    unescape (spelled ++ rest) = byte :: unescape rest := by
  obtain ⟨hhigh, hlow⟩ := h
  have hbyte : byte.toNat < 256 := byte.toNat_lt
  have hvalue : UInt8.ofNat (16 * (byte.toNat / 16) + byte.toNat % 16) = byte := by
    rw [Nat.div_add_mod, UInt8.ofNat_toNat]
  simp only [List.cons_append, List.nil_append, unescape, escaped?,
    hexValue?_of_mem_hexForms (by omega) hhigh, hexValue?_of_mem_hexForms (by omega) hlow, hvalue]

/-- What is decoded one thing at a time is decoded as a whole. -/
theorem unescape_of_spellsEach {α : Type} {spells : α → List Char → Prop}
    {bytes : α → List UInt8}
    (hone : ∀ a spelled rest, spells a spelled →
      unescape (spelled ++ rest) = bytes a ++ unescape rest)
    {as : List α} {spelled : List Char} (h : SpellsEach spells as spelled) (rest : List Char) :
    unescape (spelled ++ rest) = as.flatMap bytes ++ unescape rest := by
  induction h with
  | nil => rfl
  | cons hfirst _ ih =>
      rw [List.append_assoc, hone _ _ _ hfirst, ih, List.flatMap_cons, List.append_assoc]

theorem unescape_of_spellsChar {c : Char} {spelled : List Char} (h : SpellsChar c spelled)
    (rest : List Char) :
    unescape (spelled ++ rest) = String.utf8EncodeChar c ++ unescape rest := by
  cases h with
  | literal hliteral =>
      have hpercent : c ≠ '%' := by rintro rfl; exact absurd hliteral (by decide)
      have hplus : c ≠ '+' := by rintro rfl; exact absurd hliteral (by decide)
      rw [List.cons_append, List.nil_append, unescape_cons_of_ne hpercent, if_neg hplus]
  | escaped hbytes =>
      -- the bytes of the character, one escape after the other
      have hone : ∀ byte spelled rest, SpellsByte byte spelled →
          unescape (spelled ++ rest) = [byte] ++ unescape rest :=
        fun byte spelled rest h => unescape_of_spellsByte h rest
      rw [unescape_of_spellsEach hone hbytes]
      simp
  | plus =>
      rw [List.cons_append, List.nil_append, unescape_cons_of_ne (by decide), if_pos rfl]
      rfl

/-- Every spelling of a text is decoded to the text. -/
theorem decode_of_spellsText {text : String} {spelled : List Char}
    (h : SpellsText text spelled) : decode spelled = text := by
  have hone : ∀ c spelled rest, SpellsChar c spelled →
      unescape (spelled ++ rest) = String.utf8EncodeChar c ++ unescape rest :=
    fun c spelled rest h => unescape_of_spellsChar h rest
  have hbytes := unescape_of_spellsEach hone h []
  rw [List.append_nil, unescape, List.append_nil] at hbytes
  unfold decode
  rw [hbytes]
  exact (congrArg String.ofList (Utf8.decodeLossy_encode text.toList)).trans
    String.ofList_toList

/-! ## The characters of a spelling -/

/-- The character may stand in the key or the value of a pair. -/
def isInComponent (c : Char) : Bool := isQueryCode c.toNat && c ≠ '&' && c ≠ '='

theorem isInComponent_of_isLiteral {c : Char} (h : isLiteral c = true) :
    isInComponent c = true := by
  have hne : c ≠ '&' ∧ c ≠ '=' := by
    constructor <;> (rintro rfl; exact absurd h (by decide))
  simp only [isLiteral, Bool.and_eq_true] at h
  simp [isInComponent, h.1, hne]

theorem isInComponent_of_mem_hexForms {n : Nat} (hn : n < 16) {c : Char} (hc : c ∈ hexForms n) :
    isInComponent c = true := by
  have hall : ∀ m < 16, (hexForms m).all isInComponent = true := by decide
  exact List.all_eq_true.1 (hall n hn) c hc

theorem forall_mem_of_spellsEach {α : Type} {spells : α → List Char → Prop}
    {p : Char → Prop} (hone : ∀ a spelled, spells a spelled → ∀ c ∈ spelled, p c)
    {as : List α} {spelled : List Char} (h : SpellsEach spells as spelled) :
    ∀ c ∈ spelled, p c := by
  induction h with
  | nil => simp
  | cons hfirst _ ih => exact List.forall_mem_append.2 ⟨hone _ _ hfirst, ih⟩

theorem isInComponent_of_spellsByte {byte : UInt8} {spelled : List Char}
    (h : SpellsByte byte spelled) : ∀ c ∈ spelled, isInComponent c = true := by
  obtain ⟨hhigh, hlow⟩ := h
  have hbyte : byte.toNat < 256 := byte.toNat_lt
  rintro c hc
  simp only [List.mem_cons, List.not_mem_nil, or_false] at hc
  rcases hc with rfl | rfl | rfl
  · decide
  · exact isInComponent_of_mem_hexForms (by omega) hhigh
  · exact isInComponent_of_mem_hexForms (by omega) hlow

theorem isInComponent_of_spellsChar {character : Char} {spelled : List Char}
    (h : SpellsChar character spelled) : ∀ c ∈ spelled, isInComponent c = true := by
  cases h with
  | literal hliteral =>
      intro c hc
      rw [List.mem_singleton.1 hc]
      exact isInComponent_of_isLiteral hliteral
  | escaped hbytes =>
      exact forall_mem_of_spellsEach (fun _ _ h => isInComponent_of_spellsByte h) hbytes
  | plus =>
      intro c hc
      rw [List.mem_singleton.1 hc]
      decide

theorem isInComponent_of_spellsText {text : String} {spelled : List Char}
    (h : SpellsText text spelled) : ∀ c ∈ spelled, isInComponent c = true :=
  forall_mem_of_spellsEach (fun _ _ h => isInComponent_of_spellsChar h) h

/-! ## Pairs -/

variable {key value : String} {piece : List Char}

/-- Every spelling of a pair is read as the pair. -/
theorem pair_of_spellsPair (h : SpellsPair key value piece) : pair piece = (key, value) := by
  obtain @⟨spelledKey, spelledValue, hkey, hvalue⟩ := h
  have hinside : ∀ c ∈ spelledKey, decide (c ≠ '=') = true := fun c hc => by
    have hcomponent := isInComponent_of_spellsText hkey c hc
    simp only [isInComponent, Bool.and_eq_true] at hcomponent
    exact hcomponent.2
  -- the cut is made where the key ends, as no equals sign stands in its spelling
  unfold pair
  rw [List.takeWhile_append_of_pos hinside, List.dropWhile_append_of_pos hinside]
  simp [decode_of_spellsText hkey, decode_of_spellsText hvalue]

/-- A piece may stand between two ampersands. -/
def IsPiece (piece : List Char) : Prop := ∀ c ∈ piece, isQueryCode c.toNat = true ∧ c ≠ '&'

theorem isPiece_of_spellsPair (h : SpellsPair key value piece) : IsPiece piece := by
  obtain ⟨hkey, hvalue⟩ := h
  have hcomponent : ∀ c, isInComponent c = true → isQueryCode c.toNat = true ∧ c ≠ '&' := by
    intro c hc
    simp only [isInComponent, Bool.and_eq_true, decide_eq_true_eq] at hc
    exact hc.1
  intro c hc
  rcases List.mem_append.1 hc with hc | hc
  · exact hcomponent c (isInComponent_of_spellsText hkey c hc)
  rcases List.mem_cons.1 hc with rfl | hc
  · decide
  · exact hcomponent c (isInComponent_of_spellsText hvalue c hc)

theorem ne_nil_of_spellsPair (h : SpellsPair key value piece) : piece ≠ [] := by
  obtain ⟨hkey, hvalue⟩ := h
  simp

/-! ## Queries -/

/-- The query with these pieces. -/
def ofPieces (pieces : List (List Char)) : String := String.ofList (['&'].intercalate pieces)

theorem pairs_ofPieces {pieces : List (List Char)} (hpieces : ∀ piece ∈ pieces, IsPiece piece)
    (hne : pieces ≠ []) : pairs (ofPieces pieces) = (pieces.filter (· ≠ [])).map pair := by
  have hfree : ∀ piece ∈ pieces, '&' ∉ piece := fun piece hpiece hc =>
    (hpieces piece hpiece '&' hc).2 rfl
  unfold pairs Query.pieces ofPieces
  rw [String.toList_ofList, List.splitOn_intercalate '&' hfree hne]

theorem isQueryCode_of_mem_ofPieces {pieces : List (List Char)}
    (hpieces : ∀ piece ∈ pieces, IsPiece piece) :
    ∀ c ∈ (ofPieces pieces).toList, isQueryCode c.toNat = true := by
  unfold ofPieces
  rw [String.toList_ofList]
  induction pieces with
  | nil => simp
  | cons piece rest ih =>
      have hpiece := hpieces piece List.mem_cons_self
      have hrest := ih fun other hother => hpieces other (List.mem_cons_of_mem piece hother)
      cases rest with
      | nil => simpa using fun c hc => (hpiece c hc).1
      | cons second more =>
          rw [List.intercalate_cons_cons]
          intro c hc
          rcases List.mem_append.1 hc with hc | hc
          · rcases List.mem_append.1 hc with hc | hc
            · exact (hpiece c hc).1
            · rw [List.mem_singleton.1 hc]
              decide
          · exact hrest c hc

end ShipTelemetry.Query
