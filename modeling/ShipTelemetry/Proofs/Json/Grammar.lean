import ShipTelemetry.Proofs.Decimal.Grammar
import ShipTelemetry.Proofs.Json.Reading

/-!
# The grammar of JSON texts

What a JSON text is, for values of every kind: blanks, numbers, strings with their escapes,
arrays and objects.  Each relation holds of something, of the characters from where it begins,
and of those that are left after it, so that the parts of a text are put together without
cutting it.

An object of one string member that is written by `Json.singleton` is a JSON text
(`isText_singleton`), and the grammar gives it no other value (`eq_of_isText_singleton`).  So
whatever reads JSON, not only the reader of objects of strings, reads this object.

The reader follows the grammar inside a string literal (`readString?_of_inside`).  From this
come both that a literal has one value and that written objects are read back, whatever the
name and the value of the member are (`readObject?_singleton`).
-/

namespace ShipTelemetry.Json

open Text

/-! ## Values -/

/-- A JSON value.  A number is kept as it is spelled, and an object with its members in order. -/
inductive Value
  | null
  | boolean (b : Bool)
  | number (spelled : List Char)
  | string (text : String)
  | array (elements : List Value)
  | object (members : List (String × Value))

/-! ## Tokens -/

/-- Any number of blanks. -/
inductive Blanks : List Char → List Char → Prop
  | none {rest : List Char} : Blanks rest rest
  | cons {c : Char} {cs rest : List Char} :
      isBlank c = true → Blanks cs rest → Blanks (c :: cs) rest

/-- The digits before the point: zero alone, or digits that do not begin with zero. -/
inductive IsWhole : List Char → Prop
  | zero : IsWhole ['0']
  | digits {first : Char} {more : List Char} :
      first.isDigit = true → first ≠ '0' → Decimal.AreDigits more → IsWhole (first :: more)

/-- A point and digits, or nothing. -/
inductive IsFraction : List Char → Prop
  | none : IsFraction []
  | digits {ds : List Char} : ds ≠ [] → Decimal.AreDigits ds → IsFraction ('.' :: ds)

/-- An exponent with a sign or without one, or nothing. -/
inductive IsExponent : List Char → Prop
  | none : IsExponent []
  | digits {letter : Char} {sign ds : List Char} :
      letter ∈ ['e', 'E'] → sign ∈ [[], ['+'], ['-']] → ds ≠ [] → Decimal.AreDigits ds →
        IsExponent (letter :: (sign ++ ds))

/-- A number. -/
inductive IsNumber : List Char → Prop
  | number {sign whole fraction exponent : List Char} :
      sign ∈ [[], ['-']] → IsWhole whole → IsFraction fraction → IsExponent exponent →
        IsNumber (sign ++ whole ++ fraction ++ exponent)

/-- Four hexadecimal digits with the code unit that they stand for. -/
inductive SpellsUnit : Nat → List Char → List Char → Prop
  | unit {a b c d : Char} {m n p q : Nat} {rest : List Char} :
      hexValue? a.toNat = some m → hexValue? b.toNat = some n → hexValue? c.toNat = some p →
        hexValue? d.toNat = some q →
          SpellsUnit (16 * (16 * (16 * m + n) + p) + q) (a :: b :: c :: d :: rest) rest

/-- A text as it stands in a string literal, up to the closing quote.  A character above
`U+FFFF` may be spelled by two code units. -/
inductive Inside : List Char → List Char → List Char → Prop
  | close {rest : List Char} : Inside [] ('"' :: rest) rest
  | plain {c : Char} {text cs rest : List Char} :
      c ≠ '"' → c ≠ '\\' → 0x20 ≤ c.toNat → Inside text cs rest →
        Inside (c :: text) (c :: cs) rest
  | short {letter meant : Char} {text cs rest : List Char} :
      shortEscapes.lookup letter = some meant → Inside text cs rest →
        Inside (meant :: text) ('\\' :: letter :: cs) rest
  | unit {value : Nat} {text cs after rest : List Char} :
      SpellsUnit value cs after → value < 0xd800 ∨ 0xdfff < value → Inside text after rest →
        Inside (Char.ofNat value :: text) ('\\' :: 'u' :: cs) rest
  | pair {high low : Nat} {text cs between after rest : List Char} :
      SpellsUnit high cs ('\\' :: 'u' :: between) → 0xd800 ≤ high ∧ high ≤ 0xdbff →
        SpellsUnit low between after → 0xdc00 ≤ low ∧ low ≤ 0xdfff → Inside text after rest →
          Inside (Char.ofNat (0x10000 + (high - 0xd800) * 0x400 + (low - 0xdc00)) :: text)
            ('\\' :: 'u' :: cs) rest

/-! ## Texts -/

mutual

/-- A value as it is spelled. -/
inductive Value.Spelled : Value → List Char → List Char → Prop
  | null {rest : List Char} : Value.Spelled .null ('n' :: 'u' :: 'l' :: 'l' :: rest) rest
  | true {rest : List Char} :
      Value.Spelled (.boolean true) ('t' :: 'r' :: 'u' :: 'e' :: rest) rest
  | false {rest : List Char} :
      Value.Spelled (.boolean false) ('f' :: 'a' :: 'l' :: 's' :: 'e' :: rest) rest
  | number {spelled cs rest : List Char} :
      IsNumber spelled → cs = spelled ++ rest → Value.Spelled (.number spelled) cs rest
  | string {text cs rest : List Char} :
      Inside text cs rest → Value.Spelled (.string (String.ofList text)) ('"' :: cs) rest
  | emptyArray {cs rest : List Char} :
      Blanks cs (']' :: rest) → Value.Spelled (.array []) ('[' :: cs) rest
  | array {elements : List Value} {cs rest : List Char} :
      Elements elements cs rest → Value.Spelled (.array elements) ('[' :: cs) rest
  | emptyObject {cs rest : List Char} :
      Blanks cs ('\x7d' :: rest) → Value.Spelled (.object []) ('\x7b' :: cs) rest
  | object {members : List (String × Value)} {cs rest : List Char} :
      Members members cs rest → Value.Spelled (.object members) ('\x7b' :: cs) rest

/-- The elements of an array, with commas between them, and its end. -/
inductive Elements : List Value → List Char → List Char → Prop
  | last {v : Value} {cs start after rest : List Char} :
      Blanks cs start → v.Spelled start after → Blanks after (']' :: rest) →
        Elements [v] cs rest
  | more {v : Value} {others : List Value} {cs start after next rest : List Char} :
      Blanks cs start → v.Spelled start after → Blanks after (',' :: next) →
        Elements others next rest → Elements (v :: others) cs rest

/-- The members of an object, with commas between them, and its end. -/
inductive Members : List (String × Value) → List Char → List Char → Prop
  | last {name : String} {v : Value} {cs after rest : List Char} :
      Member name v cs after → Blanks after ('\x7d' :: rest) → Members [(name, v)] cs rest
  | more {name : String} {v : Value} {others : List (String × Value)}
      {cs after next rest : List Char} :
      Member name v cs after → Blanks after (',' :: next) → Members others next rest →
        Members ((name, v) :: others) cs rest

/-- A name, a colon and a value. -/
inductive Member : String → Value → List Char → List Char → Prop
  | member {name : List Char} {v : Value} {cs inside afterName afterColon start rest : List Char} :
      Blanks cs ('"' :: inside) → Inside name inside afterName →
        Blanks afterName (':' :: afterColon) → Blanks afterColon start → v.Spelled start rest →
          Member (String.ofList name) v cs rest

end

/-- A text is a value with blanks around it. -/
def IsText (v : Value) (text : String) : Prop :=
  ∃ start after, Blanks text.toList start ∧ v.Spelled start after ∧ Blanks after []

/-! ## Where a token begins -/

theorem Blanks.eq {c : Char} {cs rest : List Char} (h : Blanks (c :: cs) rest)
    (hc : isBlank c = false) : rest = c :: cs := by
  cases h with
  | none => rfl
  | cons hblank =>
    rw [hc] at hblank
    cases hblank

theorem IsNumber.exists_eq_cons {spelled : List Char} (h : IsNumber spelled) :
    ∃ c more, spelled = c :: more ∧ (c = '-' ∨ c.isDigit = true) := by
  obtain @⟨sign, whole, fraction, exponent, hsign, hwhole, -, -⟩ := h
  have hfirst : ∃ c more, whole = c :: more ∧ c.isDigit = true := by
    cases hwhole with
    | zero => exact ⟨'0', [], rfl, by decide⟩
    | digits hdigit => exact ⟨_, _, rfl, hdigit⟩
  obtain ⟨c, more, rfl, hc⟩ := hfirst
  simp only [List.mem_cons, List.not_mem_nil, or_false] at hsign
  rcases hsign with rfl | rfl
  · exact ⟨c, _, rfl, .inr hc⟩
  · exact ⟨'-', _, rfl, .inl rfl⟩

/-- What begins with another character is no number. -/
theorem IsNumber.append_ne {spelled rest cs : List Char} {c : Char} (h : IsNumber spelled)
    (hc : c ≠ '-' ∧ c.isDigit = false) : c :: cs ≠ spelled ++ rest := by
  obtain ⟨first, more, rfl, hfirst⟩ := h.exists_eq_cons
  intro heq
  obtain ⟨rfl, -⟩ := List.cons.inj heq
  rcases hfirst with rfl | hdigit
  · exact hc.1 rfl
  · rw [hc.2] at hdigit
    cases hdigit

/-! ## Strings are read as the grammar says -/

/-- A code unit is read from its four digits. -/
theorem readString?_of_spellsUnit {value : Nat} {cs after : List Char}
    (h : SpellsUnit value cs after) {high : Option Nat} {next : Place} {completed : List Char}
    (hunit : ofUnit? value high = some (next, completed)) :
    readString? (.unit 3 0 high) cs =
      (readString? next after).map fun (text, rest) => (completed ++ text, rest) := by
  obtain ⟨ha, hb, hc, hd⟩ := h
  rw [readString?_digit ha, readString?_digit hb, readString?_digit hc]
  simp only [Nat.mul_zero, Nat.zero_add]
  exact readString?_lastDigit hd hunit after

theorem readString?_of_inside {text cs rest : List Char} (h : Inside text cs rest) :
    readString? .plain cs = some (text, rest) := by
  induction h with
  | close => rfl
  | @plain c text cs rest hquote hslash hlarge _ ih =>
    have hstep : step? .plain c = some (.plain, [c]) := by
      rw [step?, if_neg hslash, if_neg (by omega)]
    rw [readString?_of_step (fun h => hquote h.2) hstep, ih]
    rfl
  | short hmeant _ ih =>
    rw [readString?_shortEscape hmeant, ih]
    rfl
  | @unit value text cs after rest hunit hrange _ ih =>
    have hvalue : ofUnit? value none = some (.plain, [Char.ofNat value]) := by
      rw [ofUnit?, if_neg (by omega), if_neg (by omega)]
    rw [readString?_of_silent (by decide) rfl, readString?_of_silent (by simp) rfl,
      readString?_of_spellsUnit hunit hvalue, ih]
    rfl
  | @pair high low text cs between after rest hhigh hrange hlow hrange' _ ih =>
    have hfirst : ofUnit? high none = some (.pair high, []) := by
      rw [ofUnit?, if_pos hrange]
    have hsecond : ofUnit? low (some high) = some (.plain,
        [Char.ofNat (0x10000 + (high - 0xd800) * 0x400 + (low - 0xdc00))]) := by
      rw [ofUnit?, if_pos hrange']
    -- the first unit, the opening of the second one, and the second one
    rw [readString?_of_silent (by decide) rfl, readString?_of_silent (by simp) rfl,
      readString?_of_spellsUnit hhigh hfirst, readString?_of_silent (by simp) rfl,
      readString?_of_silent (by simp) rfl, readString?_of_spellsUnit hlow hsecond, ih]
    rfl

/-- A string literal has one value and one end. -/
theorem Inside.unique {text text' cs rest rest' : List Char} (h : Inside text cs rest)
    (h' : Inside text' cs rest') : text = text' ∧ rest = rest' := by
  have hread := readString?_of_inside h
  rw [readString?_of_inside h', Option.some.injEq, Prod.mk.injEq] at hread
  exact ⟨hread.1.symm, hread.2.symm⟩

/-! ## Written objects are texts -/

/-- A character is written by a letter, by its number, or as itself. -/
theorem escapeChar_cases (c : Char) :
    (∃ letter : Char, 0x20 ≤ letter.toNat ∧ shortEscapes.lookup letter = some c ∧
        escapeChar c = ['\\', letter]) ∨
      (c.toNat < 0x20 ∧ escapeChar c = '\\' :: 'u' :: '0' :: '0' :: hexPair c.toNat) ∨
      (c ≠ '"' ∧ c ≠ '\\' ∧ 0x20 ≤ c.toNat ∧ escapeChar c = [c]) := by
  unfold escapeChar
  split
  next => exact .inl ⟨'"', by decide, by decide, rfl⟩
  next => exact .inl ⟨'\\', by decide, by decide, rfl⟩
  next => exact .inl ⟨'b', by decide, by decide, rfl⟩
  next => exact .inl ⟨'f', by decide, by decide, rfl⟩
  next => exact .inl ⟨'n', by decide, by decide, rfl⟩
  next => exact .inl ⟨'r', by decide, by decide, rfl⟩
  next => exact .inl ⟨'t', by decide, by decide, rfl⟩
  next hquote hslash _ _ _ _ _ =>
    split
    next hsmall => exact .inr (.inl ⟨hsmall, rfl⟩)
    next hlarge => exact .inr (.inr ⟨hquote, hslash, by omega, rfl⟩)

theorem literal_append (text rest : List Char) :
    literal text ++ rest = '"' :: (text.flatMap escapeChar ++ '"' :: rest) := by
  simp [literal]

theorem toList_singleton (name value : String) :
    (singleton name value).toList =
      '\x7b' :: (literal name.toList ++ ':' :: (literal value.toList ++ ['\x7d'])) := by
  rw [singleton, String.toList_ofList]

theorem spellsUnit_hexPair {n : Nat} (hn : n < 256) (rest : List Char) :
    SpellsUnit n ('0' :: '0' :: (hexPair n ++ rest)) rest := by
  have hhigh := hexValue?_digitChar (by omega : n / 16 < 16)
  have hlow := hexValue?_digitChar (by omega : n % 16 < 16)
  have hzero : hexValue? '0'.toNat = some 0 := by decide
  have hunit : SpellsUnit (16 * (16 * (16 * 0 + 0) + n / 16) + n % 16)
      ('0' :: '0' :: (hexPair n ++ rest)) rest := .unit hzero hzero hhigh hlow
  simp only [Nat.mul_zero, Nat.zero_add, Nat.div_add_mod] at hunit
  exact hunit

/-- The written form of a character stands for the character. -/
theorem Inside.escapeChar {text cs rest : List Char} (c : Char) (h : Inside text cs rest) :
    Inside (c :: text) (escapeChar c ++ cs) rest := by
  rcases escapeChar_cases c with ⟨letter, -, hmeant, heq⟩ | ⟨hsmall, heq⟩ |
    ⟨hquote, hslash, hlarge, heq⟩
  · rw [heq]
    exact .short hmeant h
  · have hspelled := Inside.unit (spellsUnit_hexPair (by omega : c.toNat < 256) cs)
      (.inl (by omega)) h
    rw [heq]
    rwa [Char.ofNat_toNat] at hspelled
  · rw [heq]
    exact .plain hquote hslash hlarge h

theorem inside_literal (text rest : List Char) :
    Inside text (text.flatMap escapeChar ++ '"' :: rest) rest := by
  induction text with
  | nil => exact .close
  | cons c more ih =>
    rw [List.flatMap_cons, List.append_assoc]
    exact ih.escapeChar c

theorem member_written (name value rest : List Char) :
    Member (String.ofList name) (.string (String.ofList value))
      (literal name ++ ':' :: (literal value ++ rest)) rest := by
  rw [literal_append, literal_append]
  exact .member .none (inside_literal _ _) .none .none (.string (inside_literal _ _))

theorem isText_singleton (name value : String) :
    IsText (.object [(name, .string value)]) (singleton name value) := by
  have hmember := member_written name.toList value.toList ['\x7d']
  rw [String.ofList_toList, String.ofList_toList] at hmember
  refine ⟨_, [], .none, ?_, .none⟩
  rw [toList_singleton]
  exact .object (.last hmember .none)

/-! ## Written objects are nothing else -/

/-- What begins with a quote is the string of its literal. -/
theorem Value.Spelled.eq_of_quote {v : Value} {text cs rest rest' : List Char}
    (h : v.Spelled ('"' :: cs) rest') (htext : Inside text cs rest) :
    v = .string (String.ofList text) ∧ rest' = rest := by
  cases h with
  | number hnumber heq => exact absurd heq (hnumber.append_ne (by decide))
  | string hinside =>
    obtain ⟨rfl, rfl⟩ := hinside.unique htext
    exact ⟨rfl, rfl⟩

theorem Member.eq_of_written {member : String} {v : Value} {name value rest after : List Char}
    (h : Member member v (literal name ++ ':' :: (literal value ++ rest)) after) :
    member = String.ofList name ∧ v = .string (String.ofList value) ∧ after = rest := by
  rw [literal_append, literal_append] at h
  cases h with
  | member hopening hname hcolon hstart hvalue =>
    obtain ⟨-, rfl⟩ := List.cons.inj (hopening.eq (by decide))
    obtain ⟨rfl, rfl⟩ := hname.unique (inside_literal _ _)
    obtain ⟨-, rfl⟩ := List.cons.inj (hcolon.eq (by decide))
    obtain rfl := hstart.eq (by decide)
    obtain ⟨rfl, rfl⟩ := hvalue.eq_of_quote (inside_literal _ _)
    exact ⟨rfl, rfl, rfl⟩

/-- The grammar gives a written object no other value. -/
theorem eq_of_isText_singleton {v : Value} {name value : String}
    (h : IsText v (singleton name value)) : v = .object [(name, .string value)] := by
  obtain ⟨start, after, hstart, hvalue, -⟩ := h
  rw [toList_singleton] at hstart
  obtain rfl := hstart.eq (by decide)
  cases hvalue with
  | number hnumber heq => exact absurd heq (hnumber.append_ne (by decide))
  | emptyObject hend =>
    rw [literal_append] at hend
    exact absurd (List.cons.inj (hend.eq (by decide))).1 (by decide)
  | object hmembers =>
    cases hmembers with
    | last hmember hend =>
      obtain ⟨rfl, rfl, rfl⟩ := hmember.eq_of_written
      rw [String.ofList_toList, String.ofList_toList]
    | more hmember hcomma =>
      obtain ⟨-, -, rfl⟩ := hmember.eq_of_written
      exact absurd (List.cons.inj (hcomma.eq (by decide))).1 (by decide)

/-! ## Written objects are read back -/

theorem readMember?_written (name value rest : List Char) :
    readMember? (literal name ++ ':' :: (literal value ++ rest)) =
      some ((String.ofList name, String.ofList value), rest) := by
  simp only [readMember?, literal_append, cut?_cons (by decide : isBlank '"' = false),
    cut?_cons (by decide : isBlank ':' = false), readString?_of_inside (inside_literal _ _),
    Option.bind_eq_bind, Option.bind_some]

/-- An object of one member is read back. -/
theorem readObject?_singleton (name value : String) :
    readObject? (singleton name value) = some [(name, value)] := by
  have htext := toList_singleton name value
  have hmember := readMember?_written name.toList value.toList ['\x7d']
  generalize hinside : literal name.toList ++ ':' :: (literal value.toList ++ ['\x7d']) = inside
    at htext hmember
  -- the object is not empty: a quote stands after the brace
  obtain ⟨more, hmore⟩ : ∃ more, inside = '"' :: more := ⟨_, hinside.symm⟩
  have hopen : cut? '\x7d' inside = none := hmore ▸ cut?_cons_of_ne (by decide) (by decide) more
  have hlength : inside.length = more.length + 1 := by rw [hmore, List.length_cons]
  have hcomma : cut? ',' ['\x7d'] = none := cut?_cons_of_ne (by decide) (by decide) []
  have hclose : cut? '\x7d' ['\x7d'] = some [] := cut?_cons (by decide) []
  have hmembers : readMembers? inside.length inside = some ([(name, value)], []) := by
    rw [hlength, readMembers?, hmember]
    simp only [Option.bind_eq_bind, Option.bind_some, hcomma, hclose, String.ofList_toList]
  rw [readObject?, htext, cut?_cons (by decide)]
  simp only [Option.bind_eq_bind, Option.bind_some, hopen, hmembers, List.all_nil, if_true]

/-! ## Written objects are on one line -/

theorem toNat_of_mem_escapeChar {c d : Char} (h : d ∈ escapeChar c) : 0x20 ≤ d.toNat := by
  rcases escapeChar_cases c with ⟨letter, hletter, -, heq⟩ | ⟨hsmall, heq⟩ | ⟨-, -, hlarge, heq⟩
  · simp only [heq, List.mem_cons, List.not_mem_nil, or_false] at h
    rcases h with rfl | rfl
    · decide
    · exact hletter
  · simp only [heq, List.mem_cons] at h
    rcases h with rfl | rfl | rfl | rfl | h
    · decide
    · decide
    · decide
    · decide
    · have hprintable := isPrintable_of_mem_hexPair (by omega) h
      simp only [isPrintable, Bool.and_eq_true, decide_eq_true_eq] at hprintable
      exact hprintable.1
  · rw [heq] at h
    exact List.mem_singleton.1 h ▸ hlarge

theorem toNat_of_mem_literal {text : List Char} {d : Char} (h : d ∈ literal text) :
    0x20 ≤ d.toNat := by
  simp only [literal, List.mem_cons, List.mem_append, List.mem_flatMap, List.not_mem_nil,
    or_false] at h
  rcases h with rfl | ⟨c, -, hc⟩ | rfl
  · decide
  · exact toNat_of_mem_escapeChar hc
  · decide

/-- No character below `U+0020` stands in a written object. -/
theorem toNat_of_mem_singleton {name value : String} {d : Char}
    (h : d ∈ (singleton name value).toList) : 0x20 ≤ d.toNat := by
  rw [toList_singleton] at h
  simp only [List.mem_cons, List.mem_append, List.not_mem_nil, or_false] at h
  rcases h with rfl | hname | rfl | hvalue | rfl
  · decide
  · exact toNat_of_mem_literal hname
  · decide
  · exact toNat_of_mem_literal hvalue
  · decide

end ShipTelemetry.Json
