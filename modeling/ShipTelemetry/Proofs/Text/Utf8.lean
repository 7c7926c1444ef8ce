import ShipTelemetry.Text.Basic

/-!
# Decoding what was encoded

The decoder gives back every text from its bytes.  For one character this is a walk through
its bytes: the first one says how many follow and narrows the range of the second, each of
the others lies in the range and adds its six bits, and the last one completes the code
point (`scan_encodeChar`).

And nothing but the bytes of a text is decoded without a broken piece (`decode?_eq_some_iff`):
where no piece is broken, the walk can be followed backwards, and each character has the bytes
from which it was read.
-/

namespace ShipTelemetry.Text.Utf8

variable {b bits after low high : Nat} {rest : List UInt8}

/-! ## First bytes -/

theorem lead_one (h : b < 0x80) : lead (UInt8.ofNat b) = .complete (Char.ofNat b) := by
  have hb : (UInt8.ofNat b).toNat = b := by simp; omega
  simp [lead, hb, h]

theorem lead_two (hlow : 0xc2 ≤ b) (hhigh : b < 0xe0) :
    lead (UInt8.ofNat b) = .opens ⟨b - 0xc0, 0, 0x80, 0xbf⟩ := by
  have hb : (UInt8.ofNat b).toNat = b := by simp; omega
  have h1 : ¬ b < 0x80 := by omega
  have h2 : ¬ b < 0xc2 := by omega
  simp [lead, hb, h1, h2, hhigh]

theorem lead_three (hlow : 0xe0 ≤ b) (hhigh : b < 0xf0) :
    lead (UInt8.ofNat b) = .opens ⟨b - 0xe0, 1, if b = 0xe0 then 0xa0 else 0x80,
      if b = 0xed then 0x9f else 0xbf⟩ := by
  have hb : (UInt8.ofNat b).toNat = b := by simp; omega
  have h1 : ¬ b < 0x80 := by omega
  have h2 : ¬ b < 0xc2 := by omega
  have h3 : ¬ b < 0xe0 := by omega
  by_cases he0 : b = 0xe0
  · subst he0; rfl
  by_cases hed : b = 0xed
  · subst hed; rfl
  simp [lead, hb, h1, h2, h3, he0, hed, hhigh]

theorem lead_four (hlow : 0xf0 ≤ b) (hhigh : b < 0xf5) :
    lead (UInt8.ofNat b) = .opens ⟨b - 0xf0, 2, if b = 0xf0 then 0x90 else 0x80,
      if b = 0xf4 then 0x8f else 0xbf⟩ := by
  have hcases : b = 0xf0 ∨ b = 0xf1 ∨ b = 0xf2 ∨ b = 0xf3 ∨ b = 0xf4 := by omega
  rcases hcases with rfl | rfl | rfl | rfl | rfl <;> rfl

/-! ## Following bytes -/

theorem scan_opens {begun : Begun} (h : lead (UInt8.ofNat b) = .opens begun) :
    scan none (UInt8.ofNat b :: rest) = scan (some begun) rest := by
  simp [scan, h]

theorem scan_middle (hlow : low ≤ b) (hhigh : b ≤ high) (hbyte : b < 0x100) :
    scan (some ⟨bits, after + 1, low, high⟩) (UInt8.ofNat b :: rest) =
      scan (some ⟨bits * 0x40 + (b - 0x80), after, 0x80, 0xbf⟩) rest := by
  have hb : (UInt8.ofNat b).toNat = b := by simp; omega
  simp [scan, hb, hlow, hhigh]

theorem scan_last (hlow : low ≤ b) (hhigh : b ≤ high) (hbyte : b < 0x100) :
    scan (some ⟨bits, 0, low, high⟩) (UInt8.ofNat b :: rest) =
      some (Char.ofNat (bits * 0x40 + (b - 0x80))) :: scan none rest := by
  have hb : (UInt8.ofNat b).toNat = b := by simp; omega
  simp [scan, hb, hlow, hhigh]

/-! ## Characters and texts -/

/-- The bytes of one character are read as that character. -/
theorem scan_encodeChar (c : Char) (rest : List UInt8) :
    scan none (String.utf8EncodeChar c ++ rest) = some c :: scan none rest := by
  have hvalid : c.val.toNat < 0xd800 ∨ (0xdfff < c.val.toNat ∧ c.val.toNat < 0x110000) := c.valid
  have hchar : Char.ofNat c.val.toNat = c := Char.ofNat_toNat c
  unfold String.utf8EncodeChar
  dsimp only
  -- one case for each number of bytes; the guards leave every first byte its own range
  generalize c.val.toNat = v at hvalid hchar
  split
  next h1 =>
    rw [List.cons_append, List.nil_append]
    simp [scan, lead_one (by omega : v < 0x80), hchar]
  split
  next h1 h2 =>
    have hbits : (v / 64 % 32 + 0xc0 - 0xc0) * 0x40 + (v % 64 + 0x80 - 0x80) = v := by omega
    simp only [List.cons_append, List.nil_append]
    rw [scan_opens (lead_two (by omega) (by omega)), scan_last (by omega) (by omega) (by omega),
      hbits, hchar]
  split
  next h1 h2 h3 =>
    -- the narrowed ranges of the second byte shut out overlong forms and surrogates only
    have hbits : ((v / 4096 % 16 + 0xe0 - 0xe0) * 0x40 + (v / 64 % 64 + 0x80 - 0x80)) * 0x40 +
        (v % 64 + 0x80 - 0x80) = v := by omega
    simp only [List.cons_append, List.nil_append]
    rw [scan_opens (lead_three (by omega) (by omega)),
      scan_middle (by split <;> omega) (by split <;> omega) (by omega),
      scan_last (by omega) (by omega) (by omega), hbits, hchar]
  next h1 h2 h3 =>
    have hbits : (((v / 262144 % 8 + 0xf0 - 0xf0) * 0x40 + (v / 4096 % 64 + 0x80 - 0x80)) *
        0x40 + (v / 64 % 64 + 0x80 - 0x80)) * 0x40 + (v % 64 + 0x80 - 0x80) = v := by omega
    simp only [List.cons_append, List.nil_append]
    rw [scan_opens (lead_four (by omega) (by omega)),
      scan_middle (by split <;> omega) (by split <;> omega) (by omega),
      scan_middle (by omega) (by omega) (by omega),
      scan_last (by omega) (by omega) (by omega), hbits, hchar]

theorem scan_encode (cs : List Char) : scan none (encode cs) = cs.map some := by
  induction cs with
  | nil => rfl
  | cons c rest ih =>
      have hbytes : encode (c :: rest) = String.utf8EncodeChar c ++ encode rest := rfl
      rw [hbytes, scan_encodeChar, ih, List.map_cons]

/-- Every text is decoded from its bytes. -/
theorem decodeLossy_encode (cs : List Char) : decodeLossy (encode cs) = cs := by
  simp [decodeLossy, scan_encode, Function.comp_def]

/-! ## Nothing else is decoded -/

theorem lead_broken (h : (0x80 ≤ b ∧ b < 0xc2) ∨ 0xf5 ≤ b) (hbyte : b < 0x100) :
    lead (UInt8.ofNat b) = .broken := by
  have hb : (UInt8.ofNat b).toNat = b := by simp; omega
  unfold lead
  rw [hb]
  dsimp only
  rw [if_neg (by omega)]
  split
  next => rfl
  next =>
    rw [if_neg (by omega), if_neg (by omega), if_neg (by omega), if_neg (by omega),
      if_neg (by omega), if_neg (by omega), if_neg (by omega)]

variable {bytes : List UInt8} {cs : List Char} {v : Nat}

/-- A character that is not finished yet goes on with a byte in the range. -/
theorem exists_of_scan_some {begun : Begun} (h : scan (some begun) bytes = cs.map some) :
    ∃ b rest, bytes = UInt8.ofNat b :: rest ∧ b < 0x100 ∧ begun.low ≤ b ∧ b ≤ begun.high := by
  have hfound : ∀ piece ∈ scan (some begun) bytes, piece ≠ none := by
    rw [h]
    intro piece hpiece
    obtain ⟨c, -, rfl⟩ := List.mem_map.1 hpiece
    exact Option.some_ne_none c
  cases bytes with
  | nil => exact absurd rfl (hfound none (by simp [scan]))
  | cons byte rest =>
    refine ⟨byte.toNat, rest, by simp, byte.toNat_lt, ?_⟩
    by_cases hrange : begun.low ≤ byte.toNat ∧ byte.toNat ≤ begun.high
    · exact hrange
    · -- a byte outside the range is reported as broken
      refine absurd rfl (hfound none ?_)
      rw [scan, if_neg hrange]
      split <;> exact List.mem_cons_self

theorem exists_of_scan_middle
    (h : scan (some ⟨bits, after + 1, low, high⟩) bytes = cs.map some) :
    ∃ b rest, bytes = UInt8.ofNat b :: rest ∧ b < 0x100 ∧ low ≤ b ∧ b ≤ high ∧
      scan (some ⟨bits * 0x40 + (b - 0x80), after, 0x80, 0xbf⟩) rest = cs.map some := by
  obtain ⟨b, rest, rfl, hbyte, hlow, hhigh⟩ := exists_of_scan_some h
  rw [scan_middle hlow hhigh hbyte] at h
  exact ⟨b, rest, rfl, hbyte, hlow, hhigh, h⟩

theorem exists_of_scan_last (h : scan (some ⟨bits, 0, low, high⟩) bytes = cs.map some) :
    ∃ b rest more, bytes = UInt8.ofNat b :: rest ∧ b < 0x100 ∧ low ≤ b ∧ b ≤ high ∧
      cs = Char.ofNat (bits * 0x40 + (b - 0x80)) :: more ∧ scan none rest = more.map some := by
  obtain ⟨b, rest, rfl, hbyte, hlow, hhigh⟩ := exists_of_scan_some h
  rw [scan_last hlow hhigh hbyte] at h
  cases cs with
  | nil => cases h
  | cons c more =>
    obtain ⟨hc, hmore⟩ := List.cons.inj h
    exact ⟨b, rest, more, rfl, hbyte, hlow, hhigh, by rw [Option.some.inj hc], hmore⟩

/-- The bytes of a character, by its code point. -/
theorem utf8EncodeChar_ofNat (hvalid : v < 0xd800 ∨ (0xdfff < v ∧ v < 0x110000)) :
    String.utf8EncodeChar (Char.ofNat v) =
      if v ≤ 0x7f then [UInt8.ofNat v]
      else if v ≤ 0x7ff then [UInt8.ofNat (v / 64 % 32 + 0xc0), UInt8.ofNat (v % 64 + 0x80)]
      else if v ≤ 0xffff then
        [UInt8.ofNat (v / 4096 % 16 + 0xe0), UInt8.ofNat (v / 64 % 64 + 0x80),
          UInt8.ofNat (v % 64 + 0x80)]
      else
        [UInt8.ofNat (v / 262144 % 8 + 0xf0), UInt8.ofNat (v / 4096 % 64 + 0x80),
          UInt8.ofNat (v / 64 % 64 + 0x80), UInt8.ofNat (v % 64 + 0x80)] := by
  have hchar : (Char.ofNat v).val.toNat = v := by
    rw [Char.ofNat, dif_pos hvalid]
    rfl
  unfold String.utf8EncodeChar
  dsimp only
  rw [hchar]

theorem utf8EncodeChar_two {d : Nat} (hb : 0xc2 ≤ b ∧ b < 0xe0) (hd : 0x80 ≤ d ∧ d ≤ 0xbf) :
    String.utf8EncodeChar (Char.ofNat ((b - 0xc0) * 0x40 + (d - 0x80))) =
      [UInt8.ofNat b, UInt8.ofNat d] := by
  generalize hv : (b - 0xc0) * 0x40 + (d - 0x80) = v
  have hfirst : v / 64 % 32 + 0xc0 = b := by omega
  have hsecond : v % 64 + 0x80 = d := by omega
  rw [utf8EncodeChar_ofNat (by omega), if_neg (by omega), if_pos (by omega), hfirst, hsecond]

/-- The narrowed ranges of the second byte leave the characters of three bytes, and no others. -/
theorem utf8EncodeChar_three {d e : Nat} (hb : 0xe0 ≤ b ∧ b < 0xf0)
    (hlow : (if b = 0xe0 then 0xa0 else 0x80) ≤ d) (hhigh : d ≤ if b = 0xed then 0x9f else 0xbf)
    (he : 0x80 ≤ e ∧ e ≤ 0xbf) :
    String.utf8EncodeChar (Char.ofNat (((b - 0xe0) * 0x40 + (d - 0x80)) * 0x40 + (e - 0x80))) =
      [UInt8.ofNat b, UInt8.ofNat d, UInt8.ofNat e] := by
  generalize hv : ((b - 0xe0) * 0x40 + (d - 0x80)) * 0x40 + (e - 0x80) = v
  have hd : 0x80 ≤ d ∧ d ≤ 0xbf := by split at hlow <;> split at hhigh <;> omega
  have hlong : 0x7ff < v := by split at hlow <;> omega
  have hvalid : v < 0xd800 ∨ (0xdfff < v ∧ v < 0x110000) := by split at hhigh <;> omega
  have hfirst : v / 4096 % 16 + 0xe0 = b := by omega
  have hsecond : v / 64 % 64 + 0x80 = d := by omega
  have hthird : v % 64 + 0x80 = e := by omega
  rw [utf8EncodeChar_ofNat hvalid, if_neg (by omega), if_neg (by omega), if_pos (by omega),
    hfirst, hsecond, hthird]

/-- So they do for the characters of four bytes. -/
theorem utf8EncodeChar_four {d e f : Nat} (hb : 0xf0 ≤ b ∧ b < 0xf5)
    (hlow : (if b = 0xf0 then 0x90 else 0x80) ≤ d) (hhigh : d ≤ if b = 0xf4 then 0x8f else 0xbf)
    (he : 0x80 ≤ e ∧ e ≤ 0xbf) (hf : 0x80 ≤ f ∧ f ≤ 0xbf) :
    String.utf8EncodeChar (Char.ofNat
        ((((b - 0xf0) * 0x40 + (d - 0x80)) * 0x40 + (e - 0x80)) * 0x40 + (f - 0x80))) =
      [UInt8.ofNat b, UInt8.ofNat d, UInt8.ofNat e, UInt8.ofNat f] := by
  generalize hv : (((b - 0xf0) * 0x40 + (d - 0x80)) * 0x40 + (e - 0x80)) * 0x40 + (f - 0x80) = v
  have hd : 0x80 ≤ d ∧ d ≤ 0xbf := by split at hlow <;> split at hhigh <;> omega
  have hlong : 0xffff < v := by split at hlow <;> omega
  have hvalid : v < 0x110000 := by split at hhigh <;> omega
  have hfirst : v / 262144 % 8 + 0xf0 = b := by omega
  have hsecond : v / 4096 % 64 + 0x80 = d := by omega
  have hthird : v / 64 % 64 + 0x80 = e := by omega
  have hfourth : v % 64 + 0x80 = f := by omega
  rw [utf8EncodeChar_ofNat (by omega), if_neg (by omega), if_neg (by omega), if_neg (by omega),
    hfirst, hsecond, hthird, hfourth]

/-- Where no piece is broken, a character stands in front of the bytes, with what is read after
it. -/
theorem exists_encodeChar_of_scan {byte : UInt8} (h : scan none (byte :: bytes) = cs.map some) :
    ∃ c left more, byte :: bytes = String.utf8EncodeChar c ++ left ∧ cs = c :: more ∧
      scan none left = more.map some := by
  obtain ⟨b, hbyte, rfl⟩ : ∃ b, b < 0x100 ∧ byte = UInt8.ofNat b :=
    ⟨byte.toNat, byte.toNat_lt, by simp⟩
  by_cases hbroken : (0x80 ≤ b ∧ b < 0xc2) ∨ 0xf5 ≤ b
  · rw [scan, lead_broken hbroken hbyte] at h
    cases cs <;> cases h
  by_cases hone : b < 0x80
  · rw [scan, lead_one hone] at h
    cases cs with
    | nil => cases h
    | cons c more =>
      obtain ⟨hc, hmore⟩ := List.cons.inj h
      obtain rfl := Option.some.inj hc
      refine ⟨Char.ofNat b, bytes, more, ?_, rfl, hmore⟩
      rw [utf8EncodeChar_ofNat (by omega), if_pos (by omega)]
      rfl
  -- the first byte says how many follow, and each of them is there and in its range
  by_cases htwo : b < 0xe0
  · rw [scan_opens (lead_two (by omega) htwo)] at h
    obtain ⟨d, left, more, rfl, -, hlow, hhigh, rfl, hleft⟩ := exists_of_scan_last h
    refine ⟨_, left, more, ?_, rfl, hleft⟩
    rw [utf8EncodeChar_two ⟨by omega, htwo⟩ ⟨hlow, hhigh⟩]
    rfl
  by_cases hthree : b < 0xf0
  · rw [scan_opens (lead_three (by omega) hthree)] at h
    obtain ⟨d, afterSecond, rfl, -, hlow, hhigh, h⟩ := exists_of_scan_middle h
    obtain ⟨e, left, more, rfl, -, he, he', rfl, hleft⟩ := exists_of_scan_last h
    refine ⟨_, left, more, ?_, rfl, hleft⟩
    rw [utf8EncodeChar_three ⟨by omega, hthree⟩ hlow hhigh ⟨he, he'⟩]
    rfl
  · rw [scan_opens (lead_four (by omega) (by omega))] at h
    obtain ⟨d, afterSecond, rfl, -, hlow, hhigh, h⟩ := exists_of_scan_middle h
    obtain ⟨e, afterThird, rfl, -, he, he', h⟩ := exists_of_scan_middle h
    obtain ⟨f, left, more, rfl, -, hf, hf', rfl, hleft⟩ := exists_of_scan_last h
    refine ⟨_, left, more, ?_, rfl, hleft⟩
    rw [utf8EncodeChar_four ⟨by omega, by omega⟩ hlow hhigh ⟨he, he'⟩ ⟨hf, hf'⟩]
    rfl

theorem eq_encode_of_scan (h : scan none bytes = cs.map some) : bytes = encode cs := by
  induction cs generalizing bytes with
  | nil =>
    cases bytes with
    | nil => rfl
    | cons byte rest =>
      obtain ⟨c, left, more, -, hnil, -⟩ := exists_encodeChar_of_scan h
      cases hnil
  | cons c more ih =>
    cases bytes with
    | nil => cases h
    | cons byte rest =>
      obtain ⟨first, left, others, hbytes, hcons, hleft⟩ := exists_encodeChar_of_scan h
      obtain ⟨rfl, rfl⟩ := List.cons.inj hcons
      calc byte :: rest = String.utf8EncodeChar c ++ left := hbytes
        _ = String.utf8EncodeChar c ++ encode more := by rw [ih hleft]
        _ = encode (c :: more) := rfl

theorem decode?_encode (cs : List Char) : decode? (encode cs) = some cs := by
  simp [decode?, scan_encode]

/-- The bytes of a text, and no others, are decoded to it. -/
theorem decode?_eq_some_iff : decode? bytes = some cs ↔ bytes = encode cs := by
  constructor
  · intro h
    unfold decode? at h
    dsimp only at h
    split at h
    next hall =>
      have hpieces : ((scan none bytes).filterMap id).map some = scan none bytes := by
        rw [List.map_filterMap_some_eq_filter_map_isSome, List.map_id]
        exact List.filter_eq_self.2 (List.all_eq_true.1 hall)
      rw [Option.some.inj h] at hpieces
      exact eq_encode_of_scan hpieces.symm
    next => cases h
  · rintro rfl
    exact decode?_encode cs

end ShipTelemetry.Text.Utf8
