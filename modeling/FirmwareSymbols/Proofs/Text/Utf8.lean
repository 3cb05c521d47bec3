import FirmwareSymbols.Text.Utf8
import Mathlib.Data.List.Basic

/-!
# Texts and their UTF-8 forms

Reading bytes as UTF-8 is undone by writing as long as nothing was replaced, and the UTF-8 form of a text is read back
as the text (`decodeLossy_utf8Bytes`). Hence the bytes that are read as a text without the replacement character are
exactly its UTF-8 form (`decodeLossy_eq_iff`), while faulty bytes may be read as one text with others.
-/

namespace FirmwareSymbols.Text

/-! ### One character

A character of up to four bytes: which bytes start and continue it, and what they stand for. -/

private theorem toNat_ofNat {n : Nat} (h : n < 0xd800 ∨ 0xdfff < n ∧ n < 0x110000) :
    (Char.ofNat n).val.toNat = n := by
  have hv : n.isValidChar := h
  rw [Char.ofNat, dif_pos hv]
  rfl

private theorem ofNat_eq {n : Nat} {b : UInt8} (h : n = b.toNat) : UInt8.ofNat n = b := by
  rw [h, UInt8.ofNat_toNat]

theorem isContinuation_iff {b : UInt8} : isContinuation b = true ↔ 0x80 ≤ b.toNat ∧ b.toNat < 0xc0 := by
  simp [isContinuation, UInt8.le_iff_toNat_le, UInt8.lt_iff_toNat_lt]

/-- A second byte is a continuation byte with which the character has no shorter form, is no surrogate, and is not
above the last code point. -/
theorem isSecond_iff {first second : UInt8} :
    isSecond first second = true ↔
      (0x80 ≤ second.toNat ∧ second.toNat < 0xc0) ∧ (first.toNat = 0xe0 → 0xa0 ≤ second.toNat) ∧
        (first.toNat = 0xed → second.toNat < 0xa0) ∧ (first.toNat = 0xf0 → 0x90 ≤ second.toNat) ∧
        (first.toNat = 0xf4 → second.toNat < 0x90) := by
  have hne : ∀ k : UInt8, (first = k → False) → first.toNat ≠ k.toNat :=
    fun k h heq => h (UInt8.toNat_inj.1 heq)
  unfold isSecond
  split
  case h_5 hE0 hED hF0 hF4 =>
    have := hne _ hE0
    have := hne _ hED
    have := hne _ hF0
    have := hne _ hF4
    rw [isContinuation_iff]
    simp at *
    omega
  all_goals
    simp [UInt8.le_iff_toNat_le, UInt8.lt_iff_toNat_lt]
    try omega

private theorem encode_one {b : UInt8} (hb : b.toNat < 0x80) : String.utf8EncodeChar (Char.ofNat b.toNat) = [b] := by
  have hn := toNat_ofNat (n := b.toNat) (by omega)
  simp only [String.utf8EncodeChar, hn]
  rw [if_pos (by omega), ofNat_eq rfl]

private theorem encode_two {b c : UInt8} (hb : 0xc2 ≤ b.toNat ∧ b.toNat < 0xe0) (hc : isContinuation c = true) :
    String.utf8EncodeChar (Char.ofNat (b.toNat % 32 * 64 + low c)) = [b, c] := by
  rw [isContinuation_iff] at hc
  have hn := toNat_ofNat (n := b.toNat % 32 * 64 + c.toNat % 64) (by omega)
  simp only [String.utf8EncodeChar, low, hn]
  rw [if_neg (by omega), if_pos (by omega), ofNat_eq (b := b) (by omega), ofNat_eq (b := c) (by omega)]

private theorem encode_three {b c d : UInt8} (hb : 0xe0 ≤ b.toNat ∧ b.toNat < 0xf0) (hc : isSecond b c = true)
    (hd : isContinuation d = true) :
    String.utf8EncodeChar (Char.ofNat ((b.toNat % 16 * 64 + low c) * 64 + low d)) = [b, c, d] := by
  rw [isSecond_iff] at hc
  rw [isContinuation_iff] at hd
  have hn := toNat_ofNat (n := (b.toNat % 16 * 64 + c.toNat % 64) * 64 + d.toNat % 64) (by omega)
  simp only [String.utf8EncodeChar, low, hn]
  rw [if_neg (by omega), if_neg (by omega), if_pos (by omega), ofNat_eq (b := b) (by omega),
    ofNat_eq (b := c) (by omega), ofNat_eq (b := d) (by omega)]

private theorem encode_four {b c d e : UInt8} (hb : 0xf0 ≤ b.toNat ∧ b.toNat < 0xf5) (hc : isSecond b c = true)
    (hd : isContinuation d = true) (he : isContinuation e = true) :
    String.utf8EncodeChar (Char.ofNat (((b.toNat % 8 * 64 + low c) * 64 + low d) * 64 + low e)) = [b, c, d, e] := by
  rw [isSecond_iff] at hc
  rw [isContinuation_iff] at hd he
  have hn := toNat_ofNat (n := ((b.toNat % 8 * 64 + c.toNat % 64) * 64 + d.toNat % 64) * 64 + e.toNat % 64) (by omega)
  simp only [String.utf8EncodeChar, low, hn]
  rw [if_neg (by omega), if_neg (by omega), if_neg (by omega), ofNat_eq (b := b) (by omega),
    ofNat_eq (b := c) (by omega), ofNat_eq (b := d) (by omega), ofNat_eq (b := e) (by omega)]

/-- A character that was read, other than the replacement, stands there in its UTF-8 form. -/
theorem encode_decodeFirst {b : UInt8} {rest : List UInt8} (h : (decodeFirst b rest).1 ≠ replacement) :
    String.utf8EncodeChar (decodeFirst b rest).1 ++ (decodeFirst b rest).2 = b :: rest := by
  revert h
  unfold decodeFirst
  simp only [UInt8.lt_iff_toNat_lt, UInt8.le_iff_toNat_le, Bool.and_eq_true, decide_eq_true_eq, UInt8.reduceToNat]
  repeat' split
  all_goals intro h
  all_goals first | exact absurd rfl h | skip
  · rw [encode_one (by assumption)]
    rfl
  · rw [encode_two (by assumption) (by assumption)]
    rfl
  · rw [encode_three (by assumption) (by assumption) (by assumption)]
    rfl
  · rw [encode_four (by assumption) (by assumption) (by assumption) (by assumption)]
    rfl

private theorem decode_one {b : UInt8} {rest : List UInt8} (hb : b.toNat < 0x80) :
    decodeFirst b rest = (Char.ofNat b.toNat, rest) := by
  unfold decodeFirst
  rw [if_pos (UInt8.lt_iff_toNat_lt.2 hb)]

private theorem decode_two {b c : UInt8} {rest : List UInt8} (hb : 0xc2 ≤ b.toNat ∧ b.toNat < 0xe0)
    (hc : 0x80 ≤ c.toNat ∧ c.toNat < 0xc0) :
    decodeFirst b (c :: rest) = (Char.ofNat (b.toNat % 32 * 64 + low c), rest) := by
  simp only [decodeFirst, UInt8.lt_iff_toNat_lt, UInt8.le_iff_toNat_le, Bool.and_eq_true, decide_eq_true_eq,
    UInt8.reduceToNat, isContinuation_iff]
  rw [if_neg (by omega), if_pos (by omega), if_pos hc]

private theorem decode_three {b c d : UInt8} {rest : List UInt8} (hb : 0xe0 ≤ b.toNat ∧ b.toNat < 0xf0)
    (hc : isSecond b c = true) (hd : 0x80 ≤ d.toNat ∧ d.toNat < 0xc0) :
    decodeFirst b (c :: d :: rest) = (Char.ofNat ((b.toNat % 16 * 64 + low c) * 64 + low d), rest) := by
  simp only [decodeFirst, UInt8.lt_iff_toNat_lt, UInt8.le_iff_toNat_le, Bool.and_eq_true, decide_eq_true_eq,
    UInt8.reduceToNat, isContinuation_iff]
  rw [if_neg (by omega), if_neg (by omega), if_pos (by omega), if_pos hc, if_pos hd]

private theorem decode_four {b c d e : UInt8} {rest : List UInt8} (hb : 0xf0 ≤ b.toNat ∧ b.toNat < 0xf5)
    (hc : isSecond b c = true) (hd : 0x80 ≤ d.toNat ∧ d.toNat < 0xc0) (he : 0x80 ≤ e.toNat ∧ e.toNat < 0xc0) :
    decodeFirst b (c :: d :: e :: rest) =
      (Char.ofNat (((b.toNat % 8 * 64 + low c) * 64 + low d) * 64 + low e), rest) := by
  simp only [decodeFirst, UInt8.lt_iff_toNat_lt, UInt8.le_iff_toNat_le, Bool.and_eq_true, decide_eq_true_eq,
    UInt8.reduceToNat, isContinuation_iff]
  rw [if_neg (by omega), if_neg (by omega), if_neg (by omega), if_pos (by omega), if_pos hc, if_pos hd, if_pos he]

/-- A character in its UTF-8 form is read as itself. -/
theorem decodeFirst_encode (c : Char) (rest : List UInt8) :
    ∃ b more, String.utf8EncodeChar c = b :: more ∧ decodeFirst b (more ++ rest) = (c, rest) := by
  have hv : c.val.toNat < 0xd800 ∨ 0xdfff < c.val.toNat ∧ c.val.toNat < 0x110000 := c.valid
  have hself : ∀ {n : Nat}, n = c.val.toNat → (Char.ofNat n, rest) = (c, rest) := by
    rintro n rfl
    rw [show Char.ofNat c.val.toNat = c from Char.ofNat_toNat c]
  simp only [String.utf8EncodeChar]
  generalize c.val.toNat = n at hv hself
  split_ifs
  · refine ⟨_, _, rfl, ?_⟩
    show decodeFirst _ rest = _
    rw [decode_one (by rw [UInt8.toNat_ofNat']; omega)]
    exact hself (by rw [UInt8.toNat_ofNat']; omega)
  · refine ⟨_, _, rfl, ?_⟩
    show decodeFirst _ (_ :: rest) = _
    rw [decode_two (by rw [UInt8.toNat_ofNat']; omega) (by rw [UInt8.toNat_ofNat']; omega)]
    exact hself (by rw [low, UInt8.toNat_ofNat', UInt8.toNat_ofNat']; omega)
  · refine ⟨_, _, rfl, ?_⟩
    show decodeFirst _ (_ :: _ :: rest) = _
    rw [decode_three (by rw [UInt8.toNat_ofNat']; omega)
      (by rw [isSecond_iff, UInt8.toNat_ofNat', UInt8.toNat_ofNat']; omega) (by rw [UInt8.toNat_ofNat']; omega)]
    exact hself (by rw [low, low, UInt8.toNat_ofNat', UInt8.toNat_ofNat', UInt8.toNat_ofNat']; omega)
  · refine ⟨_, _, rfl, ?_⟩
    show decodeFirst _ (_ :: _ :: _ :: rest) = _
    rw [decode_four (by rw [UInt8.toNat_ofNat']; omega)
      (by rw [isSecond_iff, UInt8.toNat_ofNat', UInt8.toNat_ofNat']; omega) (by rw [UInt8.toNat_ofNat']; omega)
      (by rw [UInt8.toNat_ofNat']; omega)]
    exact hself (by rw [low, low, low, UInt8.toNat_ofNat', UInt8.toNat_ofNat', UInt8.toNat_ofNat',
      UInt8.toNat_ofNat']; omega)

/-! ### Texts -/

/-- The UTF-8 form of a text. -/
def utf8Bytes (t : String) : List UInt8 := t.toUTF8.data.toList

theorem utf8Bytes_eq (t : String) : utf8Bytes t = t.toList.flatMap String.utf8EncodeChar := by
  have h : ∀ l : List Char, utf8Bytes (String.ofList l) = l.flatMap String.utf8EncodeChar := by
    intro l
    simp [utf8Bytes, List.utf8Encode]
  rw [← h, String.ofList_toList]

theorem utf8Bytes_append (s t : String) : utf8Bytes (s ++ t) = utf8Bytes s ++ utf8Bytes t := by
  rw [utf8Bytes_eq, utf8Bytes_eq, utf8Bytes_eq, String.toList_append, List.flatMap_append]

theorem decodeChars_flatMap (chars : List Char) : decodeChars (chars.flatMap String.utf8EncodeChar) = chars := by
  induction chars with
  | nil => simp [decodeChars]
  | cons c chars ih =>
    obtain ⟨b, more, hb, hread⟩ := decodeFirst_encode c (chars.flatMap String.utf8EncodeChar)
    rw [List.flatMap_cons, hb, List.cons_append, decodeChars, hread, ih]

/-- Where no character was replaced, writing the characters gives the bytes back. -/
theorem flatMap_decodeChars {bytes : List UInt8} (h : replacement ∉ decodeChars bytes) :
    (decodeChars bytes).flatMap String.utf8EncodeChar = bytes := by
  fun_induction decodeChars bytes with
  | case1 => rfl
  | case2 b rest ih =>
    rw [List.mem_cons, not_or] at h
    rw [List.flatMap_cons, ih h.2, encode_decodeFirst (Ne.symm h.1)]

theorem decodeLossy_utf8Bytes (t : String) : decodeLossy (utf8Bytes t) = t := by
  rw [decodeLossy, utf8Bytes_eq, decodeChars_flatMap, String.ofList_toList]

/-- The bytes that are read as a text without the replacement character are its UTF-8 form. -/
theorem decodeLossy_eq_iff {bytes : List UInt8} {t : String} (h : replacement ∉ t.toList) :
    decodeLossy bytes = t ↔ bytes = utf8Bytes t := by
  constructor
  · rintro rfl
    rw [decodeLossy, String.toList_ofList] at h
    rw [utf8Bytes_eq, decodeLossy, String.toList_ofList, flatMap_decodeChars h]
  · rintro rfl
    exact decodeLossy_utf8Bytes t

/-- Only no bytes at all are read as the empty text. -/
theorem decodeLossy_eq_empty_iff {bytes : List UInt8} : decodeLossy bytes = "" ↔ bytes = [] := by
  rw [decodeLossy_eq_iff (by simp)]
  rfl

end FirmwareSymbols.Text
