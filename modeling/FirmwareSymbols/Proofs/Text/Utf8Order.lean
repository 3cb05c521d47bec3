import FirmwareSymbols.Proofs.Text.Utf8
import Mathlib.Data.String.Basic

/-!
# The order of texts and of their bytes

Texts are ordered by their code points. As the UTF-8 forms of two characters are ordered like the characters, and none
continues another (`encode_append_lt`), this is the order of their bytes (`utf8Bytes_lt`).
-/

namespace FirmwareSymbols.Text

/-- Numbers are ordered as their four digits to the base 64 are, the first one unbounded. -/
private theorem digits_lt {n m : Nat} (h : n < m) :
    n / 262144 < m / 262144 ∨ n / 262144 = m / 262144 ∧ (n / 4096 % 64 < m / 4096 % 64 ∨
      n / 4096 % 64 = m / 4096 % 64 ∧ (n / 64 % 64 < m / 64 % 64 ∨ n / 64 % 64 = m / 64 % 64 ∧ n % 64 < m % 64)) := by
  omega

/-- Where the forms of two characters first differ, the smaller character has the smaller byte. -/
private theorem encode_append_lt {c d : Char} (h : c < d) (s t : List UInt8) :
    String.utf8EncodeChar c ++ s < String.utf8EncodeChar d ++ t := by
  have hlt : c.val.toNat < d.val.toNat := UInt32.lt_iff_toNat_lt.1 h
  have hd : d.val.toNat < 0x110000 := by
    have hvalid : d.val.toNat < 0xd800 ∨ 0xdfff < d.val.toNat ∧ d.val.toNat < 0x110000 := d.valid
    omega
  simp only [String.utf8EncodeChar]
  generalize c.val.toNat = n at hlt
  generalize d.val.toNat = m at hlt hd
  -- a shorter form starts with a smaller byte, forms of one length are compared digit by digit
  by_cases hn : n ≤ 0xffff
  · split_ifs
    all_goals
      simp only [List.cons_append, List.nil_append, List.cons_lt_cons_iff, UInt8.lt_iff_toNat_lt, ← UInt8.toNat_inj,
        UInt8.toNat_ofNat']
      omega
  · rw [if_neg (by omega), if_neg (by omega), if_neg hn, if_neg (by omega), if_neg (by omega), if_neg (by omega)]
    simp only [List.cons_append, List.nil_append, List.cons_lt_cons_iff, UInt8.lt_iff_toNat_lt, ← UInt8.toNat_inj,
      UInt8.toNat_ofNat']
    rcases digits_lt hlt with h₁ | ⟨h₁, h₂ | ⟨h₂, h₃ | ⟨h₃, h₄⟩⟩⟩
    · exact .inl (by omega)
    · exact .inr ⟨by omega, .inl (by omega)⟩
    · exact .inr ⟨by omega, .inr ⟨by omega, .inl (by omega)⟩⟩
    · exact .inr ⟨by omega, .inr ⟨by omega, .inr ⟨by omega, .inl (by omega)⟩⟩⟩

/-- A smaller text has the smaller bytes. -/
theorem utf8Bytes_lt {s t : String} (h : s < t) : utf8Bytes s < utf8Bytes t := by
  rw [utf8Bytes_eq, utf8Bytes_eq]
  have hchars : s.toList < t.toList := String.lt_iff_toList_lt.1 h
  generalize s.toList = l at hchars
  generalize t.toList = m at hchars
  induction l generalizing m with
  | nil =>
    cases m with
    | nil => exact absurd hchars (List.not_lt_nil [])
    | cons d m =>
      obtain ⟨b, more, hb, -⟩ := decodeFirst_encode d []
      rw [List.flatMap_nil, List.flatMap_cons, hb]
      exact List.nil_lt_cons b _
  | cons c l ih =>
    cases m with
    | nil => exact absurd hchars (List.not_lt_nil _)
    | cons d m =>
      rw [List.flatMap_cons, List.flatMap_cons]
      rcases List.cons_lt_cons_iff.1 hchars with hcd | ⟨rfl, hlm⟩
      · exact encode_append_lt hcd _ _
      · exact List.append_left_lt (ih m hlm)

end FirmwareSymbols.Text
