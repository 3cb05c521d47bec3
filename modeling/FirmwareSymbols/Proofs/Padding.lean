import FirmwareSymbols.Proofs.TableReader
import Mathlib.Algebra.Group.Nat.Even
import Mathlib.Algebra.GroupWithZero.Nat
import Mathlib.Order.Bounds.Basic

/-!
# Lengths of table files

The text of a table has nine bytes, and for each entry 24 bytes, those of its name and one for each digit of its address
(`utf8ByteSize_render`). Aligned padding rounds this length up to a multiple of four (`Padding.isLeast_aligned`). Legacy
padding adds the remainder of the length once more, so that the sum is a multiple of four exactly if the length is even
(`Padding.four_dvd_legacy_iff`).
-/

namespace FirmwareSymbols

namespace Padding

theorem amount_le (padding : Padding) (length : Nat) : padding.amount length ≤ 3 := by
  cases padding with
  | aligned =>
    unfold amount
    dsimp only
    omega
  | legacy => exact Nat.le_of_lt_succ (Nat.mod_lt length (by decide))

theorem isLeast_aligned (length : Nat) :
    IsLeast {size | 4 ∣ size ∧ length ≤ size} (length + amount .aligned length) := by
  unfold amount
  refine ⟨⟨?_, ?_⟩, ?_⟩
  · dsimp only
    omega
  · exact Nat.le_add_right _ _
  · rintro size ⟨hsize, hle⟩
    dsimp only
    omega

theorem four_dvd_legacy_iff (length : Nat) : 4 ∣ length + amount .legacy length ↔ Even length := by
  rw [Nat.even_iff]
  unfold amount
  dsimp only
  omega

end Padding

namespace AddressTable

variable {t : AddressTable}

theorem utf8ByteSize_renderEntry (e : String × UInt64) :
    (renderEntry e).utf8ByteSize = 24 + e.1.utf8ByteSize + (Nat.log 16 e.2.toNat + 1) := by
  have hname : "  - Name: ".utf8ByteSize = 10 := rfl
  have haddress : "\n    Addr: ".utf8ByteSize = 11 := rfl
  have hbase : "0x".utf8ByteSize = 2 := rfl
  have hfeed : "\n".utf8ByteSize = 1 := rfl
  unfold renderEntry hexAddress
  simp only [String.utf8ByteSize_append, Text.utf8ByteSize_toDigits, hname, haddress, hbase, hfeed]
  omega

theorem utf8ByteSize_render (t : AddressTable) :
    t.render.utf8ByteSize =
      9 + (t.entries.map fun e => 24 + e.1.utf8ByteSize + (Nat.log 16 e.2.toNat + 1)).sum := by
  have hfirst : "Symbols:\n".utf8ByteSize = 9 := rfl
  have hentries : ∀ entries : List (String × UInt64), (String.join (entries.map renderEntry)).utf8ByteSize =
      (entries.map fun e => 24 + e.1.utf8ByteSize + (Nat.log 16 e.2.toNat + 1)).sum := by
    intro entries
    induction entries with
    | nil => rfl
    | cons e entries ih =>
      rw [List.map_cons, String.join_cons, String.utf8ByteSize_append, utf8ByteSize_renderEntry, ih, List.map_cons,
        List.sum_cons]
  rw [render, String.utf8ByteSize_append, hfirst, hentries]

theorem size_renderPadded (t : AddressTable) (padding : Padding) :
    (t.renderPadded padding).size = t.render.utf8ByteSize + padding.amount t.render.utf8ByteSize := by
  unfold renderPadded
  rw [ByteArray.size_append, List.size_toByteArray, List.length_replicate]
  rfl

/-- The text ends in a line feed, whatever the last name ends in. -/
theorem getLast?_render (t : AddressTable) : (Text.utf8Bytes t.render).getLast? = some '\n'.toUInt8 := by
  obtain ⟨before, hbefore⟩ := exists_render_eq t
  have hfeed : Text.utf8Bytes "\n" = ['\n'.toUInt8] := rfl
  rw [hbefore, Text.utf8Bytes_append, hfeed, List.getLast?_concat]

/-- A table file is the text of the table, which ends in a line feed, and at most three NUL bytes after it. Aligned, it
has the least length that is a multiple of four and leaves room for the text. In the legacy form the number of NUL bytes
is the length of the text modulo four, so the whole is a multiple of four exactly if that length is even. The length of
the text is counted in bytes: an address has a digit for each power of 16 that it reaches, and zero has one. -/
theorem renderPadded_layout (t : AddressTable) :
    let length := t.render.utf8ByteSize
    (∀ padding, ∃ count ≤ 3,
      (t.renderPadded padding).data.toList = Text.utf8Bytes t.render ++ List.replicate count 0 ∧
      (t.renderPadded padding).size = length + count) ∧
    (Text.utf8Bytes t.render).getLast? = some '\n'.toUInt8 ∧
    IsLeast {size | 4 ∣ size ∧ length ≤ size} (t.renderPadded .aligned).size ∧
    (t.renderPadded .legacy).data.toList = Text.utf8Bytes t.render ++ List.replicate (length % 4) 0 ∧
    (4 ∣ (t.renderPadded .legacy).size ↔ Even length) ∧
    length = 9 + (t.entries.map fun e => 24 + e.1.utf8ByteSize + (Nat.log 16 e.2.toNat + 1)).sum := by
  intro length
  refine ⟨fun padding => ?_, getLast?_render t, ?_, toList_renderPadded t .legacy, ?_, utf8ByteSize_render t⟩
  · exact ⟨padding.amount length, padding.amount_le length, toList_renderPadded t padding, size_renderPadded t padding⟩
  · rw [size_renderPadded]
    exact Padding.isLeast_aligned length
  · rw [size_renderPadded]
    exact Padding.four_dvd_legacy_iff length

/-- Address zero has one digit, and the name `é` has two bytes. -/
example : (ofList [("é", 0)]).render.utf8ByteSize = 9 + (24 + 2 + 1) := by decide

end AddressTable

end FirmwareSymbols
