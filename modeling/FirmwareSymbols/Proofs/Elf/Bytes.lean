import FirmwareSymbols.Elf.Bytes
import Mathlib.Tactic.Ring

/-!
# Numbers, pieces and names in an image

The other direction of reading an image: numbers are written with a given width in either byte order
(`ByteOrder.bytes`), and `Holds image offset piece` says that a piece of bytes stands at an offset of the image.

* A number is read back as far as it fits its width (`fields_bytes`), and a piece that the image holds is the slice
  there (`Holds.slice?_eq`).
* A table of records of one width is cut into its records (`chunks_flatMap`).
* The name at an offset is the one that stands there with its NUL (`nameAt?_eq_some_iff`).
-/

namespace FirmwareSymbols.Elf

/-! ### Numbers -/

/-- The bytes of a number, the least significant first. -/
def littleBytes : Nat → Nat → List UInt8
  | 0, _ => []
  | width + 1, n => UInt8.ofNat (n % 256) :: littleBytes width (n / 256)

/-- The bytes of a number in this order. -/
def ByteOrder.bytes (order : ByteOrder) (width n : Nat) : List UInt8 :=
  match order with
  | .little => littleBytes width n
  | .big => (littleBytes width n).reverse

private theorem length_littleBytes (width n : Nat) : (littleBytes width n).length = width := by
  induction width generalizing n with
  | zero => rfl
  | succ width ih => simp [littleBytes, ih]

@[simp] theorem ByteOrder.length_bytes (order : ByteOrder) (width n : Nat) : (order.bytes width n).length = width := by
  cases order <;> simp [bytes, length_littleBytes]

private theorem natOfLittle_littleBytes (width n : Nat) : natOfLittle (littleBytes width n) = n % 256 ^ width := by
  induction width generalizing n with
  | zero => simp [littleBytes, natOfLittle, Nat.mod_one]
  | succ width ih =>
    have hrest : (littleBytes width (n / 256)).foldr (fun b m => b.toNat + 256 * m) 0 = n / 256 % 256 ^ width :=
      ih (n / 256)
    have hsplit : n % 256 ^ (width + 1) = n % 256 + 256 * (n / 256 % 256 ^ width) := by
      rw [pow_succ', Nat.mod_mul]
    simp only [natOfLittle, littleBytes, List.foldr_cons, hrest, UInt8.toNat_ofNat']
    omega

theorem ByteOrder.toNat_bytes (order : ByteOrder) (width n : Nat) :
    order.toNat (order.bytes width n) = n % 256 ^ width := by
  cases order with
  | little => exact natOfLittle_littleBytes width n
  | big =>
    rw [toNat, bytes, List.reverse_reverse]
    exact natOfLittle_littleBytes width n

@[simp] theorem fields_nil (order : ByteOrder) (rest : List UInt8) : fields order [] rest = [] := rfl

/-- A number at the front of a record is its first field, as far as it fits. -/
theorem fields_bytes (order : ByteOrder) (width n : Nat) (widths : List Nat) (rest : List UInt8) :
    fields order (width :: widths) (order.bytes width n ++ rest) =
      n % 256 ^ width :: fields order widths rest := by
  have hlen := order.length_bytes width n
  rw [fields, List.take_left' hlen, List.drop_left' hlen, ByteOrder.toNat_bytes]

/-- A single byte is the same in both orders. -/
theorem fields_byte (order : ByteOrder) (b : UInt8) (widths : List Nat) (rest : List UInt8) :
    fields order (1 :: widths) (b :: rest) = b.toNat :: fields order widths rest := by
  cases order <;> simp [fields, ByteOrder.toNat, natOfLittle]

/-! ### Pieces -/

/-- The image has these bytes from the offset on. -/
def Holds (image : List UInt8) (offset : Nat) (piece : List UInt8) : Prop :=
  ∃ before after, image = before ++ piece ++ after ∧ before.length = offset

variable {image piece more : List UInt8} {offset : Nat}

theorem Holds.length_le (h : Holds image offset piece) : offset + piece.length ≤ image.length := by
  obtain ⟨before, after, rfl, rfl⟩ := h
  simp only [List.length_append]
  omega

theorem Holds.of_append_right (h : Holds image offset (piece ++ more)) : Holds image (offset + piece.length) more := by
  obtain ⟨before, after, rfl, rfl⟩ := h
  exact ⟨before ++ piece, after, by simp, by simp⟩

theorem Holds.append (h : Holds image offset piece) (more : List UInt8) : Holds (image ++ more) offset piece := by
  obtain ⟨before, after, rfl, rfl⟩ := h
  exact ⟨before, after ++ more, by simp, rfl⟩

/-- A piece stands where the bytes before it end. -/
theorem holds_end (before piece : List UInt8) : Holds (before ++ piece) before.length piece :=
  ⟨before, [], by simp, rfl⟩

theorem holds_nil_iff : Holds image offset [] ↔ offset ≤ image.length := by
  constructor
  · intro h
    simpa using h.length_le
  · intro h
    exact ⟨image.take offset, image.drop offset, by simp, by simp [h]⟩

theorem holds_cons_iff {b : UInt8} :
    Holds image offset (b :: piece) ↔ image[offset]? = some b ∧ Holds image (offset + 1) piece := by
  constructor
  · intro h
    have hrest : Holds image (offset + [b].length) piece := Holds.of_append_right h
    refine ⟨?_, hrest⟩
    obtain ⟨before, after, rfl, rfl⟩ := h
    simp
  · rintro ⟨hb, before, after, rfl, hlen⟩
    have hlt : offset < before.length := by omega
    -- the byte at the offset is the last one before the rest of the piece
    have hsplit : before = before.take offset ++ [b] := by
      rw [List.append_assoc, List.getElem?_append_left hlt, List.getElem?_eq_getElem hlt] at hb
      rw [← Option.some.inj hb, List.take_append_getElem hlt, List.take_of_length_le (by omega)]
    refine ⟨before.take offset, after, ?_, by simp; omega⟩
    conv => lhs; rw [hsplit]
    simp

theorem holds_iff_take_drop :
    Holds image offset piece ↔ offset + piece.length ≤ image.length ∧ (image.drop offset).take piece.length = piece := by
  constructor
  · intro h
    refine ⟨h.length_le, ?_⟩
    obtain ⟨before, after, rfl, rfl⟩ := h
    simp
  · rintro ⟨hle, hpiece⟩
    refine ⟨image.take offset, (image.drop offset).drop piece.length, ?_, by simp; omega⟩
    calc
      image = image.take offset ++ image.drop offset := (List.take_append_drop offset image).symm
      _ = image.take offset ++ ((image.drop offset).take piece.length ++ (image.drop offset).drop piece.length) := by
        rw [List.take_append_drop piece.length]
      _ = image.take offset ++ piece ++ (image.drop offset).drop piece.length := by rw [hpiece, List.append_assoc]

theorem Holds.slice?_eq {data : Array UInt8} (h : Holds data.toList offset piece) :
    slice? data offset piece.length = some piece.toArray := by
  have hle : offset + piece.length ≤ data.size := by simpa using h.length_le
  rw [slice?, if_pos hle, Option.some.injEq]
  obtain ⟨before, after, hd, rfl⟩ := h
  apply Array.ext'
  rw [Array.toList_extract, hd, List.extract_eq_take_drop]
  simp

/-! ### Records of one width -/

theorem chunks_flatMap {α : Type} {width : Nat} (encode : α → List UInt8) (records : List α)
    (h : ∀ r ∈ records, (encode r).length = width) :
    chunks width records.length (records.flatMap encode) = records.map encode := by
  induction records with
  | nil => rfl
  | cons r records ih =>
    have hr := h r (by simp)
    rw [List.length_cons, List.flatMap_cons, chunks, List.take_left' hr, List.drop_left' hr,
      ih fun x hx => h x (by simp [hx]), List.map_cons]

theorem length_flatMap {α : Type} {width : Nat} (encode : α → List UInt8) (records : List α)
    (h : ∀ r ∈ records, (encode r).length = width) : (records.flatMap encode).length = records.length * width := by
  induction records with
  | nil => simp
  | cons r records ih =>
    rw [List.flatMap_cons, List.length_append, ih fun x hx => h x (by simp [hx]), h r (by simp), List.length_cons]
    ring

/-! ### Names -/

/-- The name at an offset of a table ends before the first NUL. -/
theorem nameAt?_eq_some_iff {table : Array UInt8} {name : List UInt8} :
    nameAt? table offset = some name ↔ 0 ∉ name ∧ Holds table.toList offset (name ++ [0]) := by
  induction name generalizing offset with
  | nil =>
    rw [List.nil_append, holds_cons_iff, holds_nil_iff, nameAt?]
    by_cases hlt : offset < table.size
    · have hle : offset + 1 ≤ table.size := hlt
      by_cases hz : table[offset] = 0
      · simp [hlt, hz, hle]
      · simp [hlt, hz]
    · simp [hlt]
  | cons b name ih =>
    rw [List.cons_append, holds_cons_iff, nameAt?]
    by_cases hlt : offset < table.size
    · by_cases hz : table[offset] = 0
      · simp [hlt, hz]
        grind
      · simp only [hlt, hz, dite_true, if_false, Option.map_eq_some_iff, List.cons.injEq, Array.getElem?_toList]
        grind
    · simp [hlt]

/-- An empty table has no names. -/
theorem nameAt?_empty : nameAt? #[] offset = none := by
  rw [nameAt?, dif_neg (by simp)]

end FirmwareSymbols.Elf
