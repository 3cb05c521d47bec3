import FirmwareSymbols.Proofs.Elf.Layout

/-!
# Positions in an image

The numbers of an image by the offsets where they stand: `numberAt data order offset width` is read straight from the
bytes, with no record taken apart before it. The three records of the format are written down with the offsets of
their fields (`headerAt`, `sectionHeaderAt`, `rowAt`), and the parser, which cuts the image into records and the
records into fields, reads the same numbers (`eq_headerAt_of_parseHeader`, `decodeSection_extract`,
`decodeRow_extract`).
-/

namespace FirmwareSymbols.Elf

variable {data : Array UInt8}

/-- The number of `width` bytes at an offset. -/
def numberAt (data : Array UInt8) (order : ByteOrder) (offset width : Nat) : Nat :=
  order.toNat (data.extract offset (offset + width)).toList

/-- Numbers of these widths that stand one after another. -/
def numbersAt (data : Array UInt8) (order : ByteOrder) : List Nat → Nat → List Nat
  | [], _ => []
  | w :: ws, offset => numberAt data order offset w :: numbersAt data order ws (offset + w)

/-! ### Records by the offsets of their fields -/

/-- The file header, which stands at the start of an image. -/
def headerAt (data : Array UInt8) (word : WordSize) (order : ByteOrder) : Header :=
  match word with
  | .w32 => ⟨.w32, order, numberAt data order 32 4, numberAt data order 46 2, numberAt data order 48 2,
      numberAt data order 50 2⟩
  | .w64 => ⟨.w64, order, numberAt data order 40 8, numberAt data order 58 2, numberAt data order 60 2,
      numberAt data order 62 2⟩

/-- The section header at an offset. -/
def sectionHeaderAt (data : Array UInt8) (word : WordSize) (order : ByteOrder) (offset : Nat) : Section :=
  match word with
  | .w32 => ⟨numberAt data order offset 4, numberAt data order (offset + 4) 4, numberAt data order (offset + 16) 4,
      numberAt data order (offset + 20) 4, numberAt data order (offset + 24) 4⟩
  | .w64 => ⟨numberAt data order offset 4, numberAt data order (offset + 4) 4, numberAt data order (offset + 24) 8,
      numberAt data order (offset + 32) 8, numberAt data order (offset + 40) 4⟩

/-- The row of a symbol table at an offset. -/
def rowAt (data : Array UInt8) (word : WordSize) (order : ByteOrder) (offset : Nat) : Row :=
  match word with
  | .w32 =>
    { name := numberAt data order offset 4
      value := numberAt data order (offset + 4) 4
      info := numberAt data order (offset + 12) 1
      other := numberAt data order (offset + 13) 1
      home := numberAt data order (offset + 14) 2 }
  | .w64 =>
    { name := numberAt data order offset 4
      info := numberAt data order (offset + 4) 1
      other := numberAt data order (offset + 5) 1
      home := numberAt data order (offset + 6) 2
      value := numberAt data order (offset + 8) 8 }

/-! ### Cutting an image -/

private theorem take_extract {start stop width : Nat} (h : start + width ≤ stop) :
    (data.extract start stop).toList.take width = (data.extract start (start + width)).toList := by
  have hle : width ≤ stop - start := by omega
  simp [List.extract_eq_take_drop, List.take_take, hle]

private theorem drop_extract (start stop width : Nat) :
    (data.extract start stop).toList.drop width = (data.extract (start + width) stop).toList := by
  simp [List.extract_eq_take_drop, List.drop_take, Nat.sub_sub]

/-- The fields of a record that was cut out are the numbers where the record stands. -/
theorem fields_extract (order : ByteOrder) (widths : List Nat) {start stop : Nat} (h : start + widths.sum ≤ stop) :
    fields order widths (data.extract start stop).toList = numbersAt data order widths start := by
  induction widths generalizing start with
  | nil => rfl
  | cons w ws ih =>
    rw [List.sum_cons] at h
    rw [fields, numbersAt, take_extract (by omega), drop_extract, ih (by omega), numberAt]

/-- The records of a table stand one after another. -/
theorem chunks_extract (width count start : Nat) :
    chunks width count (data.extract start (start + count * width)).toList =
      (List.range count).map fun k => (data.extract (start + k * width) (start + k * width + width)).toList := by
  induction count generalizing start with
  | zero => rfl
  | succ count ih =>
    have hstop : start + (count + 1) * width = start + width + count * width := by ring
    have hshift : ∀ k, start + width + k * width = start + (k + 1) * width := by
      intro k
      ring
    rw [chunks, take_extract (by rw [hstop]; omega), drop_extract, hstop, ih, List.range_succ_eq_map, List.map_cons,
      List.map_map, Nat.zero_mul, Nat.add_zero]
    simp only [hshift, Function.comp_def, Nat.succ_eq_add_one]

/-- What stands in a part of the image that was cut out stands in the image. -/
theorem holds_extract_iff {offset start size : Nat} {piece : List UInt8} (hin : start + size ≤ data.size) :
    Holds (data.extract start (start + size)).toList offset piece ↔
      offset + piece.length ≤ size ∧ Holds data.toList (start + offset) piece := by
  have hlen : (data.extract start (start + size)).toList.length = size := by
    simp
    omega
  have hdata : data.toList.length = data.size := Array.length_toList
  have hcut : offset + piece.length ≤ size →
      ((data.extract start (start + size)).toList.drop offset).take piece.length =
        (data.toList.drop (start + offset)).take piece.length := by
    intro hle
    have hmin : piece.length ≤ size - offset := by omega
    simp [List.extract_eq_take_drop, List.drop_take, List.take_take, hmin]
  rw [holds_iff_take_drop, holds_iff_take_drop, hlen, hdata]
  constructor
  · rintro ⟨hle, hpiece⟩
    exact ⟨hle, by omega, by rw [← hcut hle, hpiece]⟩
  · rintro ⟨hle, -, hpiece⟩
    exact ⟨hle, by rw [hcut hle, hpiece]⟩

theorem eq_extract_of_slice? {offset size : Nat} {bytes : Array UInt8} (h : slice? data offset size = some bytes) :
    offset + size ≤ data.size ∧ bytes = data.extract offset (offset + size) := by
  unfold slice? at h
  split at h
  next hle => exact ⟨hle, (Option.some.inj h).symm⟩
  next => cases h

/-! ### The parser reads these numbers -/

theorem decodeSection_extract (word : WordSize) (order : ByteOrder) (offset : Nat) :
    decodeSection word order (data.extract offset (offset + word.sectionSize)).toList =
      sectionHeaderAt data word order offset := by
  have hwidths : (sectionFields word).sum = word.sectionSize := by cases word <;> rfl
  rw [decodeSection, fields_extract order _ (by rw [hwidths])]
  cases word <;> rfl

theorem decodeRow_extract (word : WordSize) (order : ByteOrder) (offset : Nat) :
    decodeRow word order (data.extract offset (offset + word.symbolSize)).toList = rowAt data word order offset := by
  have hwidths : (rowFields word).sum = word.symbolSize := by cases word <;> rfl
  have hfields : fields order (rowFields word) (data.extract offset (offset + word.symbolSize)).toList =
      numbersAt data order (rowFields word) offset := fields_extract order _ (by rw [hwidths])
  cases word with
  | w32 =>
    simp only [decodeRow, hfields]
    rfl
  | w64 =>
    simp only [decodeRow, hfields]
    rfl

/-- The class stands in the fifth byte. -/
theorem getElem?_of_wordSize {word : WordSize} (h : wordSize data = .ok word) : data[4]? = some word.code := by
  have hbyte : (data.extract 0 8).toList[4]? = data[4]? := by
    rw [Array.getElem?_toList, Array.getElem?_extract]
    simp
  unfold wordSize at h
  split at h
  · cases h
  split at h
  case h_1 hfirst =>
    cases h
    rw [← hbyte, hfirst]
    rfl
  case h_2 hfirst =>
    cases h
    rw [← hbyte, hfirst]
    rfl
  all_goals cases h

/-- The byte order stands in the sixth byte, and the other numbers of the header have their places. -/
theorem eq_headerAt_of_parseHeader {word : WordSize} {h : Header} (hp : parseHeader word data = .ok h) :
    data[5]? = some h.order.code ∧ h = headerAt data word h.order := by
  unfold parseHeader at hp
  split at hp
  · cases hp
  next bytes hslice =>
  obtain ⟨hsize, rfl⟩ := eq_extract_of_slice? hslice
  split at hp
  case h_2 => cases hp
  next encoding version rest hbytes =>
  have hencoding : data[5]? = some encoding := by
    have hbyte : (data.extract 0 (0 + word.headerSize)).toList[5]? = some encoding := by
      rw [hbytes]
      rfl
    rw [Array.getElem?_toList, Array.getElem?_extract] at hbyte
    simp only [Nat.zero_add, Option.ite_none_right_eq_some] at hbyte
    exact hbyte.2
  split at hp
  · cases hp
  next hknown =>
  dsimp only at hp
  have hwidths : 0 + 16 + (headerFields word).sum = 0 + word.headerSize := by cases word <;> rfl
  rw [drop_extract, fields_extract _ _ (by rw [hwidths])] at hp
  have hcode : (if encoding = 1 then ByteOrder.little else .big).code = encoding := by
    simp only [Bool.or_eq_true, Bool.and_eq_true, decide_eq_true_eq, not_or, not_and_or, not_not] at hknown
    rcases hknown.2 with rfl | rfl <;> rfl
  rw [← hcode] at hencoding
  generalize (if encoding = 1 then ByteOrder.little else .big) = order at hp hencoding
  cases word with
  | w32 =>
    obtain rfl := Except.ok.inj hp
    exact ⟨hencoding, rfl⟩
  | w64 =>
    obtain rfl := Except.ok.inj hp
    exact ⟨hencoding, rfl⟩

end FirmwareSymbols.Elf
