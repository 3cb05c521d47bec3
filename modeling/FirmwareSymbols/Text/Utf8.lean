/-!
# Reading bytes as UTF-8

Names in binaries are bytes. `decodeLossy` reads them as UTF-8 and puts one replacement character in the place of
each longest run of bytes that starts a character and cannot be completed (or of a single byte that starts none).
-/

namespace FirmwareSymbols.Text

/-- The character that stands for what is not UTF-8. -/
def replacement : Char := '\ufffd'

def isContinuation (b : UInt8) : Bool := 0x80 ≤ b && b < 0xc0

/-- Whether `second` may follow the first byte of a character of three or four bytes: this excludes overlong
forms, surrogates and values above the last code point. -/
def isSecond (first second : UInt8) : Bool :=
  match first with
  | 0xe0 => 0xa0 ≤ second && second < 0xc0
  | 0xed => 0x80 ≤ second && second < 0xa0
  | 0xf0 => 0x90 ≤ second && second < 0xc0
  | 0xf4 => 0x80 ≤ second && second < 0x90
  | _ => isContinuation second

/-- The six payload bits of a continuation byte. -/
def low (b : UInt8) : Nat := b.toNat % 64

/-- The first character of bytes that start with `b`, and what is left after it. -/
def decodeFirst (b : UInt8) (rest : List UInt8) : Char × List UInt8 :=
  if b < 0x80 then (Char.ofNat b.toNat, rest)
  else if 0xc2 ≤ b && b < 0xe0 then
    match rest with
    | c :: rest' =>
      if isContinuation c then (Char.ofNat (b.toNat % 32 * 64 + low c), rest') else (replacement, rest)
    | [] => (replacement, rest)
  else if 0xe0 ≤ b && b < 0xf0 then
    match rest with
    | c :: rest' =>
      if isSecond b c then
        match rest' with
        | d :: rest'' =>
          if isContinuation d then (Char.ofNat ((b.toNat % 16 * 64 + low c) * 64 + low d), rest'')
          else (replacement, rest')
        | [] => (replacement, rest')
      else (replacement, rest)
    | [] => (replacement, rest)
  else if 0xf0 ≤ b && b < 0xf5 then
    match rest with
    | c :: rest' =>
      if isSecond b c then
        match rest' with
        | d :: rest'' =>
          if isContinuation d then
            match rest'' with
            | e :: rest''' =>
              if isContinuation e then
                (Char.ofNat (((b.toNat % 8 * 64 + low c) * 64 + low d) * 64 + low e), rest''')
              else (replacement, rest'')
            | [] => (replacement, rest'')
          else (replacement, rest')
        | [] => (replacement, rest')
      else (replacement, rest)
    | [] => (replacement, rest)
  else (replacement, rest)

theorem length_decodeFirst_le (b : UInt8) (rest : List UInt8) : (decodeFirst b rest).2.length ≤ rest.length := by
  unfold decodeFirst
  repeat' split
  all_goals simp only [List.length_cons]
  all_goals omega

/-- The characters of the bytes, each faulty run replaced. -/
def decodeChars (bytes : List UInt8) : List Char :=
  match bytes with
  | [] => []
  | b :: rest => (decodeFirst b rest).1 :: decodeChars (decodeFirst b rest).2
termination_by bytes.length
decreasing_by
  have := length_decodeFirst_le b rest
  simp only [List.length_cons]
  omega

def decodeLossy (bytes : List UInt8) : String := String.ofList (decodeChars bytes)

end FirmwareSymbols.Text
