import FirmwareSymbols.Elf.Bytes
import FirmwareSymbols.Elf.Fault

/-!
# File kinds

The kind of a binary by its first bytes. Only the two ELF classes are read; other known kinds are told apart so that
the report can name them.
-/

namespace FirmwareSymbols.Elf

/-- The class of an ELF file: the width of its addresses. -/
inductive WordSize
  | w32
  | w64
deriving DecidableEq, Repr

/-- A number of `width` bytes in little-endian order at an offset. -/
def littleAt? (data : Array UInt8) (offset width : Nat) : Option Nat :=
  (slice? data offset width).map fun bytes => natOfLittle bytes.toList

/-- The size of the headers of a portable executable up to its optional header, and where the latter starts. -/
def peHeadersSize : Nat := 120

/-- What a file with the DOS magic is: its optional header tells, if there is one. -/
def dosKind (data : Array UInt8) : Fault :=
  match slice? data 0 64, littleAt? data 60 4 with
  | some _, some offset =>
    match slice? data offset peHeadersSize with
    | some headers =>
      if headers.toList.take 4 ≠ [0x50, 0x45, 0, 0] then .unknownDos
      else if (headers.toList.drop 24).take 2 = [0x0b, 0x01] then .foreign .pe32
      else if (headers.toList.drop 24).take 2 = [0x0b, 0x02] then .foreign .pe64
      else .unknownDos
    | none => .unknownDos
  | _, _ => .unknownDos

/-- The class identifier of object files with many sections. -/
def bigObjectClass : List UInt8 :=
  [0xc7, 0xa1, 0xba, 0xd1, 0xee, 0xba, 0xa9, 0x4b, 0xaf, 0x20, 0xfa, 0xf6, 0x6a, 0xa4, 0xdc, 0xb8]

/-- What an anonymous object file is. -/
def anonymousKind (data : Array UInt8) : Fault :=
  match slice? data 0 32 with
  | some header =>
    if (header.toList.drop 12).take 16 = bigObjectClass then .foreign .coffBig else .unknownAnonymous
  | none => .unknownAnonymous

/-- The class of an ELF file, or why the file is none. -/
def wordSize (data : Array UInt8) : Except Fault WordSize :=
  if data.size < 16 then .error .tooShort
  else
    match (data.extract 0 8).toList with
    | 0x7f :: 0x45 :: 0x4c :: 0x46 :: 1 :: _ => .ok .w32
    | 0x7f :: 0x45 :: 0x4c :: 0x46 :: 2 :: _ => .ok .w64
    | [0x21, 0x3c, 0x61, 0x72, 0x63, 0x68, 0x3e, 0x0a] => .error (.foreign .archive)
    | [0x21, 0x3c, 0x74, 0x68, 0x69, 0x6e, 0x3e, 0x0a] => .error (.foreign .archive)
    | [0x64, 0x79, 0x6c, 0x64, 0x5f, 0x76, 0x31, 0x20] => .error (.foreign .dyldCache)
    | 0xfe :: 0xed :: 0xfa :: 0xce :: _ => .error (.foreign .machO32)
    | 0xce :: 0xfa :: 0xed :: 0xfe :: _ => .error (.foreign .machO32)
    | 0xfe :: 0xed :: 0xfa :: 0xcf :: _ => .error (.foreign .machO64)
    | 0xcf :: 0xfa :: 0xed :: 0xfe :: _ => .error (.foreign .machO64)
    | 0xca :: 0xfe :: 0xba :: 0xbe :: _ => .error (.foreign .machOFat32)
    | 0xca :: 0xfe :: 0xba :: 0xbf :: _ => .error (.foreign .machOFat64)
    | 0x4d :: 0x5a :: _ => .error (dosKind data)
    | 0xc4 :: 0x01 :: _ => .error (.foreign .coff)
    | 0x64 :: 0xaa :: _ => .error (.foreign .coff)
    | 0x41 :: 0xa6 :: _ => .error (.foreign .coff)
    | 0x4c :: 0x01 :: _ => .error (.foreign .coff)
    | 0x64 :: 0x86 :: _ => .error (.foreign .coff)
    | 0x00 :: 0x00 :: 0xff :: 0xff :: 0x00 :: 0x00 :: _ => .error (.foreign .coffImport)
    | 0x00 :: 0x00 :: 0xff :: 0xff :: 0x02 :: 0x00 :: _ => .error (anonymousKind data)
    | 0x01 :: 0xdf :: _ => .error (.foreign .xcoff32)
    | 0x01 :: 0xf7 :: _ => .error (.foreign .xcoff64)
    | _ => .error .unknownMagic

end FirmwareSymbols.Elf
