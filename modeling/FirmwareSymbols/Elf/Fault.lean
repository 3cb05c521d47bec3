/-!
# Faults of binaries

Why the bytes of a file are no ELF file that can be read, in the words that are reported.
-/

namespace FirmwareSymbols.Elf

/-- What a file is by its first bytes, if it is not ELF but known. -/
inductive ForeignKind
  | archive
  | dyldCache
  | machO32
  | machO64
  | machOFat32
  | machOFat64
  | pe32
  | pe64
  | coff
  | coffBig
  | coffImport
  | xcoff32
  | xcoff64
deriving DecidableEq, Repr

def ForeignKind.name : ForeignKind → String
  | .archive => "Archive"
  | .dyldCache => "DyldCache"
  | .machO32 => "MachO32"
  | .machO64 => "MachO64"
  | .machOFat32 => "MachOFat32"
  | .machOFat64 => "MachOFat64"
  | .pe32 => "Pe32"
  | .pe64 => "Pe64"
  | .coff => "Coff"
  | .coffBig => "CoffBig"
  | .coffImport => "CoffImport"
  | .xcoff32 => "Xcoff32"
  | .xcoff64 => "Xcoff64"

inductive Fault
  | tooShort
  | unknownMagic
  | unknownDos
  | unknownAnonymous
  | foreign (kind : ForeignKind)
  | headerSize
  | unsupportedHeader
  | sectionEntrySize
  | sectionZero
  | sectionTable
  | noNameSection
  | missingSectionZero
  | nameSectionIndex
  | nameSectionSize
  | sectionIndex
  | symbolSectionType
  | symbolData
  | stringSectionType
  | stringSectionSize
  | extendedIndexData
  | symbolName
deriving DecidableEq, Repr

def Fault.message : Fault → String
  | .tooShort => "Could not read file magic"
  | .unknownMagic => "Unknown file magic"
  | .unknownDos => "Unknown MS-DOS file"
  | .unknownAnonymous => "Unknown anon object file"
  | .foreign kind => "unsupported file kind " ++ kind.name
  | .headerSize => "Invalid ELF header size or alignment"
  | .unsupportedHeader => "Unsupported ELF header"
  | .sectionEntrySize => "Invalid ELF section header entry size"
  | .sectionZero => "Invalid ELF section header offset or size"
  | .sectionTable => "Invalid ELF section header offset/size/alignment"
  | .noNameSection => "Missing ELF e_shstrndx"
  | .missingSectionZero => "Missing ELF section headers for e_shstrndx overflow"
  | .nameSectionIndex => "Invalid ELF e_shstrndx"
  | .nameSectionSize => "Invalid ELF shstrtab size"
  | .sectionIndex => "Invalid ELF section index"
  | .symbolSectionType => "Invalid ELF symbol table section type"
  | .symbolData => "Invalid ELF symbol table data"
  | .stringSectionType => "Invalid ELF string section type"
  | .stringSectionSize => "Invalid ELF string section offset or size"
  | .extendedIndexData => "Invalid ELF symtab_shndx data"
  | .symbolName => "Invalid ELF symbol name offset"

end FirmwareSymbols.Elf
