import FirmwareSymbols.Proofs.Check
import FirmwareSymbols.Proofs.Elf.Assembly

/-!
# Passed checks and the rows of the images

A check compares names as texts. What it says about the bytes of the two images: for every global reference that
stands in the plugin there stands a global definition in the host whose name is read as the same text
(`definition_of_passed_check`). For names in UTF-8 this is the same name byte by byte. Names with faulty bytes are
told apart only as far as their readable parts go (`check_confuses_faulty_names`).
-/

namespace FirmwareSymbols

open Elf Text

theorem mem_parseSymbols_iff {image : ByteArray} {path : Path} {symbols : List Symbol}
    (h : parseSymbols image path = .ok symbols) (s : Symbol) :
    s ∈ symbols ↔ ∃ r name, HasRow image r name ∧ r.symbol name = s :=
  mem_parse_iff (parseSymbols_eq_ok_iff.1 h) s

/-- The names that a policy selects are those of the rows that it accepts. -/
theorem mem_names_of_image_iff {image : ByteArray} {path : Path} {symbols : List Symbol}
    (h : parseSymbols image path = .ok symbols) {policy : Policy} {t : String} :
    t ∈ policy.names symbols ↔
      ∃ r name, HasRow image r name ∧ policy.accepts (r.symbol name) = true ∧ decodeLossy name = t := by
  simp only [Policy.mem_names_iff, mem_parseSymbols_iff h]
  constructor
  · rintro ⟨_, ⟨r, name, hrow, rfl⟩, haccepts, rfl⟩
    exact ⟨r, name, hrow, haccepts, rfl⟩
  · rintro ⟨r, name, hrow, haccepts, rfl⟩
    exact ⟨_, ⟨r, name, hrow, rfl⟩, haccepts, rfl⟩

/-- If a plugin passes the check against a host, then each named global reference that stands in the image of the
plugin has a global, typed, visible definition in the image of the host whose name is read as the same text. It is the
same name byte by byte if the reference has a name in UTF-8 without the replacement character. -/
theorem definition_of_passed_check {plugin host : ByteArray} {pluginPath hostPath : Path}
    {references definitions : List Symbol} {demangle : Demangler}
    (hplugin : parseSymbols plugin pluginPath = .ok references) (hhost : parseSymbols host hostPath = .ok definitions)
    (hpass : (check (Policy.required.names references) (Policy.provided.names definitions) demangle).isSuccess = true)
    {r : Row} {name : List UInt8} (hrow : HasRow plugin r name) (hglobal : r.IsGlobal) (hundefined : r.IsUndefined)
    (hname : name ≠ []) :
    ∃ d name', HasRow host d name' ∧ d.IsGlobal ∧ d.IsTyped ∧ d.IsVisible ∧ ¬ d.IsUndefined ∧
      decodeLossy name' = decodeLossy name ∧
      ∀ t : String, replacement ∉ t.toList → name = utf8Bytes t → name' = name := by
  have hrequired : decodeLossy name ∈ Policy.required.names references :=
    (mem_names_of_image_iff hplugin).2
      ⟨r, name, hrow, (required_accepts_symbol_iff hrow).2 ⟨hname, hglobal, hundefined⟩, rfl⟩
  obtain ⟨d, name', hdrow, haccepts, htext⟩ :=
    (mem_names_of_image_iff hhost).1 (check_isSuccess_iff.1 hpass _ hrequired)
  obtain ⟨-, hdglobal, htyped, hdefined, hvisible⟩ := (provided_accepts_symbol_iff hdrow).1 haccepts
  refine ⟨d, name', hdrow, hdglobal, htyped, hvisible, hdefined, htext, ?_⟩
  rintro t hclean rfl
  rw [decodeLossy_utf8Bytes] at htext
  exact (decodeLossy_eq_iff hclean).1 htext

/-! ### Two images -/

theorem hasRow_imageOfRows_iff {rows : List SymbolRow} (h : FitsClass .w32 rows) {r : Row} {name : List UInt8} :
    HasRow (imageOfRows rows) r name ↔ ∃ p ∈ place 1 rows, p.2.row p.1 = r ∧ p.2.name = name := by
  have himage : (assembledLayout .w32 rows).IsImage .w32 .little (imageOfRows rows).data.toList :=
    assembledLayout_isImage h .little
  exact himage.hasRow_iff

private theorem nul_not_mem_draw : (0 : UInt8) ∉ [0x64, 0x72, 0x61, 0x77] := by decide

private theorem nul_not_mem_faulty : (0 : UInt8) ∉ [0x62, 0xff] := by decide

/-- The plugin refers to `draw`, and to a name with a faulty byte. -/
def faultyPlugin : List SymbolRow :=
  [referenceRow [0x64, 0x72, 0x61, 0x77] nul_not_mem_draw, referenceRow [0x62, 0xff] nul_not_mem_faulty]

/-- The host defines `draw`, and a name that is faulty in another way. -/
def faultyHost : List SymbolRow :=
  [functionRow [0x62, 0xfe] (by decide), functionRow [0x64, 0x72, 0x61, 0x77] nul_not_mem_draw]

theorem fits_faultyPlugin : FitsClass .w32 faultyPlugin := by decide

theorem fits_faultyHost : FitsClass .w32 faultyHost := by decide

theorem symbols_faultyPlugin : faultyPlugin.map SymbolRow.symbol =
    [⟨"draw", .global, .noType, .undefined, .default, 0⟩, ⟨"b\ufffd", .global, .noType, .undefined, .default, 0⟩] := by
  decide +kernel

theorem symbols_faultyHost : faultyHost.map SymbolRow.symbol =
    [⟨"b\ufffd", .global, .func, .index 1, .default, 0x8000⟩, ⟨"draw", .global, .func, .index 1, .default, 0x8000⟩] := by
  decide +kernel

theorem faultyPlugin_passes : (check (Policy.required.names (faultyPlugin.map SymbolRow.symbol))
    (Policy.provided.names (faultyHost.map SymbolRow.symbol)) .never).isSuccess = true := by
  rw [symbols_faultyPlugin, symbols_faultyHost]
  decide

theorem draw_defined_byte_by_byte :
    parseSymbols (imageOfRows faultyPlugin) ⟨"plugin.o"⟩ = .ok (faultyPlugin.map SymbolRow.symbol) ∧
      parseSymbols (imageOfRows faultyHost) ⟨"host.o"⟩ = .ok (faultyHost.map SymbolRow.symbol) ∧
      (check (Policy.required.names (faultyPlugin.map SymbolRow.symbol))
        (Policy.provided.names (faultyHost.map SymbolRow.symbol)) .never).isSuccess = true ∧
      (∃ r, HasRow (imageOfRows faultyPlugin) r [0x64, 0x72, 0x61, 0x77] ∧ r.IsGlobal ∧ r.IsUndefined) ∧
      ∃ d, HasRow (imageOfRows faultyHost) d [0x64, 0x72, 0x61, 0x77] ∧ d.IsGlobal ∧ d.IsTyped ∧ d.IsVisible ∧
        ¬ d.IsUndefined := by
  have hplugin := parseSymbols_imageOfRows fits_faultyPlugin ⟨"plugin.o"⟩
  have hhost := parseSymbols_imageOfRows fits_faultyHost ⟨"host.o"⟩
  have hrow : HasRow (imageOfRows faultyPlugin) ⟨1, 16, 0, 0, 0⟩ [0x64, 0x72, 0x61, 0x77] :=
    (hasRow_imageOfRows_iff fits_faultyPlugin).2 ⟨(1, referenceRow [0x64, 0x72, 0x61, 0x77] nul_not_mem_draw),
      by simp [faultyPlugin, place], rfl, rfl⟩
  have hutf8 : [0x64, 0x72, 0x61, 0x77] = utf8Bytes "draw" := by decide
  obtain ⟨d, name, hd, hglobal, htyped, hvisible, hdefined, -, hbytes⟩ :=
    definition_of_passed_check hplugin hhost faultyPlugin_passes hrow rfl rfl (by decide)
  obtain rfl := hbytes "draw" (by decide) hutf8
  exact ⟨hplugin, hhost, faultyPlugin_passes, ⟨_, hrow, rfl, rfl⟩, d, hd, hglobal, htyped, hvisible, hdefined⟩

/-- The check passes although the host has no row at all with the second name of the plugin. -/
theorem check_confuses_faulty_names :
    parseSymbols (imageOfRows faultyPlugin) ⟨"plugin.o"⟩ = .ok (faultyPlugin.map SymbolRow.symbol) ∧
      parseSymbols (imageOfRows faultyHost) ⟨"host.o"⟩ = .ok (faultyHost.map SymbolRow.symbol) ∧
      (check (Policy.required.names (faultyPlugin.map SymbolRow.symbol))
        (Policy.provided.names (faultyHost.map SymbolRow.symbol)) .never).isSuccess = true ∧
      (∃ r, HasRow (imageOfRows faultyPlugin) r [0x62, 0xff] ∧ r.IsGlobal ∧ r.IsUndefined) ∧
      ¬ ∃ d, HasRow (imageOfRows faultyHost) d [0x62, 0xff] := by
  have hrow : HasRow (imageOfRows faultyPlugin) ⟨6, 16, 0, 0, 0⟩ [0x62, 0xff] :=
    (hasRow_imageOfRows_iff fits_faultyPlugin).2 ⟨(6, referenceRow [0x62, 0xff] (by decide)),
      by simp [faultyPlugin, place, referenceRow], rfl, rfl⟩
  have hnone : ¬ ∃ d, HasRow (imageOfRows faultyHost) d [0x62, 0xff] := by
    rintro ⟨d, hd⟩
    obtain ⟨p, hp, -, hname⟩ := (hasRow_imageOfRows_iff fits_faultyHost).1 hd
    simp only [faultyHost, place, functionRow, List.mem_cons, List.not_mem_nil, or_false] at hp
    rcases hp with rfl | rfl <;> simp at hname
  exact ⟨parseSymbols_imageOfRows fits_faultyPlugin _, parseSymbols_imageOfRows fits_faultyHost _, faultyPlugin_passes,
    ⟨_, hrow, rfl, rfl⟩, hnone⟩

end FirmwareSymbols
