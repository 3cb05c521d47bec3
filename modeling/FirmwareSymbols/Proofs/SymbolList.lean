import FirmwareSymbols.Proofs.Json.Writer
import FirmwareSymbols.Proofs.SymbolSet
import FirmwareSymbols.SymbolList

/-!
# Round trips of symbol lists

A set that is written as a JSON list is read back as the same set: the array of its names is read as these names
(`Json.parse?_stringArray`), and the set of the names of a set is that set (`SymbolSet.ofList_names`).
-/

namespace FirmwareSymbols

namespace SymbolSet

private theorem mapM_stringText? (texts : List (List Char)) :
    (texts.map Json.Value.string).mapM stringText? = some (texts.map String.ofList) := by
  induction texts with
  | nil => rfl
  | cons text texts ih => simp [stringText?, ih]

/-- Reading the JSON form of a set gives the set. -/
theorem ofJson?_toJson (s : SymbolSet) : ofJson? s.toJson = some s := by
  have hnames : (s.names.map String.toList).map String.ofList = s.names := by
    simp [List.map_map, Function.comp_def]
  rw [ofJson?, toJson, String.toList_ofList, Json.parse?_stringArray]
  show (do return ofList (← ((s.names.map String.toList).map Json.Value.string).mapM stringText?)) = some s
  rw [mapM_stringText?, hnames]
  exact congrArg some (ofList_names s)

end SymbolSet

/-- A list that was written as JSON is read back without loss, whatever the names. -/
theorem parseSymbolList_render_json (s : SymbolSet) (path : Path) :
    parseSymbolList (s.render .json) .json path = .ok s := by
  simp only [parseSymbolList, SymbolSet.render, SymbolSet.ofJson?_toJson]

end FirmwareSymbols
