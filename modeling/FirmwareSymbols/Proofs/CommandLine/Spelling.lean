import FirmwareSymbols.Proofs.CommandLine.Requests
import FirmwareSymbols.Proofs.Path
import Mathlib.Data.List.TakeWhile

/-!
# Arguments for requests

Requests are spelled by a command and items after it, each an option with its value after an equals sign. Accepted
items are read one after another and collected in their order (`readOptions_items`), so that the values of an option
are those of its items (`values_given`). So whatever paths are wanted, arguments can ask for them, as long as none of
them is empty (`FindRequest.requests_arguments`, `CheckRequest.requests_arguments`,
`DumpRequest.requests_arguments`).
-/

namespace FirmwareSymbols.CommandLine

/-! ### Items -/

/-- An option with the value that is given to it. -/
structure Item where
  option : Opt
  value? : Option String

namespace Item

/-- The option and its value in one argument. -/
def text (i : Item) : String := i.value?.elim i.option.name fun value => i.option.name ++ "=" ++ value

def values (i : Item) : List String := i.value?.elim [] (valuesIn i.option)

/-- The command has the option and takes the value. -/
structure IsAccepted (c : CommandName) (i : Item) : Prop where
  mem : i.option ∈ c.options
  takesValue : i.option.takesValue = i.value?.isSome
  accepted : ∀ value ∈ i.values, refusal? i.option value = none

end Item

section

variable {c : CommandName} {o : Opt} {i : Item} {items : List Item} {g : Given} {name : String} {values : List String}

private theorem find?_option (ho : o ∈ c.options) : c.spec.find? o.name = some o := by
  revert o
  cases c <;> decide

private theorem option_ext {o' : Opt} (ho : o ∈ c.options) (ho' : o' ∈ c.options) (h : o.name = o'.name) : o = o' := by
  have := find?_option ho
  rw [h, find?_option ho'] at this
  exact (Option.some.inj this).symm

/-- What follows the dashes of an option. -/
private def bareName (o : Opt) : List Char := o.name.toList.drop 2

private theorem name_option (ho : o ∈ c.options) :
    o.name.toList = '-' :: '-' :: bareName o ∧ bareName o ≠ [] ∧ '=' ∉ bareName o ∧ o.name ≠ helpOption.name := by
  revert o
  cases c <;> decide

private theorem name_eq (ho : o ∈ c.options) : "--" ++ String.ofList (bareName o) = o.name := by
  rw [← String.toList_inj, (name_option ho).1]
  simp

/-! ### Reading one item -/

/-- A complete option is taken with its value if it may be given and the value is not refused. -/
private theorem accept_item (hi : i.IsAccepted c) (hnew : g.has i.option = true → i.option.isRepeatable = true) :
    Reading.accept { given := g } c.spec i.option i.value? = .ok { given := g.add i.option i.values } := by
  obtain ⟨o, value?⟩ := i
  have hhelp := (name_option hi.mem).2.2.2
  have htakes := hi.takesValue
  have hrepeat : ¬ (g.has o && !o.isRepeatable) = true := by simpa using hnew
  have haccepted : (value?.elim [] (valuesIn o)).findSome? (refusal? o) = none :=
    List.findSome?_eq_none_iff.2 hi.accepted
  unfold Reading.accept Reading.afterSettling Reading.settle
  dsimp only at hhelp htakes ⊢
  rw [if_neg hhelp]
  cases value? with
  | none =>
    dsimp only [Option.isSome_none] at htakes
    simp only [Reading.take, htakes, if_neg hrepeat, haccepted]
    rfl
  | some value =>
    simp only [Reading.take, if_neg hrepeat, haccepted]
    rfl

/-- An argument that begins with two dashes and goes on is read as an option up to an equals sign. -/
private theorem readArgument_long {spec : Spec} {argument : String} {body : List Char}
    (hargument : argument.toList = '-' :: '-' :: body) (hbody : body ≠ []) (rest : List String) :
    Reading.readArgument { given := g } spec argument rest =
      Reading.readLong { given := g } spec (String.ofList (body.takeWhile (· ≠ '=')))
        ((body.dropWhile (· ≠ '=')).tail?.map String.ofList) rest := by
  obtain ⟨first, more, rfl⟩ := List.exists_cons_of_ne_nil hbody
  unfold Reading.readArgument
  simp only [Bool.false_eq_true, if_false, hargument]

/-- The argument of an item is read as its option with its value. -/
private theorem readArgument_item (hi : i.IsAccepted c) (hnew : g.has i.option = true → i.option.isRepeatable = true)
    (rest : List String) :
    Reading.readArgument { given := g } c.spec i.text rest = .ok { given := g.add i.option i.values } := by
  obtain ⟨hname, hne, heq, -⟩ := name_option hi.mem
  have hplain : ∀ ch ∈ bareName i.option, (decide (ch ≠ '=')) = true := by
    intro ch hch
    rw [decide_eq_true_eq]
    rintro rfl
    exact heq hch
  have htakes := hi.takesValue
  rw [← accept_item hi hnew]
  cases hvalue : i.value? with
  | none =>
    have htext : i.text.toList = '-' :: '-' :: bareName i.option := by simp [Item.text, hvalue, hname]
    rw [hvalue, Option.isSome_none] at htakes
    rw [readArgument_long htext hne, List.takeWhile_eq_self_iff.2 hplain, List.dropWhile_eq_nil_iff.2 hplain,
      Reading.readLong, name_eq hi.mem, find?_option hi.mem]
    simp [htakes]
  | some value =>
    have htext : i.text.toList = '-' :: '-' :: (bareName i.option ++ '=' :: value.toList) := by
      simp [Item.text, hvalue, hname]
    rw [hvalue, Option.isSome_some] at htakes
    rw [readArgument_long htext (by simp), List.takeWhile_append_of_pos hplain, List.dropWhile_append_of_pos hplain,
      Reading.readLong]
    simp [name_eq hi.mem, find?_option hi.mem, htakes]

/-! ### What items give -/

private theorem has_eq_true_iff : g.has o = true ↔ o ∈ g.options := by
  rw [Given.has, List.contains_iff_mem]

/-- The given options with new values for one of them. -/
private def extend (o : Opt) (values : List String) (p : Opt × List String) : Opt × List String :=
  if p.1 = o then (p.1, p.2 ++ values) else (p.1, p.2)

private theorem fst_extend (p : Opt × List String) : (extend o values p).1 = p.1 := by
  unfold extend
  split <;> rfl

private theorem add_eq : g.add o values = if g.has o then g.map (extend o values) else g ++ [(o, values)] := rfl

private theorem options_add : (g.add o values).options = if g.has o then g.options else g.options ++ [o] := by
  rw [add_eq]
  split
  · rw [Given.options, List.map_map, funext (f := Prod.fst ∘ extend o values) fst_extend]
    rfl
  · simp [Given.options]

private theorem has_add {o' : Opt} : (g.add o values).has o' = true ↔ g.has o' = true ∨ o' = o := by
  rw [has_eq_true_iff, has_eq_true_iff, options_add]
  by_cases hhas : g.has o = true
  · rw [if_pos hhas]
    constructor
    · exact .inl
    · rintro (hmem | rfl)
      · exact hmem
      · exact has_eq_true_iff.1 hhas
  · simp [hhas]

/-- The values of an option are those that were given before, and then the new ones if they are given to it. -/
private theorem values_add (hg : ∀ o' ∈ g.options, o' ∈ c.options) (ho : o ∈ c.options) :
    (g.add o values).values name = g.values name ++ if o.name = name then values else [] := by
  -- the lookup goes by name, and a command has one option of each name
  have hsame : ∀ q ∈ g, o.name = name → q.1.name = name → q.1 = o := fun q hq hname hq' =>
    option_ext (hg q.1 (List.mem_map_of_mem hq)) ho (hq'.trans hname.symm)
  unfold Given.values
  rw [add_eq]
  by_cases hhas : g.has o = true
  · have hcomp : (fun q : Opt × List String => decide (q.1.name = name)) ∘ extend o values =
        fun q => decide (q.1.name = name) := by
      funext q
      rw [Function.comp_apply, fst_extend]
    rw [if_pos hhas, List.find?_map, hcomp]
    cases hfind : g.find? fun q => decide (q.1.name = name) with
    | none =>
      obtain ⟨q, hq, rfl⟩ := List.mem_map.1 (has_eq_true_iff.1 hhas)
      have hname : ¬ q.1.name = name := by simpa using List.find?_eq_none.1 hfind q hq
      simp [hname]
    | some q =>
      have hname : q.1.name = name := by simpa using List.find?_some hfind
      by_cases hoption : o.name = name
      · have := hsame q (List.mem_of_find?_eq_some hfind) hoption hname
        simp [extend, this, hoption]
      · have hne : q.1 ≠ o := by
          rintro rfl
          exact hoption hname
        simp [extend, hne, hoption]
  · rw [if_neg hhas, List.find?_append]
    cases hfind : g.find? fun q => decide (q.1.name = name) with
    | none => by_cases hoption : o.name = name <;> simp [hoption]
    | some q =>
      have hname : q.1.name = name := by simpa using List.find?_some hfind
      have hq := List.mem_of_find?_eq_some hfind
      have hoption : ¬ o.name = name := by
        intro hoption
        have := hsame q hq hoption hname
        exact hhas (has_eq_true_iff.2 (List.mem_map.2 ⟨q, hq, this⟩))
      simp [hoption]

private theorem hasName_eq_true_iff : g.hasName name = true ↔ ∃ o ∈ g.options, o.name = name := by
  simp [Given.hasName, Given.options]

/-- The default counts only for an option that was not given. -/
private theorem values_default (h : g.hasName name = true) (default : List String) :
    g.values name default = g.values name := by
  unfold Given.values
  cases hfind : g.find? fun q => decide (q.1.name = name) with
  | some q => rfl
  | none =>
    obtain ⟨o, ho, hname⟩ := hasName_eq_true_iff.1 h
    obtain ⟨q, hq, rfl⟩ := List.mem_map.1 ho
    have := List.find?_eq_none.1 hfind q hq
    simp [hname] at this

/-- What is given by the items of a call. -/
def given (items : List Item) : Given := items.foldl (fun g i => g.add i.option i.values) []

private theorem has_foldl : (items.foldl (fun g i => g.add i.option i.values) g).has o = true ↔
    g.has o = true ∨ ∃ i ∈ items, i.option = o := by
  induction items generalizing g with
  | nil => simp
  | cons i items ih =>
    rw [List.foldl_cons, ih, has_add, or_assoc, List.exists_mem_cons_iff, eq_comm (a := o)]

private theorem has_given : (given items).has o = true ↔ ∃ i ∈ items, i.option = o := by
  rw [given, has_foldl]
  simp [Given.has, Given.options]

private theorem hasName_given : (given items).hasName name = true ↔ ∃ i ∈ items, i.option.name = name := by
  rw [hasName_eq_true_iff]
  simp only [← has_eq_true_iff, has_given]
  constructor
  · rintro ⟨o, ⟨i, hi, rfl⟩, hname⟩
    exact ⟨i, hi, hname⟩
  · rintro ⟨i, hi, hname⟩
    exact ⟨_, ⟨i, hi, rfl⟩, hname⟩

/-- The values that items give to the option with this name, in their order. -/
def valuesFor (items : List Item) (name : String) : List String :=
  items.flatMap fun i => if i.option.name = name then i.values else []

private theorem values_foldl (hg : ∀ o ∈ g.options, o ∈ c.options) (hitems : ∀ i ∈ items, i.option ∈ c.options) :
    (items.foldl (fun g i => g.add i.option i.values) g).values name = g.values name ++ valuesFor items name := by
  induction items generalizing g with
  | nil => simp [valuesFor]
  | cons i items ih =>
    obtain ⟨hi, hitems⟩ := List.forall_mem_cons.1 hitems
    have hadd : ∀ o ∈ (g.add i.option i.values).options, o ∈ c.options := by
      intro o ho
      rw [← has_eq_true_iff, has_add] at ho
      rcases ho with ho | rfl
      · exact hg o (has_eq_true_iff.1 ho)
      · exact hi
    rw [List.foldl_cons, ih hadd hitems, values_add hg hi, List.append_assoc]
    rfl

/-- The values of an option are those of its items. -/
private theorem values_given (hitems : ∀ i ∈ items, i.option ∈ c.options) (name : String) :
    (given items).values name = valuesFor items name :=
  values_foldl nofun hitems

/-! ### Reading all items -/

/-- Accepted items are read one after another, if none is repeated that must not be. -/
private theorem readOptions_items (haccepted : ∀ i ∈ items, i.IsAccepted c)
    (hdistinct : items.Pairwise fun i j => i.option = j.option → i.option.isRepeatable = true)
    (hnew : ∀ i ∈ items, g.has i.option = true → i.option.isRepeatable = true) :
    readOptions c.spec { given := g } (items.map Item.text) =
      .ok { given := items.foldl (fun g i => g.add i.option i.values) g } := by
  induction items generalizing g with
  | nil => rfl
  | cons i items ih =>
    obtain ⟨hi, haccepted⟩ := List.forall_mem_cons.1 haccepted
    obtain ⟨hnewi, hnew⟩ := List.forall_mem_cons.1 hnew
    obtain ⟨hdistincti, hdistinct⟩ := List.pairwise_cons.1 hdistinct
    rw [List.map_cons, readOptions, readArgument_item hi hnewi]
    -- an option that is given by now was given before, or is that of this item
    refine ih haccepted hdistinct fun j hj hhas => ?_
    rcases has_add.1 hhas with hhas | heq
    · exact hnew j hj hhas
    · rw [heq]
      exact hdistincti j hj heq.symm

/-- A command with accepted items, the required ones among them, is read as a call with these items. -/
theorem ofArguments_items (haccepted : ∀ i ∈ items, i.IsAccepted c)
    (hdistinct : items.Pairwise fun i j => i.option = j.option → i.option.isRepeatable = true)
    (hrequired : ∀ o ∈ c.spec.required, ∃ i ∈ items, i.option = o) :
    Call.ofArguments (c.text :: items.map Item.text) = .ok ⟨c, given items, (given items).has verbose⟩ := by
  have hread : readOptions c.spec {} (items.map Item.text) = .ok { given := given items } :=
    readOptions_items haccepted hdistinct nofun
  have hmissing : c.spec.required.filter (fun o => !(given items).has o) = [] := by
    rw [List.filter_eq_nil_iff]
    intro o ho
    simpa using has_given.2 (hrequired o ho)
  have hoptions : commandOptions c.spec (items.map Item.text) = .ok (given items) := by
    rw [commandOptions, hread]
    show (if _ then Except.ok (given items) else _) = _
    rw [hmissing]
    rfl
  have hcommand : CommandName.ofText? c.text = some c := by cases c <;> decide
  have hword : c.text ≠ helpWord := by cases c <;> decide
  rw [Call.ofArguments, readProgram]
  simp only [hword, hcommand, hoptions, bind, Except.bind, Bool.false_eq_true, decide_false, Bool.and_false, if_false]
  rfl

end

/-! ### Items of a command -/

/-- The option of a command with this name. -/
def CommandName.option (c : CommandName) (name : String) : Opt := (c.spec.find? name).getD helpOption

section

variable {c : CommandName} {items : List Item} {name value : String}

private theorem name_option_eq (h : (c.spec.find? name).isSome = true) : (c.option name).name = name := by
  obtain ⟨o, ho⟩ := Option.isSome_iff_exists.1 h
  rw [CommandName.option, ho]
  simpa using List.find?_some ho

/-- A value without a comma is one value. -/
private theorem values_of_no_comma (o : Opt) (h : ',' ∉ value.toList) : (⟨o, value⟩ : Item).values = [value] := by
  show valuesIn o value = [value]
  unfold valuesIn
  split
  · simp [Text.splitText, Text.splitAt_of_not_mem h]
  · rfl

/-- A value is not divided by an option that is given once. -/
private theorem values_of_not_repeatable {o : Opt} (h : o.isRepeatable = false) :
    (⟨o, value⟩ : Item).values = [value] := by
  show valuesIn o value = [value]
  rw [valuesIn, h, if_neg Bool.false_ne_true]

private theorem isAccepted_path (hmem : c.option name ∈ c.options) (htakes : (c.option name).takes = .path)
    (hvalue : value ≠ "") : Item.IsAccepted c ⟨c.option name, value⟩ where
  mem := hmem
  takesValue := by simp [Opt.takesValue, htakes]
  accepted := by
    rw [values_of_not_repeatable (by simp [Opt.isRepeatable, htakes])]
    simp [refusal?, htakes, hvalue]

private theorem isAccepted_paths (hmem : c.option name ∈ c.options) (htakes : (c.option name).takes = .paths)
    (hvalue : value ≠ "" ∧ ',' ∉ value.toList) : Item.IsAccepted c ⟨c.option name, value⟩ where
  mem := hmem
  takesValue := by simp [Opt.takesValue, htakes]
  accepted := by
    rw [values_of_no_comma _ hvalue.2]
    simp [refusal?, htakes, hvalue.1]

private theorem isAccepted_texts (hmem : c.option name ∈ c.options) (htakes : (c.option name).takes = .texts) :
    Item.IsAccepted c ⟨c.option name, value⟩ where
  mem := hmem
  takesValue := by simp [Opt.takesValue, htakes]
  accepted := by simp [refusal?, htakes]

private theorem isAccepted_flag (hmem : c.option name ∈ c.options) (htakes : (c.option name).takes = .nothing) :
    Item.IsAccepted c ⟨c.option name, none⟩ where
  mem := hmem
  takesValue := by simp [Opt.takesValue, htakes]
  accepted := nofun

private theorem valuesFor_append (items more : List Item) (name : String) :
    valuesFor (items ++ more) name = valuesFor items name ++ valuesFor more name :=
  List.flatMap_append

/-- Items of one option that are not divided give their values. -/
private theorem valuesFor_map {α : Type} {l : List α} {o : Opt} {f : α → String}
    (h : ∀ a ∈ l, (⟨o, f a⟩ : Item).values = [f a]) :
    valuesFor (l.map fun a => ⟨o, f a⟩) name = if o.name = name then l.map f else [] := by
  rw [valuesFor, List.flatMap_map]
  split
  · rw [List.map_eq_flatMap]
    exact List.flatMap_congr h
  · simp

private theorem path_given {p : Path} (haccepted : ∀ i ∈ items, i.IsAccepted c) (h : valuesFor items name = [p.text]) :
    (given items).path name = p := by
  rw [Given.path, Given.value?, values_given fun i hi => (haccepted i hi).mem, h]
  rfl

end

/-! ### The arguments of requests -/

namespace FindRequest

def items (r : FindRequest) : List Item :=
  [⟨CommandName.findSymbols.option "--symbols", r.symbols.text⟩,
    ⟨CommandName.findSymbols.option "--elf", r.binary.text⟩, ⟨CommandName.findSymbols.option "--out", r.out.text⟩] ++
    if r.legacyPadding then [⟨CommandName.findSymbols.option "--legacy-padding", none⟩] else []

def arguments (r : FindRequest) : List String := CommandName.findSymbols.text :: r.items.map Item.text

example : arguments ⟨⟨"api.json"⟩, ⟨"main.elf"⟩, ⟨"table.yaml"⟩, true⟩ =
    ["find-symbols", "--symbols=api.json", "--elf=main.elf", "--out=table.yaml", "--legacy-padding"] := by decide

/-- Any paths that are not empty can be asked for. -/
theorem requests_arguments {r : FindRequest} (hsymbols : r.symbols.text ≠ "") (hbinary : r.binary.text ≠ "")
    (hout : r.out.text ≠ "") : Requests r.arguments (.find r) := by
  obtain ⟨symbols, binary, out, legacyPadding⟩ := r
  have haccepted : ∀ i ∈ items ⟨symbols, binary, out, legacyPadding⟩, i.IsAccepted .findSymbols := by
    simp only [items, List.forall_mem_append, List.forall_mem_cons]
    refine ⟨⟨isAccepted_path (by decide) (by decide) hsymbols, isAccepted_path (by decide) (by decide) hbinary,
      isAccepted_path (by decide) (by decide) hout, nofun⟩, ?_⟩
    cases legacyPadding
    · exact nofun
    · exact List.forall_mem_singleton.2 (isAccepted_flag (by decide) (by decide))
  refine ⟨_, ofArguments_items haccepted ?_ ?_, ?_⟩
  · cases legacyPadding <;> simp [items] <;> decide
  · cases legacyPadding <;> simp [items] <;> decide
  · have hflag : (given (items ⟨symbols, binary, out, legacyPadding⟩)).hasName "--legacy-padding" = legacyPadding := by
      rw [Bool.eq_iff_iff, hasName_given]
      cases legacyPadding <;> simp (disch := decide) [items, name_option_eq]
    rw [Call.request]
    dsimp only
    rw [path_given (p := symbols) haccepted, path_given (p := binary) haccepted, path_given (p := out) haccepted, hflag]
    all_goals cases legacyPadding <;>
      simp (disch := decide) [items, valuesFor, name_option_eq, values_of_not_repeatable]

end FindRequest

namespace CheckRequest

def items (r : CheckRequest) : List Item :=
  [⟨CommandName.checkSymbols.option "--plugin", r.plugin.text⟩,
    ⟨CommandName.checkSymbols.option "--api", r.api.text⟩] ++
    if r.rawNames then [⟨CommandName.checkSymbols.option "--no-demangle", none⟩] else []

def arguments (r : CheckRequest) : List String := CommandName.checkSymbols.text :: r.items.map Item.text

/-- Any paths that are not empty can be asked for. -/
theorem requests_arguments {r : CheckRequest} (hplugin : r.plugin.text ≠ "") (hapi : r.api.text ≠ "") :
    Requests r.arguments (.check r) := by
  obtain ⟨plugin, api, rawNames⟩ := r
  have haccepted : ∀ i ∈ items ⟨plugin, api, rawNames⟩, i.IsAccepted .checkSymbols := by
    simp only [items, List.forall_mem_append, List.forall_mem_cons]
    refine ⟨⟨isAccepted_path (by decide) (by decide) hplugin, isAccepted_path (by decide) (by decide) hapi, nofun⟩, ?_⟩
    cases rawNames
    · exact nofun
    · exact List.forall_mem_singleton.2 (isAccepted_flag (by decide) (by decide))
  refine ⟨_, ofArguments_items haccepted ?_ ?_, ?_⟩
  · cases rawNames <;> simp [items] <;> decide
  · cases rawNames <;> simp [items] <;> decide
  · have hflag : (given (items ⟨plugin, api, rawNames⟩)).hasName "--no-demangle" = rawNames := by
      rw [Bool.eq_iff_iff, hasName_given]
      cases rawNames <;> simp (disch := decide) [items, name_option_eq]
    rw [Call.request]
    dsimp only
    rw [path_given (p := plugin) haccepted, path_given (p := api) haccepted, hflag]
    all_goals cases rawNames <;> simp (disch := decide) [items, valuesFor, name_option_eq, values_of_not_repeatable]

end CheckRequest

namespace DumpRequest

/-- The items whose options may be given more than once. -/
def listItems (r : DumpRequest) : List Item :=
  r.directories.map (fun p => Item.mk (CommandName.dumpSymbols.option "--objdir") (some p.text)) ++
    r.files.map (fun p => Item.mk (CommandName.dumpSymbols.option "--objfile") (some p.text)) ++
    r.extensions.map fun extension => Item.mk (CommandName.dumpSymbols.option "--ext") (some extension)

def outputItems (r : DumpRequest) : List Item :=
  r.textOut.toList.map (fun p => Item.mk (CommandName.dumpSymbols.option "--text-out") (some p.text)) ++
    r.jsonOut.toList.map fun p => Item.mk (CommandName.dumpSymbols.option "--json-out") (some p.text)

def items (r : DumpRequest) : List Item := r.listItems ++ r.outputItems

def arguments (r : DumpRequest) : List String := CommandName.dumpSymbols.text :: r.items.map Item.text

/-- There are directories and extensions, no path is empty, and nothing in a list has a comma. -/
structure IsSpellable (r : DumpRequest) : Prop where
  some_directory : r.directories ≠ []
  some_extension : r.extensions ≠ []
  directories : ∀ p ∈ r.directories, p.text ≠ "" ∧ ',' ∉ p.text.toList
  files : ∀ p ∈ r.files, p.text ≠ "" ∧ ',' ∉ p.text.toList
  extensions : ∀ extension ∈ r.extensions, ',' ∉ extension.toList
  textOut : ∀ p ∈ r.textOut, p.text ≠ ""
  jsonOut : ∀ p ∈ r.jsonOut, p.text ≠ ""

private theorem isRepeatable_of_mem_listItems {r : DumpRequest} {i : Item} (h : i ∈ r.listItems) :
    i.option.isRepeatable = true := by
  revert i
  simp only [listItems, List.forall_mem_append, List.forall_mem_map]
  exact ⟨⟨fun _ _ => rfl, fun _ _ => rfl⟩, fun _ _ => rfl⟩

/-- No option is repeated that must not be: the two outputs have different options. -/
private theorem pairwise_items (r : DumpRequest) :
    r.items.Pairwise fun i j => i.option = j.option → i.option.isRepeatable = true := by
  rw [items, List.pairwise_append]
  refine ⟨List.pairwise_of_forall_mem_list fun i hi _ _ _ => isRepeatable_of_mem_listItems hi, ?_,
    fun i hi _ _ _ => isRepeatable_of_mem_listItems hi⟩
  rw [outputItems]
  cases r.textOut <;> cases r.jsonOut <;> simp
  decide

/-- Any request with directories and extensions can be made, if its texts are not divided at commas. -/
theorem requests_arguments {r : DumpRequest} (hr : r.IsSpellable) : Requests r.arguments (.dump r) := by
  have haccepted : ∀ i ∈ r.items, i.IsAccepted .dumpSymbols := by
    simp only [items, listItems, outputItems, List.forall_mem_append, List.forall_mem_map, Option.mem_toList]
    exact ⟨⟨⟨fun p hp => isAccepted_paths (by decide) (by decide) (hr.directories p hp),
      fun p hp => isAccepted_paths (by decide) (by decide) (hr.files p hp)⟩,
      fun _ _ => isAccepted_texts (by decide) (by decide)⟩,
      fun p hp => isAccepted_path (by decide) (by decide) (hr.textOut p hp),
      fun p hp => isAccepted_path (by decide) (by decide) (hr.jsonOut p hp)⟩
  have hvalues (name : String) : (given r.items).values name =
      ((if "--objdir" = name then r.directories.map Path.text else []) ++
        (if "--objfile" = name then r.files.map Path.text else []) ++ if "--ext" = name then r.extensions else []) ++
      ((if "--text-out" = name then r.textOut.toList.map Path.text else []) ++
        if "--json-out" = name then r.jsonOut.toList.map Path.text else []) := by
    rw [values_given fun i hi => (haccepted i hi).mem, items, listItems, outputItems]
    simp only [valuesFor_append]
    rw [valuesFor_map fun p hp => values_of_no_comma _ (hr.directories p hp).2,
      valuesFor_map fun p hp => values_of_no_comma _ (hr.files p hp).2,
      valuesFor_map fun extension he => values_of_no_comma _ (hr.extensions extension he),
      valuesFor_map fun p _ => values_of_not_repeatable (by decide),
      valuesFor_map fun p _ => values_of_not_repeatable (by decide), List.map_id']
    simp (disch := decide) only [name_option_eq]
  refine ⟨_, ofArguments_items haccepted r.pairwise_items ?_, ?_⟩
  · intro o ho
    obtain rfl : o = CommandName.dumpSymbols.option "--objdir" := by
      revert o
      decide
    obtain ⟨p, hp⟩ := List.exists_mem_of_ne_nil _ hr.some_directory
    refine ⟨⟨CommandName.dumpSymbols.option "--objdir", p.text⟩, ?_, rfl⟩
    simp only [items, listItems, List.mem_append]
    exact .inl (.inl (.inl (List.mem_map_of_mem hp)))
  · obtain ⟨extension, hextension⟩ := List.exists_mem_of_ne_nil _ hr.some_extension
    have hext : (given r.items).hasName "--ext" = true := by
      refine hasName_given.2 ⟨⟨CommandName.dumpSymbols.option "--ext", extension⟩, ?_, name_option_eq (by decide)⟩
      simp [items, listItems, hextension]
    have hpaths (l : List Path) : (l.map Path.text).map Path.mk = l := by simp [Function.comp_def]
    have hpath (o : Option Path) : (o.toList.map Path.text).head?.map Path.mk = o := by rcases o with _ | p <;> rfl
    rw [Call.request]
    simp only [Given.paths, Given.path?, Given.value?, values_default hext, hvalues]
    simp [-List.map_map, -Option.map_map, -List.head?_map, hpaths, hpath]

end DumpRequest

end FirmwareSymbols.CommandLine
