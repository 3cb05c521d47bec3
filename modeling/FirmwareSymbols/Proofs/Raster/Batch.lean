import FirmwareSymbols.Proofs.Raster.Drawings
import FirmwareSymbols.Proofs.Raster.Watch

/-!
# Batches of drawings

Each conversion of a batch finds the files that the one before has left, and has a result: the exported file or an error
(`Converts`). A batch has all its results unless a conversion comes to no end (`exists_converts_iff`). The results are
kept in the order of the drawings, the exported files and the errors apart, so a failure takes nothing from the others
(`gathers_of_converts`). As the drawings of a directory are exported apart from each other and from themselves, none of
them is lost in a batch (`collected_batch_keeps_drawings`).
-/

namespace FirmwareSymbols.Raster

open FileSystem

/-- The attempt that has this result. -/
def Attempt.of : Except ToolError Path → Attempt
  | .ok png => .converted png
  | .error e => .failed e

def failure? : Except ToolError Path → Option ToolError
  | .ok _ => none
  | .error e => some e

/-- The conversions of the drawings have these results, one after another, and leave these files. -/
inductive Converts (r : Rasterizer) (launcher : Launcher) (out : Path) (job : Job) :
    FileSystem → List Path → List (Except ToolError Path) → FileSystem → Prop
  | done {fs : FileSystem} : Converts r launcher out job fs [] [] fs
  | next {fs last : FileSystem} {svg : Path} {rest : List Path} {result : Except ToolError Path}
      {results : List (Except ToolError Path)} :
      (r.convert launcher fs svg out job).attempt = .of result →
      Converts r launcher out job (r.convert launcher fs svg out job).files rest results last →
      Converts r launcher out job fs (svg :: rest) (result :: results) last

/-- What a batch has of the results of its conversions. -/
structure Gathers (out : Path) (inputs : List Path) (results : List (Except ToolError Path)) (batch : Batch) : Prop where
  length_results : results.length = inputs.length
  length_add : batch.converted.length + batch.failures.length = inputs.length
  converted : batch.converted = results.filterMap Except.toOption
  failures : batch.failures = results.filterMap failure?
  exported : batch.converted.Sublist (inputs.map fun svg => pngPath svg out)

variable {r : Rasterizer} {launcher : Launcher} {fs last : FileSystem} {svg png out input : Path} {job : Job}
  {inputs : List Path} {result : Except ToolError Path} {results : List (Except ToolError Path)} {l : Location}

/-! ### One conversion -/

theorem attempt_ne_aborted_iff {attempt : Attempt} : attempt ≠ .aborted ↔ ∃ result, attempt = .of result := by
  cases attempt with
  | converted png => exact iff_of_true nofun ⟨.ok png, rfl⟩
  | failed e => exact iff_of_true nofun ⟨.error e, rfl⟩
  | aborted =>
    refine iff_of_false (fun h => h rfl) ?_
    rintro ⟨result, h⟩
    cases result <;> cases h

theorem Rasterizer.eq_of_judge {target : Path} {verdict : Option Verdict} (h : r.judge target verdict = .converted png) :
    png = target := by
  unfold judge failure at h
  split at h
  · split at h <;> cases h
    rfl
  all_goals cases h

/-- What a conversion exports is the file with the stem of the drawing. -/
theorem Rasterizer.eq_pngPath_of_converted (h : (r.convert launcher fs svg out job).attempt = .converted png) :
    png = pngPath svg out := by
  unfold convert run at h
  split at h
  · cases h
  · simp only at h
    split at h
    · cases h
    split at h
    · cases h
    · exact eq_of_judge h

/-! ### Many conversions -/

theorem convertEach_cons_of_result (h : (r.convert launcher fs svg out job).attempt = .of result) (rest : List Path) :
    let outcome := r.convert launcher fs svg out job
    let later := convertEach r launcher out job outcome.files rest
    convertEach r launcher out job fs (svg :: rest) =
      (⟨svg, outcome.attempt, outcome.messages⟩ :: later.1, later.2) := by
  have hend : (r.convert launcher fs svg out job).attempt ≠ .aborted := attempt_ne_aborted_iff.2 ⟨result, h⟩
  intro outcome later
  rw [convertEach]
  exact if_neg hend

namespace Converts

variable (h : Converts r launcher out job fs inputs results last)

include h

theorem length_results : results.length = inputs.length := by
  induction h with
  | done => rfl
  | next _ _ ih => rw [List.length_cons, List.length_cons, ih]

/-- The items of the drawings have the results of the conversions. -/
theorem convertEach_eq : ∃ items, convertEach r launcher out job fs inputs = (items, last) ∧
    Batch.ofItems items = ⟨results.filterMap Except.toOption, results.filterMap failure?⟩ := by
  induction h with
  | done => exact ⟨[], rfl, rfl⟩
  | @next fs last svg rest result results hresult _ ih =>
    obtain ⟨items, hitems, hbatch⟩ := ih
    obtain ⟨hconverted, hfailures⟩ := Batch.mk.inj hbatch
    -- the first conversion has a result, so the others are done as well
    refine ⟨_, by rw [convertEach_cons_of_result hresult, hitems], ?_⟩
    rw [hresult]
    cases result <;>
      simp [Batch.ofItems, List.filterMap_cons, Attempt.of, Item.png?, Item.error?, Except.toOption, failure?, hconverted,
        hfailures]

/-- A drawing is exported to the file with its stem or not at all. -/
theorem exported_sublist : (results.filterMap Except.toOption).Sublist (inputs.map fun svg => pngPath svg out) := by
  induction h with
  | done => exact .slnil
  | @next _ _ svg rest result results hresult _ ih =>
    cases result with
    | error e => exact ih.cons _
    | ok png =>
      obtain rfl := Rasterizer.eq_pngPath_of_converted hresult
      exact ih.cons_cons _

end Converts

/-- Each result is either an exported file or an error. -/
theorem length_filterMap_add (results : List (Except ToolError Path)) :
    (results.filterMap Except.toOption).length + (results.filterMap failure?).length = results.length := by
  induction results with
  | nil => rfl
  | cons result results ih =>
    cases result <;> simp only [List.filterMap_cons, Except.toOption, failure?, List.length_cons] <;> omega

/-- A batch has one result for each drawing, in order. -/
theorem gathers_of_converts (h : Converts r launcher out job fs inputs results last) :
    (convertAll r launcher fs inputs out job).2 = last ∧
      Gathers out inputs results (convertAll r launcher fs inputs out job).1.result := by
  obtain ⟨items, hitems, hbatch⟩ := h.convertEach_eq
  have hresult : (convertAll r launcher fs inputs out job).1.result = Batch.ofItems items := by
    rw [convertAll, hitems]
    rfl
  have hfiles : (convertAll r launcher fs inputs out job).2 = last := by
    rw [convertAll, hitems]
  have hcount := (length_filterMap_add results).trans h.length_results
  rw [hresult, hbatch]
  exact ⟨hfiles, h.length_results, hcount, rfl, rfl, h.exported_sublist⟩

/-- The conversions have results unless one of them comes to no end. -/
theorem exists_converts_iff : (∃ results last, Converts r launcher out job fs inputs results last) ↔
    ∀ item ∈ (convertEach r launcher out job fs inputs).1, item.attempt ≠ .aborted := by
  induction inputs generalizing fs with
  | nil => exact iff_of_true ⟨[], fs, .done⟩ (by simp [convertEach])
  | cons svg rest ih =>
    by_cases hend : (r.convert launcher fs svg out job).attempt = .aborted
    · refine iff_of_false ?_ fun h => ?_
      · rintro ⟨_, _, hconverts⟩
        cases hconverts with
        | next hresult _ => exact attempt_ne_aborted_iff.2 ⟨_, hresult⟩ hend
      · rw [convertEach, if_pos hend] at h
        exact h _ (.head _) hend
    · obtain ⟨result, hresult⟩ := attempt_ne_aborted_iff.1 hend
      rw [convertEach_cons_of_result hresult, List.forall_mem_cons, ← ih]
      constructor
      · rintro ⟨_, _, hconverts⟩
        cases hconverts with
        | next _ hrest => exact ⟨hend, _, _, hrest⟩
      · rintro ⟨-, _, _, hrest⟩
        exact ⟨_, _, .next hresult hrest⟩

/-! ### Batches of collected drawings -/

/-- The drawings of a readable directory are collected, each once and in order. In whatever directory they are exported
to, they are kept apart from each other and from what was collected. And unless a conversion comes to no end, a batch has
one result for each drawing that it is given: the exported files and the errors, both in order. -/
theorem collected_batch_keeps_drawings (fs : FileSystem) (input : Path) (l : Location) (hwf : fs.WellFormed)
    (hinput : fs.stat input = .ok (l, .directory)) (hreadable : fs.IsReadable l) :
    ∃ svgs, collectDrawings fs input = .ok svgs ∧ ListsDrawings fs input l svgs ∧ ∀ out,
      ExportsApart out svgs ∧ ∀ r launcher job files inputs,
        ((∃ results last, Converts r launcher out job files inputs results last) ↔
          ∀ item ∈ (convertEach r launcher out job files inputs).1, item.attempt ≠ .aborted) ∧
        ∀ results last, Converts r launcher out job files inputs results last →
          (convertAll r launcher files inputs out job).2 = last ∧
            Gathers out inputs results (convertAll r launcher files inputs out job).1.result := by
  obtain ⟨svgs, hcollect, hlists⟩ := collectDrawings_of_directory hwf hinput hreadable
  have hne := text_ne_of_locate (stat_eq_ok_iff.1 hinput).1
  refine ⟨svgs, hcollect, hlists, fun out => ⟨exportsApart hwf hne hlists out, ?_⟩⟩
  intro r launcher job files inputs
  refine ⟨exists_converts_iff, fun results last h => ?_⟩
  exact gathers_of_converts h

/-! ### A directory of drawings -/

/-- A directory with a drawing and a link to it, and with a file and a directory that are no drawings. -/
def artTree : FileSystem where
  nodes := [(["art"], .directory), (["art", "b.svg"], .file "<svg/>".toUTF8 false), (["art", "c.svg"], .directory),
    (["art", ".svg"], .file .empty false), (["art", "a.b.svg"], .link ⟨"b.svg"⟩)]
  working := []

/-- Every program that is started ends at once with success. -/
def quickLauncher : Launcher := Rasterizer.launcherOf [⟨.ended (.code 0), 0⟩]

private theorem wellFormed_artTree : artTree.WellFormed := by decide

private theorem stat_art : artTree.stat ⟨"art"⟩ = .ok (["art"], .directory) :=
  stat_name (by decide) (by decide) rfl rfl nofun

/-- The paths of entries are followed from the directory. -/
private theorem locate_art {p : Path} (name : String) (h : name ∈ ["b.svg", "a.b.svg", "gone.svg"])
    (hp : Path.join ⟨"art"⟩ name = p) : artTree.locate p = artTree.follow true maxLinks ["art"] [name] := by
  have hpath : p.hasNul = false ∧ p.text ≠ "" ∧ p.text.utf8ByteSize ≤ maxPathBytes ∧ steps p = ["art", name] ∧
      start p [] = [] := by
    subst hp
    simp only [List.mem_cons, List.not_mem_nil, or_false] at h
    rcases h with rfl | rfl | rfl <;> decide
  obtain ⟨hnul, hne, hshort, hsteps, hstart⟩ := hpath
  have hfollow : artTree.follow true maxLinks [] ["art", name] = artTree.follow true maxLinks ["art"] [name] :=
    follow_entry rfl (by decide) rfl (by simp)
  rw [locate_eq_follow hnul hne hshort, hsteps, ← hfollow]
  exact congrArg (fun l => artTree.follow true maxLinks l ["art", name]) hstart

private theorem stat_drawing : artTree.stat ⟨"art/b.svg"⟩ = .ok (["art", "b.svg"], .file "<svg/>".toUTF8 false) := by
  refine stat_eq_ok_iff.2 ⟨?_, rfl⟩
  rw [locate_art "b.svg" (by simp) (by decide), follow_entry rfl (by decide) rfl (by simp), follow]
  rfl

private theorem stat_linked : artTree.stat ⟨"art/a.b.svg"⟩ = .ok (["art", "b.svg"], .file "<svg/>".toUTF8 false) := by
  have htarget : steps ⟨"b.svg"⟩ = ["b.svg"] := by decide
  have hstart : start ⟨"b.svg"⟩ ["art"] = ["art"] := by decide
  refine stat_eq_ok_iff.2 ⟨?_, rfl⟩
  rw [locate_art "a.b.svg" (by simp) (by decide), maxLinks, follow_link rfl (by decide) rfl (by simp),
    htarget, hstart, List.append_nil, follow_entry rfl (by decide) rfl (by simp), follow]
  rfl

private theorem readText_missing : artTree.readText ⟨"art/gone.svg"⟩ = .error .notFound := by
  rw [readText, readBytes, stat, locate_art "gone.svg" (by simp) (by decide), follow_missing rfl (by decide) rfl]
  rfl

private theorem readText_drawing : artTree.readText ⟨"art/b.svg"⟩ = .ok "<svg/>" := by
  refine readText_of_readBytes ?_
  rw [readBytes, stat_drawing]
  rfl

/-- The missing drawing cannot be read, and the other one is exported. -/
private theorem converts_artTree :
    Converts Rasterizer.usual quickLauncher ⟨"out"⟩ {} artTree [⟨"art/gone.svg"⟩, ⟨"art/b.svg"⟩]
      [.error (.io ⟨"art/gone.svg"⟩ .notFound), .ok ⟨"out/b.png"⟩] artTree := by
  have hmissing : Rasterizer.usual.convert quickLauncher artTree ⟨"art/gone.svg"⟩ ⟨"out"⟩ {} =
      { attempt := .failed (.io ⟨"art/gone.svg"⟩ .notFound), files := artTree } := by
    rw [Rasterizer.convert, readText_missing]
  have hdrawing : Rasterizer.usual.convert quickLauncher artTree ⟨"art/b.svg"⟩ ⟨"out"⟩ {} =
      ⟨.converted ⟨"out/b.png"⟩, artTree, "", [.look (.ended (.code 0))]⟩ := by
    have hpng : pngPath ⟨"art/b.svg"⟩ ⟨"out"⟩ = ⟨"out/b.png"⟩ := by decide
    rw [Rasterizer.convert, readText_drawing, hpng]
    simp only
    rw [Rasterizer.run_of_starts ⟨by decide, rfl⟩]
    rfl
  refine .next (by rw [hmissing]; rfl) ?_
  rw [hmissing]
  refine .next (by rw [hdrawing]; rfl) ?_
  rw [hdrawing]
  exact .done

/-- The drawing and the link are collected, and a missing drawing leaves the other one alone. -/
theorem artTree_batch :
    (∃ svgs, collectDrawings artTree ⟨"art"⟩ = .ok svgs ∧ ExportsApart ⟨"out"⟩ svgs ∧ ⟨"art/b.svg"⟩ ∈ svgs ∧
      ⟨"art/a.b.svg"⟩ ∈ svgs ∧ ⟨"art/c.svg"⟩ ∉ svgs ∧ ⟨"art/.svg"⟩ ∉ svgs) ∧
    let drawings : List Path := [⟨"art/gone.svg"⟩, ⟨"art/b.svg"⟩]
    let batch := (convertAll Rasterizer.usual quickLauncher artTree drawings ⟨"out"⟩ {}).1.result
    batch.converted = [⟨"out/b.png"⟩] ∧ batch.failures = [.io ⟨"art/gone.svg"⟩ .notFound] := by
  obtain ⟨svgs, hcollect, hlists, hbatch⟩ := collected_batch_keeps_drawings artTree ⟨"art"⟩ ["art"] wellFormed_artTree
    stat_art ⟨rfl, nofun⟩
  obtain ⟨hapart, hgathers⟩ := hbatch ⟨"out"⟩
  obtain ⟨-, h⟩ := (hgathers _ _ _ _ _).2 _ _ converts_artTree
  have hdrawing : ("b.svg", .file "<svg/>".toUTF8 false) ∈ artTree.children ["art"] := .head _
  have hdirectory : ("c.svg", .directory) ∈ artTree.children ["art"] := .tail _ (.head _)
  have hlink : ("a.b.svg", .link ⟨"b.svg"⟩) ∈ artTree.children ["art"] := .tail _ (.tail _ (.tail _ (.head _)))
  refine ⟨⟨svgs, hcollect, hapart, ?_, ?_, ?_, ?_⟩, h.converted, h.failures⟩
  · exact (hlists.mem_iff _).2 ⟨"b", _, by decide, hdrawing, by decide, _, _, stat_drawing, .file⟩
  · exact (hlists.mem_iff _).2 ⟨"a.b", _, by decide, hlink, by decide, _, _, stat_linked, .file⟩
  · intro hmem
    obtain ⟨_, _, -, -, -, hleads⟩ := (hlists.mem_iff _).1 hmem
    obtain ⟨-, hfile⟩ := (leadsToFile_join_iff wellFormed_artTree stat_art hdirectory nofun).1 hleads
    cases hfile
  · -- nothing stands before the extension that could be a stem
    intro hmem
    obtain ⟨stem, _, hstem, hchild, hpath, -⟩ := (hlists.mem_iff _).1 hmem
    have hname := congrArg Path.fileName? hpath
    rw [Path.fileName?_join (by decide) (wellFormed_artTree.isName hchild)] at hname
    have hdot : ".svg" = stem ++ ".svg" := Option.some.inj hname
    have hlength := congrArg String.length hdot
    rw [String.length_append] at hlength
    simp [hstem] at hlength

end FirmwareSymbols.Raster
