import FirmwareSymbols.Proofs.FileName
import FirmwareSymbols.Proofs.FileSystem.Node
import FirmwareSymbols.Proofs.FileSystem.Walk
import FirmwareSymbols.Raster.Conversion

/-!
# The drawings of a directory and their exported files

A drawing is a file whose name has a stem and the extension `svg`. What is collected from a readable directory are its
drawings, each once and in path order (`collectDrawings_of_directory`). A drawing is exported to the file with the
same stem and the extension `png` in the output directory (`pngPath_join`), so different drawings of one directory are
exported to different files, none of which is a drawing (`exportsApart`).
-/

namespace FirmwareSymbols

/-- The node is a file, whether or not it can be read. -/
inductive Node.IsFile : Node → Prop
  | file {content : ByteArray} {executable : Bool} : IsFile (.file content executable)
  | sealed {cause : IoCause} {executable : Bool} : IsFile (.sealed cause executable)

namespace FileSystem

variable {fs : FileSystem} {p dir : Path} {l : Location} {name : String} {node : Node}

/-- The path leads to a file, possibly through links. -/
def LeadsToFile (fs : FileSystem) (p : Path) : Prop := ∃ k node, fs.stat p = .ok (k, node) ∧ node.IsFile

/-- The directory can be listed, and each of its entries can be read. -/
def IsReadable (fs : FileSystem) (l : Location) : Prop :=
  fs.device.list l = none ∧
    ∀ name node cause, (name, node) ∈ fs.children l → fs.device.hide (l ++ [name]) ≠ some (.entry cause)

theorem isFile_iff : fs.isFile p = true ↔ fs.LeadsToFile p := by
  unfold isFile LeadsToFile
  constructor
  · intro h
    split at h
    next k content executable hstat => exact ⟨k, _, hstat, .file⟩
    next k cause executable hstat => exact ⟨k, _, hstat, .sealed⟩
    · cases h
  · rintro ⟨k, node, hstat, hfile⟩
    rw [hstat]
    cases hfile <;> rfl

/-- The entries of a readable directory have names. -/
theorem mapM_name_listing (h : fs.IsReadable l) :
    (fs.listing l).mapM Listed.name = .ok ((fs.children l).map Prod.fst) := by
  have hname : ∀ child ∈ fs.children l, (fs.listed l child).name = .ok child.1 := by
    rintro ⟨name, node⟩ hchild
    have hentry := h.2 name node
    unfold listed
    split
    · rfl
    · rfl
    next cause hhide => exact absurd hhide (hentry cause hchild)
  unfold listing
  generalize fs.children l = children at hname ⊢
  induction children with
  | nil => rfl
  | cons child children ih =>
    rw [List.forall_mem_cons] at hname
    rw [List.map_cons, List.mapM_cons, hname.1, ih hname.2]
    rfl

/-- An entry that is no link is found by its path, unless the path is refused at once. -/
theorem stat_join_iff (hwf : fs.WellFormed) (hdir : fs.stat dir = .ok (l, .directory))
    (hchild : (name, node) ∈ fs.children l) (hlink : ∀ target, node ≠ .link target) {found : Location × Node} :
    fs.stat (dir.join name) = .ok found ↔
      ((dir.join name).hasNul = false ∧ (dir.join name).text.utf8ByteSize ≤ maxPathBytes) ∧
        found = (l ++ [name], node) := by
  obtain ⟨k, n⟩ := found
  have hname := hwf.isName hchild
  obtain ⟨hlocate, hl⟩ := stat_eq_ok_iff.1 hdir
  have hfollow (left : Nat) : fs.follow true left l [name] = .ok (l ++ [name]) := by
    rw [follow_entry hl (isStep_of_isName hname) (hwf.node?_eq hchild) hlink, follow]
  rw [stat_eq_ok_iff, Prod.mk.injEq]
  constructor
  · rintro ⟨hk, hn⟩
    obtain ⟨hnul, -, hshort⟩ := admissible_of_locate hk
    -- from the directory the entry is found where its path leads
    obtain rfl := Except.ok.inj ((hfollow maxLinks).symm.trans (leadsTo_of_locate hdir hname hk))
    exact ⟨⟨hnul, hshort⟩, rfl, Option.some.inj (hn.symm.trans (hwf.node?_eq hchild))⟩
  · rintro ⟨⟨hnul, hshort⟩, rfl, rfl⟩
    obtain ⟨left, -, hjoin⟩ := follow_join hdir hname
    have hne := Path.join_text_ne (text_ne_of_locate hlocate) hname
    rw [locate_eq_follow hnul hne hshort, hjoin true, hfollow]
    exact ⟨rfl, hwf.node?_eq hchild⟩

theorem leadsToFile_join_iff (hwf : fs.WellFormed) (hdir : fs.stat dir = .ok (l, .directory))
    (hchild : (name, node) ∈ fs.children l) (hlink : ∀ target, node ≠ .link target) :
    fs.LeadsToFile (dir.join name) ↔
      ((dir.join name).hasNul = false ∧ (dir.join name).text.utf8ByteSize ≤ maxPathBytes) ∧ node.IsFile := by
  unfold LeadsToFile
  simp only [stat_join_iff hwf hdir hchild hlink, Prod.mk.injEq]
  constructor
  · rintro ⟨k, _, ⟨hpath, -, rfl⟩, hfile⟩
    exact ⟨hpath, hfile⟩
  · rintro ⟨hpath, hfile⟩
    exact ⟨_, node, ⟨hpath, rfl, rfl⟩, hfile⟩

end FileSystem

namespace Raster

open FileSystem

variable {fs : FileSystem} {input out p : Path} {l : Location} {name stem : String} {node : Node} {svgs : List Path}

/-! ### Collecting -/

/-- The paths are those of the drawings of a directory. -/
structure ListsDrawings (fs : FileSystem) (input : Path) (l : Location) (svgs : List Path) : Prop where
  mem_iff : ∀ p, p ∈ svgs ↔ ∃ stem node, stem ≠ "" ∧ (stem ++ ".svg", node) ∈ fs.children l ∧
    p = input.join (stem ++ ".svg") ∧ fs.LeadsToFile p
  ascending : svgs.Pairwise fun p q => p.le q = true ∧ q.le p = false

theorem isDrawing_join_iff (hinput : input.text ≠ "") (hname : IsName name) :
    isDrawing fs (input.join name) = true ↔
      fs.LeadsToFile (input.join name) ∧ ∃ stem, stem ≠ "" ∧ name = stem ++ ".svg" := by
  have hdot : '.' ∉ "svg".toList := by decide
  have hsvg (stem : String) : stem ++ "." ++ "svg" = stem ++ ".svg" := by
    rw [String.append_assoc]
    rfl
  rw [isDrawing, Bool.and_eq_true, decide_eq_true_eq, isFile_iff, Path.extension?_join hinput hname,
    Path.splitName_snd_eq_some_iff]
  simp only [hdot, not_false_eq_true, true_and, hsvg]

/-- What lies in a directory has paths with different components. -/
theorem pairwise_components_join (hwf : fs.WellFormed) (l : Location) (hinput : input.text ≠ "") :
    (((fs.children l).map Prod.fst).map input.join).Pairwise fun p q => p.components ≠ q.components := by
  rw [List.pairwise_map, List.pairwise_map]
  have hnames : (fs.children l).Pairwise fun e e' => e.1 ≠ e'.1 := List.pairwise_map.1 (hwf.nodup_names l)
  refine hnames.imp_of_mem fun {e e'} he he' hne heq => hne ?_
  -- the name is the last component
  rw [Path.components_join hinput (hwf.isName he), Path.components_join hinput (hwf.isName he')] at heq
  simpa using heq

/-- The drawings of a readable directory are collected. -/
theorem collectDrawings_of_directory (hwf : fs.WellFormed) (hinput : fs.stat input = .ok (l, .directory))
    (hreadable : fs.IsReadable l) :
    ∃ svgs, collectDrawings fs input = .ok svgs ∧ ListsDrawings fs input l svgs := by
  have hne := text_ne_of_locate (stat_eq_ok_iff.1 hinput).1
  have hfile : fs.isFile input = false := by
    rw [isFile, hinput]
  have hread : fs.readDirectory input = .ok (fs.listing l) := by
    rw [readDirectory_eq hinput, hreadable.1]
  have hcollect : collectDrawings fs input =
      .ok (Path.sort ((((fs.children l).map Prod.fst).map input.join).filter (isDrawing fs))) := by
    rw [collectDrawings, hfile, hread]
    simp only [mapM_name_listing hreadable, Bool.false_eq_true, if_false]
  refine ⟨_, hcollect, fun p => ?_, Path.pairwise_sort ((pairwise_components_join hwf l hne).filter _)⟩
  rw [Path.mem_sort, List.mem_filter, List.mem_map]
  constructor
  · rintro ⟨⟨_, hmem, rfl⟩, hdrawing⟩
    obtain ⟨⟨name, node⟩, hchild, rfl⟩ := List.mem_map.1 hmem
    obtain ⟨hleads, stem, hstem, rfl⟩ := (isDrawing_join_iff hne (hwf.isName hchild)).1 hdrawing
    exact ⟨stem, node, hstem, hchild, rfl, hleads⟩
  · rintro ⟨stem, node, hstem, hchild, rfl, hleads⟩
    have hdrawing := (isDrawing_join_iff hne (hwf.isName hchild)).2 ⟨hleads, stem, hstem, rfl⟩
    exact ⟨⟨_, List.mem_map_of_mem hchild, rfl⟩, hdrawing⟩

/-! ### Exported files -/

/-- The drawings are exported to files with their stems in the output directory, to different ones and to none of the
drawings. Paths are told apart by their components. -/
structure ExportsApart (out : Path) (svgs : List Path) : Prop where
  named : ∀ p ∈ svgs, ∃ stem, stem ≠ "" ∧ p.fileName? = some (stem ++ ".svg") ∧
    (pngPath p out).components = out.components ++ [.normal (stem ++ ".png")]
  distinct : ∀ p ∈ svgs, ∀ q ∈ svgs, p ≠ q → (pngPath p out).components ≠ (pngPath q out).components
  fresh : ∀ p ∈ svgs, ∀ q ∈ svgs, (pngPath p out).components ≠ q.components

theorem pngPath_join (hinput : input.text ≠ "") (hstem : stem ≠ "") (hname : IsName (stem ++ ".svg")) :
    pngPath (input.join (stem ++ ".svg")) out = out.join (stem ++ ".png") := by
  have hsplit : Path.splitName (stem ++ ".svg") = (stem, some "svg") := by
    have hconcat := Path.splitName_concat hstem (show '.' ∉ "svg".toList by decide)
    rw [String.append_assoc] at hconcat
    exact hconcat
  rw [pngPath, Path.stem?, Path.fileName?_join hinput hname, Option.map_some, hsplit]
  rfl

/-- The extension `png` is as long as `svg`. -/
theorem isName_png (hname : IsName (stem ++ ".svg")) : IsName (stem ++ ".png") where
  nonempty h := by simp at h
  not_dot h := by
    have hlast := congrArg (fun s => s.toList.getLast?) h
    simp at hlast
  not_dots h := by
    have hlast := congrArg (fun s => s.toList.getLast?) h
    simp at hlast
  no_slash h := by
    refine hname.no_slash ?_
    rw [String.toList_append, List.mem_append] at h ⊢
    exact .inl (h.resolve_right (by decide))
  short := by
    have hshort := hname.short
    rw [String.utf8ByteSize_append] at hshort ⊢
    exact hshort

theorem components_pngPath_join (hinput : input.text ≠ "") (hstem : stem ≠ "") (hname : IsName (stem ++ ".svg")) :
    (pngPath (input.join (stem ++ ".svg")) out).components = out.components ++ [.normal (stem ++ ".png")] := by
  rw [pngPath_join hinput hstem hname, Path.components_join_name (isName_png hname)]

theorem exportsApart (hwf : fs.WellFormed) (hinput : input.text ≠ "") (h : ListsDrawings fs input l svgs) (out : Path) :
    ExportsApart out svgs := by
  have hdrawing : ∀ p ∈ svgs, ∃ stem, stem ≠ "" ∧ IsName (stem ++ ".svg") ∧ p = input.join (stem ++ ".svg") := by
    intro p hp
    obtain ⟨stem, node, hstem, hchild, hjoin, -⟩ := (h.mem_iff p).1 hp
    exact ⟨stem, hstem, hwf.isName hchild, hjoin⟩
  constructor
  case named =>
    intro p hp
    obtain ⟨stem, hstem, hname, rfl⟩ := hdrawing p hp
    exact ⟨stem, hstem, Path.fileName?_join hinput hname, components_pngPath_join hinput hstem hname⟩
  case distinct =>
    intro p hp q hq hne heq
    obtain ⟨stem, hstem, hname, rfl⟩ := hdrawing p hp
    obtain ⟨stem', hstem', hname', rfl⟩ := hdrawing q hq
    rw [components_pngPath_join hinput hstem hname, components_pngPath_join hinput hstem' hname'] at heq
    have hstems : stem = stem' := by simpa using heq
    exact hne (by rw [hstems])
  case fresh =>
    intro p hp q hq heq
    obtain ⟨stem, hstem, hname, rfl⟩ := hdrawing p hp
    obtain ⟨stem', hstem', hname', rfl⟩ := hdrawing q hq
    rw [components_pngPath_join hinput hstem hname, Path.components_join hinput hname'] at heq
    obtain ⟨-, hlast⟩ := List.append_inj' heq rfl
    have hnames : stem ++ ".png" = stem' ++ ".svg" := by simpa using hlast
    -- the names end in different letters
    have hletter := congrArg (fun s => (s.toList.reverse)[1]?) hnames
    simp at hletter

end Raster

end FirmwareSymbols
