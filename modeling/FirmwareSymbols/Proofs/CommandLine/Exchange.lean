import FirmwareSymbols.Proofs.CommandLine.Dump
import FirmwareSymbols.Proofs.ListFormat

/-!
# Lists that pass from one call to another

The option of a dump fixes the format of a list, and its name the format in which it is read. So a list is read back by
its path exactly if the name asks for the format that was written there last, and the path still leads to it
(`DumpRequest.execute_dump_read_back`): a list can take the place of a symbolic link that its own path goes through.
-/

namespace FirmwareSymbols

theorem ListFormat.ofPath_eq_json_iff {path : Path} : ofPath path = .json ↔ path.extension? = some "json" := by
  unfold ofPath
  split <;> simp_all

theorem ListFormat.ofPath_eq_text_iff {path : Path} : ofPath path = .text ↔ path.extension? ≠ some "json" := by
  unfold ofPath
  split <;> simp_all

namespace FileSystem

variable {fs after : FileSystem} {path : Path} {l : Location} {s : SymbolSet} {format : ListFormat}

/-- A list that stands at the entry that the path names is read back if the name tells the format. -/
theorem readSymbolList_iff_of_names (hnames : after.Names path l) (hslash : endsWithSlash path = false)
    (hnode : after.node? l = some (.file (s.render format).toUTF8 false)) (hlines : ∀ name ∈ s, Text.IsLine name) :
    after.readSymbolList path = .ok s ↔ ListFormat.ofPath path = format := by
  obtain ⟨dir, name, hplace, rfl⟩ := hnames
  have hstat := stat_of_place hplace hslash hnode nofun
  have hbytes : after.readBytes path = .ok (s.render format).toUTF8 := by
    rw [readBytes, hstat]
    rfl
  rw [readSymbolList, readText_of_readBytes hbytes]
  exact parseSymbolList_render_iff hlines

/-- A path that named the entry of a list and names no other one now leads to the list or nowhere. -/
theorem readSymbolList_iff (hnamed : fs.Names path l) (hback : ∀ k, after.Names path k → fs.Names path k)
    (hslash : endsWithSlash path = false) (hnode : after.node? l = some (.file (s.render format).toUTF8 false))
    (hlines : ∀ name ∈ s, Text.IsLine name) :
    after.readSymbolList path = .ok s ↔ ListFormat.ofPath path = format ∧ ∃ k, after.Names path k := by
  have hread : ∀ k, after.Names path k → (after.readSymbolList path = .ok s ↔ ListFormat.ofPath path = format) := by
    intro k hk
    obtain rfl := hnamed.unique (hback k hk)
    exact readSymbolList_iff_of_names hk hslash hnode hlines
  constructor
  · intro hs
    obtain ⟨contents, htext, -⟩ := readSymbolList_eq_ok_iff.1 hs
    obtain ⟨found, hstat⟩ := exists_stat_of_readText htext
    obtain ⟨k, hk⟩ := hnamed.of_stat hslash hstat
    exact ⟨(hread k hk).1 hs, k, hk⟩
  · rintro ⟨hformat, k, hk⟩
    exact (hread k hk).2 hformat

end FileSystem

namespace CommandLine.DumpRequest

variable {fs : FileSystem} {r : DumpRequest} {path : Path} {l : Location} (out : StandardOutput)

/-- Paths that name an entry after both lists were written named the same one before. -/
theorem names_of_names_run (hjson : (r.json fs).1 = .ok ()) (h : (r.run out fs).files.Names path l) :
    fs.Names path l := by
  rw [files_run out hjson] at h
  exact names_of_names_writeIfAsked (names_of_names_writeIfAsked h)

/-- Unless a list takes the place of a link, paths name the same entries after both lists were written as before. -/
theorem names_run (hjson : (r.json fs).1 = .ok ())
    (hlink : ∀ other, other ∈ r.jsonOut ∨ other ∈ r.textOut →
      ∀ k target, fs.Names other k → fs.node? k ≠ some (.link target))
    (h : fs.Names path l) : (r.run out fs).files.Names path l := by
  rw [files_run out hjson]
  have hfirst : (r.json fs).2.Names path l := names_writeIfAsked (fun other hother => hlink other (.inl hother)) h
  refine names_writeIfAsked (fun other hother k target hk hnode => ?_) hfirst
  exact hlink other (.inr hother) k target (names_of_names_writeIfAsked hk) (link_of_writeIfAsked hnode)

/-- The JSON form is read back by a path with the extension `json`, unless the text form took its place. -/
theorem readSymbolList_json_iff (hout : path ∈ r.jsonOut) (hjson : (r.json fs).1 = .ok ())
    (hother : ∀ other ∈ r.textOut, ∀ k, fs.Names path k → ¬ fs.Names other k)
    (hlines : ∀ name ∈ (r.allowList fs).symbols, Text.IsLine name) :
    (r.run out fs).files.readSymbolList path = .ok (r.allowList fs).symbols ↔
      path.extension? = some "json" ∧ ∃ k, (r.run out fs).files.Names path k := by
  obtain ⟨l, hl, hnode⟩ := node?_json out hout hjson
  rw [← ListFormat.ofPath_eq_json_iff]
  exact FileSystem.readSymbolList_iff hl (fun _ => names_of_names_run out hjson) (asks_file_of_writeIfAsked hjson hout)
    (hnode fun _ other hmem => hother other hmem l hl) hlines

/-- The text form is read back by a path without this extension. -/
theorem readSymbolList_text_iff {other : Path} (hout : other ∈ r.textOut) (hjson : (r.json fs).1 = .ok ())
    (htext : (r.text fs).1 = .ok ()) (hpath : fs.Names path l) (hsame : fs.Names other l)
    (hslash : FileSystem.endsWithSlash path = false)
    (hlines : ∀ name ∈ (r.allowList fs).symbols, Text.IsLine name) :
    (r.run out fs).files.readSymbolList path = .ok (r.allowList fs).symbols ↔
      path.extension? ≠ some "json" ∧ ∃ k, (r.run out fs).files.Names path k := by
  obtain ⟨l', hl', hnode⟩ := node?_text out hout hjson htext
  obtain rfl := hsame.unique hl'
  rw [← ListFormat.ofPath_eq_text_iff]
  exact FileSystem.readSymbolList_iff hpath (fun _ => names_of_names_run out hjson) hslash hnode hlines

/-- What a dump that succeeded has written. The path of each output leads to the form that stands there last, the text
form if both outputs name one entry, or nowhere; it leads there if no output takes the place of a link. The list is read
back by the path exactly if it leads there and has the extension `json` for the JSON form, and another one or none for
the text form. -/
theorem execute_dump_read_back (e : Environment) {fs : FileSystem} {r : DumpRequest} {arguments : List String}
    (hrequests : Requests arguments (.dump r)) (hcode : (execute e fs arguments).code = 0)
    (hlines : ∀ name ∈ (r.allowList fs).symbols, Text.IsLine name) :
    let names := (r.allowList fs).symbols
    let after := (execute e fs arguments).files
    (∀ path ∈ r.jsonOut, ∃ l, fs.Names path l ∧
      ((∀ other ∈ r.textOut, ¬ fs.Names other l) →
        (after.readSymbolList path = .ok names ↔ path.extension? = some "json" ∧ ∃ k, after.Names path k)) ∧
      ((∃ other ∈ r.textOut, fs.Names other l) →
        (after.readSymbolList path = .ok names ↔ path.extension? ≠ some "json" ∧ ∃ k, after.Names path k))) ∧
    (∀ path ∈ r.textOut,
      (after.readSymbolList path = .ok names ↔ path.extension? ≠ some "json" ∧ ∃ k, after.Names path k)) ∧
    ((∀ path, path ∈ r.jsonOut ∨ path ∈ r.textOut → ∀ l target, fs.Names path l → fs.node? l ≠ some (.link target)) →
      ∀ path, path ∈ r.jsonOut ∨ path ∈ r.textOut → ∃ k, after.Names path k) := by
  intro names after
  have hafter : after = (r.run e.stdout fs).files := hrequests.files_execute e fs
  rw [hrequests.code_execute e fs] at hcode
  obtain ⟨-, hjson, htext, -⟩ := (code_run e.stdout fs r).1.1 hcode
  have hnamed : ∀ path ∈ r.jsonOut, ∃ l, fs.Names path l := by
    intro path hpath
    obtain ⟨l, hl, -⟩ := node?_json e.stdout hpath hjson
    exact ⟨l, hl⟩
  have hnamed' : ∀ path ∈ r.textOut, ∃ l, fs.Names path l := by
    intro path hpath
    obtain ⟨l, hl, -⟩ := node?_text e.stdout hpath hjson htext
    exact ⟨l, hl⟩
  rw [hafter]
  refine ⟨?_, ?_, ?_⟩
  · intro path hpath
    obtain ⟨l, hl⟩ := hnamed path hpath
    refine ⟨l, hl, ?_, ?_⟩
    · intro hother
      exact readSymbolList_json_iff e.stdout hpath hjson (fun other hmem k hk => hl.unique hk ▸ hother other hmem) hlines
    · rintro ⟨other, hmem, hsame⟩
      exact readSymbolList_text_iff e.stdout hmem hjson htext hl hsame (asks_file_of_writeIfAsked hjson hpath) hlines
  · intro path hpath
    obtain ⟨l, hl⟩ := hnamed' path hpath
    exact readSymbolList_text_iff e.stdout hpath hjson htext hl hl (asks_file_of_writeIfAsked htext hpath) hlines
  · rintro hlink path (hpath | hpath)
    · obtain ⟨l, hl⟩ := hnamed path hpath
      exact ⟨l, names_run e.stdout hjson hlink hl⟩
    · obtain ⟨l, hl⟩ := hnamed' path hpath
      exact ⟨l, names_run e.stdout hjson hlink hl⟩

/-- An empty directory beside a link to the directory that holds both. -/
def emptyTree : FileSystem where
  nodes := [(["objs"], .directory), (["here.txt"], .link ⟨"."⟩)]
  working := []

/-- Dumps the names that are provided in any case. -/
def emptyDump (textOut jsonOut : Option Path) : DumpRequest := ⟨[⟨"objs"⟩], [], ["obj"], textOut, jsonOut⟩

private theorem stat_objs : emptyTree.stat ⟨"objs"⟩ = .ok (["objs"], .directory) :=
  FileSystem.stat_name (by decide) (by decide) rfl rfl nofun

variable {textOut jsonOut : Option Path}

private theorem inputs_emptyDump : AllowList.inputs emptyTree { extensions := (emptyDump textOut jsonOut).extensions }
    (emptyDump textOut jsonOut).files (emptyDump textOut jsonOut).directories = [] := by
  have hnone : (emptyTree.discoverObjects ⟨"objs"⟩ ["obj"]).result = .ok ⟨[], []⟩ :=
    FileSystem.discoverObjects_of_empty stat_objs rfl rfl
  simp [emptyDump, AllowList.inputs, AllowList.objectsOf, hnone]

private theorem isLine_runtimeSymbols : ∀ name ∈ runtimeSymbols, Text.IsLine name := by decide +kernel

private theorem isLine_emptyDump : ∀ name ∈ ((emptyDump textOut jsonOut).allowList emptyTree).symbols,
    Text.IsLine name := by
  intro name hname
  rcases (AllowList.mem_build_iff _).1 hname with ⟨himplicit, -⟩ | ⟨path, hpath, -⟩
  · exact isLine_runtimeSymbols name himplicit
  · rw [inputs_emptyDump] at hpath
    cases hpath

/-- The call succeeds if its outputs can be written. -/
private theorem execute_emptyDump (htexts : ∀ p ∈ textOut, p.text ≠ "") (hjsons : ∀ p ∈ jsonOut, p.text ≠ "")
    (hjson : ((emptyDump textOut jsonOut).json emptyTree).1 = .ok ())
    (htext : ((emptyDump textOut jsonOut).text emptyTree).1 = .ok ()) :
    Requests (emptyDump textOut jsonOut).arguments (.dump (emptyDump textOut jsonOut)) ∧
      (execute .bare emptyTree (emptyDump textOut jsonOut).arguments).code = 0 := by
  have hspellable : (emptyDump textOut jsonOut).IsSpellable :=
    { some_directory := by simp [emptyDump]
      some_extension := by simp [emptyDump]
      directories := by simp [emptyDump]
      files := by simp [emptyDump]
      extensions := by simp [emptyDump]
      textOut := htexts
      jsonOut := hjsons }
  have hrequests := requests_arguments hspellable
  refine ⟨hrequests, ?_⟩
  rw [hrequests.code_execute]
  refine (code_run _ _ _).1.2 ⟨?_, hjson, htext, print_eq_ok_iff.2 fun _ _ => rfl⟩
  rw [allowList, AllowList.isComplete_build_iff]
  constructor
  · intro dir hdir
    obtain rfl := List.mem_singleton.1 hdir
    exact ⟨_, FileSystem.discoverObjects_of_empty stat_objs rfl rfl, rfl⟩
  · rw [inputs_emptyDump]
    simp

/-- A name that a file can have in the working directory. -/
private structure IsFileName (name : String) : Prop where
  isName : IsName name
  noNul : '\x00' ∉ name.toList
  alone : FileSystem.directoryOf ⟨name⟩ = ⟨"."⟩
  unused : emptyTree.node? [name] = none

private theorem isFileName_text : IsFileName "api.txt" :=
  ⟨by decide, by decide, by decide, by decide⟩

private theorem isFileName_json : IsFileName "api.json" :=
  ⟨by decide, by decide, by decide, by decide⟩

variable {t j : String}

private theorem isDestination_emptyTree (h : IsFileName t) : emptyTree.IsDestination ⟨t⟩ [t] := by
  have hdir : emptyTree.node? [t] ≠ some .directory := by simp [h.unused]
  exact FileSystem.isDestination_root h.isName h.noNul h.alone rfl hdir ⟨rfl, rfl, rfl⟩

private theorem json_emptyDump (hj : IsFileName j) : (emptyDump textOut (some ⟨j⟩)).json emptyTree = (.ok (),
    emptyTree.set [j]
      (.file (((emptyDump textOut (some ⟨j⟩)).allowList emptyTree).symbols.render .json).toUTF8 false)) :=
  writeIfAsked_of_isDestination (isDestination_emptyTree hj)

private theorem isDestination_beside (ht : IsFileName t) (content : ByteArray) :
    (emptyTree.set [j] (.file content false)).IsDestination ⟨t⟩ [t] := by
  have hdir : (emptyTree.set [j] (.file content false)).node? [t] ≠ some .directory := by
    rw [FileSystem.node?_set (by simp)]
    split
    · simp
    · simp [ht.unused]
  exact FileSystem.isDestination_root ht.isName ht.noNul ht.alone rfl hdir ⟨rfl, rfl, rfl⟩

private theorem text_emptyDump (ht : IsFileName t) (hj : IsFileName j) :
    ((emptyDump (some ⟨t⟩) (some ⟨j⟩)).text emptyTree).1 = .ok () := by
  rw [text, json_emptyDump hj]
  exact congrArg Prod.fst (writeIfAsked_of_isDestination (isDestination_beside ht _))

/-- Two outputs in the working directory are written. -/
private theorem execute_names (ht : IsFileName t) (hj : IsFileName j) :
    Requests (emptyDump (some ⟨t⟩) (some ⟨j⟩)).arguments (.dump (emptyDump (some ⟨t⟩) (some ⟨j⟩))) ∧
      (execute .bare emptyTree (emptyDump (some ⟨t⟩) (some ⟨j⟩)).arguments).code = 0 := by
  refine execute_emptyDump ?_ ?_ ?_ (text_emptyDump ht hj)
  · rintro _ ⟨⟩
    exact ht.isName.nonempty
  · rintro _ ⟨⟩
    exact hj.isName.nonempty
  · rw [json_emptyDump hj]

private theorem names_emptyTree_iff (ht : IsFileName t) {l : Location} : emptyTree.Names ⟨t⟩ l ↔ l = [t] := by
  have hnames := (isDestination_emptyTree ht).names
  exact ⟨fun hl => hl.unique hnames, fun hl => hl ▸ hnames⟩

/-- Both forms are read back by names with the right extensions. -/
theorem list_read_back_by_extension :
    let request := emptyDump (some ⟨"api.txt"⟩) (some ⟨"api.json"⟩)
    let done := execute .bare emptyTree request.arguments
    let names := (request.allowList emptyTree).symbols
    Requests request.arguments (.dump request) ∧ done.code = 0 ∧ (∀ name ∈ names, Text.IsLine name) ∧
      done.files.readSymbolList ⟨"api.json"⟩ = .ok names ∧ done.files.readSymbolList ⟨"api.txt"⟩ = .ok names := by
  intro request done names
  obtain ⟨hrequests, hcode⟩ := execute_names isFileName_text isFileName_json
  obtain ⟨hjson, htext, hleads⟩ := execute_dump_read_back .bare hrequests hcode isLine_emptyDump
  have hnolink : ∀ path, path ∈ some (⟨"api.json"⟩ : Path) ∨ path ∈ some (⟨"api.txt"⟩ : Path) →
      ∀ l target, emptyTree.Names path l → emptyTree.node? l ≠ some (.link target) := by
    rintro path (⟨⟨⟩⟩ | ⟨⟨⟩⟩) l target hl
    · rw [(names_emptyTree_iff isFileName_json).1 hl, isFileName_json.unused]
      nofun
    · rw [(names_emptyTree_iff isFileName_text).1 hl, isFileName_text.unused]
      nofun
  refine ⟨hrequests, hcode, isLine_emptyDump, ?_, (htext _ rfl).2 ⟨by decide, hleads hnolink _ (.inr rfl)⟩⟩
  obtain ⟨l, hl, hread, -⟩ := hjson ⟨"api.json"⟩ rfl
  obtain rfl := (names_emptyTree_iff isFileName_json).1 hl
  refine (hread ?_).2 ⟨by decide, hleads hnolink _ (.inl rfl)⟩
  rintro _ ⟨⟩ hsame
  exact absurd ((names_emptyTree_iff isFileName_text).1 hsame) (by decide)

/-- The entry `here.txt` is a link to its own directory, so it can be named by a path through itself. -/
private theorem isDestination_here : emptyTree.IsDestination ⟨"here.txt/here.txt"⟩ ["here.txt"] := by
  have hparent : FileSystem.directoryOf ⟨"here.txt/here.txt"⟩ = ⟨"here.txt"⟩ := by decide
  have hfollow : emptyTree.follow true FileSystem.maxLinks [] ["here.txt"] = .ok [] := by
    have hlink : emptyTree.node? ([] ++ ["here.txt"]) = some (.link ⟨"."⟩) := rfl
    rw [FileSystem.maxLinks, FileSystem.follow_link rfl (by decide) hlink (by simp)]
    show emptyTree.follow true 39 [] ["."] = _
    rw [FileSystem.follow_current rfl, FileSystem.follow]
  have hlocate : emptyTree.locate ⟨"here.txt"⟩ = .ok [] := by
    rw [FileSystem.locate_name (by decide) (by decide)]
    exact hfollow
  have hplace : emptyTree.place ⟨"here.txt/here.txt"⟩ = .ok ([], "here.txt") :=
    FileSystem.place_eq_ok_iff.2 ⟨⟨by decide, by decide, by decide⟩, ["here.txt"], by decide, hfollow, rfl,
      by decide, by decide, by decide⟩
  exact
    { names := ⟨[], "here.txt", hplace, rfl⟩
      asks_file := by decide
      no_directory := by rintro ⟨⟩
      in_directory := ⟨[], by rw [hparent]; exact FileSystem.stat_eq_ok_iff.2 ⟨hlocate, rfl⟩⟩
      short := by decide
      create := rfl
      write := rfl
      rename := rfl }

/-- Once the link is a file the path through it leads nowhere. -/
private theorem not_names_here (content : ByteArray) (k : Location) :
    ¬ (emptyTree.set ["here.txt"] (.file content false)).Names ⟨"here.txt/here.txt"⟩ k := by
  rintro ⟨dir, name, hplace, -⟩
  obtain ⟨-, todo, hsplit, hfollow, hdir, -⟩ := FileSystem.place_eq_ok_iff.1 hplace
  have hsplit' : FileSystem.splitLast ⟨"here.txt/here.txt"⟩ = (["here.txt"], some "here.txt") := by decide
  obtain ⟨rfl, -⟩ := Prod.mk.inj (hsplit'.symm.trans hsplit)
  have hfile : (emptyTree.set ["here.txt"] (.file content false)).node? ["here.txt"] = some (.file content false) :=
    FileSystem.node?_set_self (by simp)
  rw [FileSystem.working_set, show FileSystem.start _ _ = [] from rfl,
    FileSystem.follow_entry rfl (by decide) hfile (by simp), FileSystem.follow] at hfollow
  obtain rfl := Except.ok.inj hfollow
  cases hdir.symm.trans hfile

/-- What was written last to the working directory is read back as text only. -/
private theorem extension?_of_text_read_back (ht : IsFileName t) (hj : IsFileName j)
    (hslash : FileSystem.endsWithSlash ⟨t⟩ = false)
    (hread : (execute .bare emptyTree (emptyDump (some ⟨t⟩) (some ⟨j⟩)).arguments).files.readSymbolList ⟨t⟩ =
      .ok ((emptyDump (some ⟨t⟩) (some ⟨j⟩)).allowList emptyTree).symbols) : Path.extension? ⟨t⟩ ≠ some "json" := by
  have hjson : ((emptyDump (some ⟨t⟩) (some ⟨j⟩)).json emptyTree).1 = .ok () := by rw [json_emptyDump hj]
  have hname := (names_emptyTree_iff ht).2 rfl
  rw [(execute_names ht hj).1.files_execute .bare emptyTree] at hread
  exact ((readSymbolList_text_iff Environment.bare.stdout rfl hjson (text_emptyDump ht hj) hname hname hslash
    isLine_emptyDump).1 hread).1

private theorem swapped_not_read_back :
    let swapped := emptyDump (some ⟨"api.json"⟩) (some ⟨"api.txt"⟩)
    let done := execute .bare emptyTree swapped.arguments
    let names := (swapped.allowList emptyTree).symbols
    done.code = 0 ∧ done.files.readSymbolList ⟨"api.txt"⟩ ≠ .ok names ∧
      done.files.readSymbolList ⟨"api.json"⟩ ≠ .ok names := by
  intro swapped done names
  obtain ⟨hrequests, hcode⟩ := execute_names isFileName_json isFileName_text
  refine ⟨hcode, ?_, ?_⟩
  · intro hread
    have hjson : (swapped.json emptyTree).1 = .ok () := by rw [json_emptyDump isFileName_text]
    have hother : ∀ other ∈ swapped.textOut, ∀ k, emptyTree.Names ⟨"api.txt"⟩ k → ¬ emptyTree.Names other k := by
      rintro _ ⟨⟩ k hk hsame
      rw [names_emptyTree_iff isFileName_text] at hk
      rw [names_emptyTree_iff isFileName_json, hk] at hsame
      exact absurd hsame (by decide)
    have hfiles : done.files = (swapped.run Environment.bare.stdout emptyTree).files := hrequests.files_execute .bare emptyTree
    rw [hfiles] at hread
    exact absurd ((readSymbolList_json_iff _ rfl hjson hother isLine_emptyDump).1 hread).1 (by decide)
  · intro hread
    exact absurd (extension?_of_text_read_back isFileName_json isFileName_text (by decide) hread) (by decide)

private theorem merged_not_read_back :
    let merged := emptyDump (some ⟨"api.json"⟩) (some ⟨"api.json"⟩)
    let done := execute .bare emptyTree merged.arguments
    done.code = 0 ∧ done.files.readSymbolList ⟨"api.json"⟩ ≠ .ok (merged.allowList emptyTree).symbols := by
  intro merged done
  refine ⟨(execute_names isFileName_json isFileName_json).2, fun hread => ?_⟩
  exact absurd (extension?_of_text_read_back isFileName_json isFileName_json (by decide) hread) (by decide)

private theorem linked_not_read_back :
    let linked := emptyDump (some ⟨"here.txt/here.txt"⟩) none
    let done := execute .bare emptyTree linked.arguments
    done.code = 0 ∧ done.files.readSymbolList ⟨"here.txt/here.txt"⟩ ≠ .ok (linked.allowList emptyTree).symbols := by
  intro linked done
  have hjson : (linked.json emptyTree).1 = .ok () := rfl
  have htext : linked.text emptyTree = (.ok (), emptyTree.set ["here.txt"] (.file
      ((linked.allowList emptyTree).symbols.render .text).toUTF8 false)) :=
    writeIfAsked_of_isDestination isDestination_here
  have htext' : (linked.text emptyTree).1 = .ok () := by rw [htext]
  have hpath : ∀ p ∈ some (⟨"here.txt/here.txt"⟩ : Path), p.text ≠ "" := by
    rintro _ ⟨⟩
    decide
  have hnone : ∀ p ∈ (none : Option Path), p.text ≠ "" := by simp
  obtain ⟨hrequests, hcode⟩ := execute_emptyDump hpath hnone hjson htext'
  have hfiles : done.files = (linked.run Environment.bare.stdout emptyTree).files := hrequests.files_execute .bare emptyTree
  rw [hfiles]
  refine ⟨hcode, fun hread => ?_⟩
  have hnames := isDestination_here.names
  obtain ⟨-, k, hk⟩ :=
    (readSymbolList_text_iff _ rfl hjson htext' hnames hnames (by decide) isLine_emptyDump).1 hread
  rw [files_run _ hjson, htext] at hk
  exact not_names_here _ k hk

/-- Outputs whose names ask for the other format are not read back, nor is the JSON form below the text form in one
place, nor a list that stands in the way of its own path. -/
theorem outputs_not_read_back :
    let swapped := emptyDump (some ⟨"api.json"⟩) (some ⟨"api.txt"⟩)
    let merged := emptyDump (some ⟨"api.json"⟩) (some ⟨"api.json"⟩)
    let linked := emptyDump (some ⟨"here.txt/here.txt"⟩) none
    let done (request : DumpRequest) := execute .bare emptyTree request.arguments
    let names := (swapped.allowList emptyTree).symbols
    (∀ name ∈ names, Text.IsLine name) ∧
      (done swapped).code = 0 ∧ (done swapped).files.readSymbolList ⟨"api.txt"⟩ ≠ .ok names ∧
      (done swapped).files.readSymbolList ⟨"api.json"⟩ ≠ .ok names ∧
      (done merged).code = 0 ∧ (done merged).files.readSymbolList ⟨"api.json"⟩ ≠ .ok names ∧
      (done linked).code = 0 ∧ (done linked).files.readSymbolList ⟨"here.txt/here.txt"⟩ ≠ .ok names := by
  intro swapped merged linked done names
  obtain ⟨hswapped, hfirst, hsecond⟩ := swapped_not_read_back
  -- the list does not depend on the outputs
  obtain ⟨hmerged, hthird⟩ : (done merged).code = 0 ∧ (done merged).files.readSymbolList _ ≠ .ok names :=
    merged_not_read_back
  obtain ⟨hlinked, hfourth⟩ : (done linked).code = 0 ∧ (done linked).files.readSymbolList _ ≠ .ok names :=
    linked_not_read_back
  exact ⟨isLine_emptyDump, hswapped, hfirst, hsecond, hmerged, hthird, hlinked, hfourth⟩

end CommandLine.DumpRequest

end FirmwareSymbols
