import FirmwareSymbols.FileSystem.Read
import FirmwareSymbols.Proofs.Path

/-!
# Following paths step by step

Each step of a path has an equation (`follow_current` to `follow_link`). A path that leads to a location can be
continued from there with the links that are left (`follow_append`), and more links do no harm (`follow_mono`). So an
entry of a directory is found from the directory as well as from the start of its path (`follow_join`).
-/

namespace FirmwareSymbols.FileSystem

variable {fs : FileSystem} {followLast : Bool} {n m : Nat} {l l' : Location} {step name : String}
  {node : Node} {rest todo : List String}

/-- A step that asks for an entry. -/
def IsStep (step : String) : Prop := step ≠ "." ∧ step ≠ ".." ∧ ¬ maxNameBytes < step.utf8ByteSize

instance : DecidablePred IsStep := fun _ => inferInstanceAs (Decidable (_ ∧ _ ∧ _))

theorem isStep_of_isName (h : IsName name) : IsStep name := ⟨h.not_dot, h.not_dots, Nat.not_lt.2 h.short⟩

/-! ### One step -/

theorem follow_current (hl : fs.node? l = some .directory) :
    fs.follow followLast n l ("." :: rest) = fs.follow followLast n l rest := by
  rw [follow]
  simp [hl]

theorem follow_parent (hl : fs.node? l = some .directory) :
    fs.follow followLast n l (".." :: rest) = fs.follow followLast n l.dropLast rest := by
  rw [follow]
  simp [hl]

theorem follow_entry {node : Node} (hl : fs.node? l = some .directory) (hstep : IsStep step)
    (hnode : fs.node? (l ++ [step]) = some node) (hlink : ∀ target, node ≠ .link target) :
    fs.follow followLast n l (step :: rest) = fs.follow followLast n (l ++ [step]) rest := by
  obtain ⟨hdot, hdots, hshort⟩ := hstep
  rw [follow]
  simp only [hl, if_neg hdot, if_neg hdots, if_neg hshort, hnode]

theorem follow_link {target : Path} (hl : fs.node? l = some .directory) (hstep : IsStep step)
    (hnode : fs.node? (l ++ [step]) = some (.link target)) (hmore : ¬ (rest.isEmpty && !followLast) = true) :
    fs.follow followLast (n + 1) l (step :: rest) =
      fs.follow followLast n (start target l) (steps target ++ rest) := by
  obtain ⟨hdot, hdots, hshort⟩ := hstep
  rw [follow]
  simp only [hl, if_neg hdot, if_neg hdots, if_neg hshort, hnode, if_neg hmore]

theorem follow_missing (hl : fs.node? l = some .directory) (hstep : IsStep step)
    (hnode : fs.node? (l ++ [step]) = none) : fs.follow followLast n l (step :: rest) = .error .notFound := by
  obtain ⟨hdot, hdots, hshort⟩ := hstep
  rw [follow]
  simp only [hl, if_neg hdot, if_neg hdots, if_neg hshort, hnode]

/-- A last step is not followed if it is a link. -/
theorem follow_last {node : Node} (hl : fs.node? l = some .directory) (hstep : IsStep step)
    (hnode : fs.node? (l ++ [step]) = some node) : fs.follow false n l [step] = .ok (l ++ [step]) := by
  obtain ⟨hdot, hdots, hshort⟩ := hstep
  rw [follow]
  simp only [hl, if_neg hdot, if_neg hdots, if_neg hshort, hnode]
  cases node with
  | link target => rfl
  | _ => rw [follow]

/-- Steps are taken from directories. -/
theorem node?_of_follow_cons (h : fs.follow followLast n l (step :: rest) = .ok l') :
    fs.node? l = some .directory := by
  rw [follow] at h
  split at h
  next hl => exact hl
  · cases h
  · cases h

/-! ### Many steps -/

/-- What is left to do after the first steps is done from where they lead to. -/
theorem follow_append (h : fs.follow true n l todo = .ok l') :
    ∃ left ≤ n, ∀ followLast more, more ≠ [] →
      fs.follow followLast n l (todo ++ more) = fs.follow followLast left l' more := by
  fun_induction follow fs true n l todo with
  | case1 n l =>
    obtain rfl := Except.ok.inj h
    exact ⟨n, Nat.le_refl n, fun _ _ _ => rfl⟩
  | case2 n l rest hl ih =>
    obtain ⟨left, hleft, hmore⟩ := ih h
    exact ⟨left, hleft, fun b more hne => (follow_current hl).trans (hmore b more hne)⟩
  | case3 n l rest hl hdot ih =>
    obtain ⟨left, hleft, hmore⟩ := ih h
    exact ⟨left, hleft, fun b more hne => (follow_parent hl).trans (hmore b more hne)⟩
  | case8 l step rest hl hdot hdots hshort target hnode _ n ih =>
    obtain ⟨left, hleft, hmore⟩ := ih h
    refine ⟨left, Nat.le_succ_of_le hleft, fun b more hne => ?_⟩
    have hlast : ¬ ((rest ++ more).isEmpty && !b) = true := by simp [hne]
    rw [List.cons_append, follow_link hl ⟨hdot, hdots, hshort⟩ hnode hlast, ← List.append_assoc]
    exact hmore b more hne
  | case9 n l step rest hl hdot hdots hshort node hlink hnode ih =>
    obtain ⟨left, hleft, hmore⟩ := ih h
    exact ⟨left, hleft, fun b more hne =>
      (follow_entry hl ⟨hdot, hdots, hshort⟩ hnode hlink).trans (hmore b more hne)⟩
  -- the other steps fail
  | case6 | case4 | case5 | case7 | case10 | case11 => simp_all

/-- The first steps of a path that leads somewhere lead somewhere. -/
theorem exists_follow_of_append {more : List String} (h : fs.follow true n l (todo ++ more) = .ok l') :
    ∃ k, fs.follow true n l todo = .ok k := by
  fun_induction follow fs true n l todo with
  | case1 n l => exact ⟨l, rfl⟩
  | case2 n l rest hl ih => exact ih ((follow_current hl).symm.trans h)
  | case3 n l rest hl hdot ih => exact ih ((follow_parent hl).symm.trans h)
  | case8 l step rest hl hdot hdots hshort target hnode _ n ih =>
    have hlast : ¬ ((rest ++ more).isEmpty && !true) = true := by simp
    rw [List.cons_append, follow_link hl ⟨hdot, hdots, hshort⟩ hnode hlast, ← List.append_assoc] at h
    exact ih h
  | case9 n l step rest hl hdot hdots hshort node hlink hnode ih =>
    exact ih ((follow_entry hl ⟨hdot, hdots, hshort⟩ hnode hlink).symm.trans h)
  | case6 => simp_all
  | case4 | case5 | case7 | case10 | case11 =>
    rw [List.cons_append, follow] at h
    grind

/-- With more links to spare the same location is found. -/
theorem follow_mono (hnm : n ≤ m) (h : fs.follow followLast n l todo = .ok l') :
    fs.follow followLast m l todo = .ok l' := by
  fun_induction follow fs followLast n l todo generalizing m with
  | case1 n l => rw [follow]; exact h
  | case2 n l rest hl ih => exact (follow_current hl).trans (ih hnm h)
  | case3 n l rest hl hdot ih => exact (follow_parent hl).trans (ih hnm h)
  | case6 n l step rest hl hdot hdots hshort target hnode hlast =>
    obtain ⟨hrest, hfollow⟩ : rest = [] ∧ followLast = false := by simpa using hlast
    subst hrest hfollow
    rw [follow_last hl ⟨hdot, hdots, hshort⟩ hnode]
    exact h
  | case8 l step rest hl hdot hdots hshort target hnode hlast n ih =>
    cases m with
    | zero => exact absurd hnm (Nat.not_succ_le_zero n)
    | succ m =>
      rw [follow_link hl ⟨hdot, hdots, hshort⟩ hnode hlast]
      exact ih (Nat.le_of_succ_le_succ hnm) h
  | case9 n l step rest hl hdot hdots hshort node hlink hnode ih =>
    exact (follow_entry hl ⟨hdot, hdots, hshort⟩ hnode hlink).trans (ih hnm h)
  | case4 | case5 | case7 | case10 | case11 => cases h

/-- A dot at the end asks for a directory and leads nowhere else. -/
theorem follow_of_append_current (h : fs.follow true n l (todo ++ ["."]) = .ok l') :
    fs.follow true n l todo = .ok l' := by
  obtain ⟨k, hk⟩ := exists_follow_of_append h
  obtain ⟨left, -, hmore⟩ := follow_append hk
  rw [hmore true ["."] (by simp), follow] at h
  split at h
  · rw [if_pos rfl, follow] at h
    rw [hk, h]
  · cases h
  · cases h

/-! ### Entries of a directory -/

/-- The location of the entry that a path names: a link in its last place is not followed. -/
def entryLocation (fs : FileSystem) (p : Path) : Except IoCause Location :=
  fs.follow false maxLinks (start p fs.working) (steps p)

theorem start_join {p : Path} (hp : p.text ≠ "") (hname : IsName name) (current : Location) :
    start (p.join name) current = start p current := by
  rw [start, start, Path.isAbsolute_join hp hname]

theorem text_ne_of_locate {p : Path} (h : fs.locate p = .ok l) : p.text ≠ "" := by
  intro hp
  unfold locate at h
  split at h
  · cases h
  · cases h

theorem follow_of_locate {p : Path} (h : fs.locate p = .ok l) :
    fs.follow true maxLinks (start p fs.working) (steps p) = .ok l := by
  unfold locate at h
  split at h
  · cases h
  split at h
  · cases h
  split at h
  · cases h
  exact h

theorem stat_eq_ok_iff {p : Path} {node : Node} :
    fs.stat p = .ok (l, node) ↔ fs.locate p = .ok l ∧ fs.node? l = some node := by
  unfold stat
  cases hlocate : fs.locate p with
  | error cause => simp [bind, Except.bind]
  | ok k =>
    simp only [bind, Except.bind, Except.ok.injEq]
    cases hnode : fs.node? k with
    | none =>
      refine ⟨nofun, ?_⟩
      rintro ⟨rfl, hl⟩
      exact nomatch hnode.symm.trans hl
    | some n =>
      simp only [Except.ok.injEq, Prod.mk.injEq]
      constructor
      · rintro ⟨rfl, rfl⟩
        exact ⟨rfl, hnode⟩
      · rintro ⟨rfl, hl⟩
        exact ⟨rfl, Option.some.inj (hnode.symm.trans hl)⟩

/-- A path that is not refused at once is followed. -/
theorem locate_eq_follow {p : Path} (hnul : p.hasNul = false) (hne : p.text ≠ "")
    (hshort : p.text.utf8ByteSize ≤ maxPathBytes) :
    fs.locate p = fs.follow true maxLinks (start p fs.working) (steps p) := by
  rw [locate, hnul, if_neg Bool.false_ne_true, if_neg hne, if_neg (Nat.not_lt.2 hshort)]

/-- A name alone is looked up in the working directory. -/
theorem locate_name (hname : IsName name) (hnul : '\x00' ∉ name.toList) :
    fs.locate ⟨name⟩ = fs.follow true maxLinks fs.working [name] := by
  have hslash : name.toList.head? ≠ some '/' := fun h => hname.no_slash (List.mem_of_head? h)
  have hlast : name.toList.getLast? ≠ some '/' := fun h => hname.no_slash (List.mem_of_getLast? h)
  have hclean : (⟨name⟩ : Path).hasNul = false := by simpa [Path.hasNul] using hnul
  have hshort : name.utf8ByteSize ≤ maxPathBytes := Nat.le_trans hname.short (by decide)
  have hstart : start ⟨name⟩ fs.working = fs.working := by simp [start, Path.isAbsolute, hslash]
  have hsteps : steps ⟨name⟩ = [name] := by
    simp [steps, Path.parts, Text.splitText, Text.splitAt_of_not_mem hname.no_slash, hlast, hname.nonempty]
  rw [locate_eq_follow hclean hname.nonempty hshort, hstart, hsteps]

/-- What lies in the working directory and is no link is found by its name. -/
theorem stat_name (hname : IsName name) (hnul : '\x00' ∉ name.toList) (hworking : fs.node? fs.working = some .directory)
    (hnode : fs.node? (fs.working ++ [name]) = some node) (hlink : ∀ target, node ≠ .link target) :
    fs.stat ⟨name⟩ = .ok (fs.working ++ [name], node) := by
  refine stat_eq_ok_iff.2 ⟨?_, hnode⟩
  rw [locate_name hname hnul, follow_entry hworking (isStep_of_isName hname) hnode hlink, follow]

/-- A file in the working directory is read by its name. -/
theorem readBytes_name {content : ByteArray} {executable : Bool} (hname : IsName name) (hnul : '\x00' ∉ name.toList)
    (hworking : fs.node? fs.working = some .directory)
    (hfile : fs.node? (fs.working ++ [name]) = some (.file content executable)) :
    fs.readBytes ⟨name⟩ = .ok content := by
  rw [readBytes, stat_name hname hnul hworking hfile nofun]
  rfl

theorem exists_stat_of_readText {p : Path} {text : String} (h : fs.readText p = .ok text) :
    ∃ found, fs.stat p = .ok found := by
  cases hstat : fs.stat p with
  | error cause => simp [readText, readBytes, hstat, bind, Except.bind] at h
  | ok found => exact ⟨found, rfl⟩

/-- Bytes that encode a text are read as this text. -/
theorem readText_of_readBytes {p : Path} {text : String} (h : fs.readBytes p = .ok text.toUTF8) :
    fs.readText p = .ok text := by
  have hdecode : String.fromUTF8? text.toUTF8 = some text := by
    rw [String.fromUTF8?]
    exact dif_pos text.isValidUTF8
  rw [readText, h]
  simp only [bind, Except.bind, hdecode]

/-- A text file in the working directory is read by its name. -/
theorem readText_name {text : String} {executable : Bool} (hname : IsName name) (hnul : '\x00' ∉ name.toList)
    (hworking : fs.node? fs.working = some .directory)
    (hfile : fs.node? (fs.working ++ [name]) = some (.file text.toUTF8 executable)) :
    fs.readText ⟨name⟩ = .ok text :=
  readText_of_readBytes (readBytes_name hname hnul hworking hfile)

/-- From the start of its path a directory is found, and its entries are looked up from there. -/
theorem follow_join {dir : Path} (hdir : fs.stat dir = .ok (l, .directory)) (hname : IsName name) :
    ∃ left ≤ maxLinks, ∀ followLast,
      fs.follow followLast maxLinks (start (dir.join name) fs.working) (steps (dir.join name)) =
        fs.follow followLast left l [name] := by
  obtain ⟨hlocate, hl⟩ := stat_eq_ok_iff.1 hdir
  have hne := text_ne_of_locate hlocate
  obtain ⟨todo, hjoin, hsteps⟩ := steps_join hne hname
  have htodo : fs.follow true maxLinks (start dir fs.working) todo = .ok l := by
    have hfollow := follow_of_locate hlocate
    rcases hsteps with hsteps | hsteps
    · rw [← hsteps]
      exact hfollow
    · exact follow_of_append_current (hsteps ▸ hfollow)
  obtain ⟨left, hleft, hmore⟩ := follow_append htodo
  refine ⟨left, hleft, fun b => ?_⟩
  rw [start_join hne hname, hjoin]
  exact hmore b [name] (by simp)

end FirmwareSymbols.FileSystem
