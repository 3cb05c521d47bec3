import FirmwareSymbols.FileSystem.Resolve
import FirmwareSymbols.Proofs.Text.Split

/-!
# Names, joined paths and their order

The path of an entry is that of its directory with a name at the end: it has one component more (`components_join`) and
leads one step further (`steps_join`). Paths are ordered by a total order of their components, so sorted paths with
different components are strictly ascending (`pairwise_sort`).
-/

namespace FirmwareSymbols

/-! ### Names -/

/-- The text can be the name of an entry of a directory. -/
structure IsName (name : String) : Prop where
  nonempty : name ≠ ""
  not_dot : name ≠ "."
  not_dots : name ≠ ".."
  no_slash : '/' ∉ name.toList
  short : name.utf8ByteSize ≤ FileSystem.maxNameBytes

instance : DecidablePred IsName := fun name =>
  decidable_of_iff (name ≠ "" ∧ name ≠ "." ∧ name ≠ ".." ∧ '/' ∉ name.toList ∧
      name.utf8ByteSize ≤ FileSystem.maxNameBytes)
    ⟨fun ⟨nonempty, not_dot, not_dots, no_slash, short⟩ => ⟨nonempty, not_dot, not_dots, no_slash, short⟩,
      fun h => ⟨h.nonempty, h.not_dot, h.not_dots, h.no_slash, h.short⟩⟩

namespace Path

variable {p : Path} {name : String}

/-- A slash joins a directory with a name, unless the directory has it at its end. -/
theorem toList_join (hp : p.text ≠ "") (hname : IsName name) :
    ∃ body : List Char, (p.join name).text.toList = body ++ '/' :: name.toList ∧
      ((p.text.toList = body ∧ p.text.toList.getLast? ≠ some '/') ∨ p.text.toList = body ++ ['/']) := by
  have hslash : name.toList.head? ≠ some '/' := fun h => hname.no_slash (List.mem_of_head? h)
  rw [join, if_neg hslash]
  by_cases hlast : p.text.toList.getLast? = some '/'
  · obtain ⟨body, hbody⟩ := List.getLast?_eq_some_iff.1 hlast
    refine ⟨body, ?_, .inr hbody⟩
    simp [hbody]
  · refine ⟨p.text.toList, ?_, .inl ⟨rfl, hlast⟩⟩
    simp [hlast, hp]

/-- The parts of a joined path are those of the directory, less an empty one at their end, and the name. -/
theorem parts_join (hp : p.text ≠ "") (hname : IsName name) :
    ∃ parts : List String, parts ≠ [] ∧ (p.join name).parts = parts ++ [name] ∧
      ((p.parts = parts ∧ p.text.toList.getLast? ≠ some '/') ∨
        (p.parts = parts ++ [""] ∧ p.text.toList.getLast? = some '/')) := by
  obtain ⟨body, hjoin, hbody⟩ := toList_join hp hname
  refine ⟨(Text.splitAt '/' body).map String.ofList, ?_, ?_, ?_⟩
  · simpa using Text.splitAt_ne_nil '/' body
  · rw [parts, Text.splitText, hjoin, Text.splitAt_append, Text.splitAt_of_not_mem hname.no_slash]
    simp
  · rcases hbody with ⟨hbody, hlast⟩ | hbody
    · exact .inl ⟨by rw [parts, Text.splitText, hbody], hlast⟩
    · refine .inr ⟨?_, by simp [hbody]⟩
      rw [parts, Text.splitText, hbody, Text.splitAt_append]
      simp [Text.splitAt]

theorem isAbsolute_join (hp : p.text ≠ "") (hname : IsName name) : (p.join name).isAbsolute = p.isAbsolute := by
  obtain ⟨body, hjoin, hbody⟩ := toList_join hp hname
  have hne : p.text.toList ≠ [] := by simpa using hp
  unfold isAbsolute
  rw [hjoin]
  rcases hbody with ⟨hbody, -⟩ | hbody
  · rw [hbody] at hne ⊢
    rw [List.head?_append_of_ne_nil _ hne]
  · rw [hbody]
    cases body <;> rfl

theorem join_text_ne (hp : p.text ≠ "") (hname : IsName name) : (p.join name).text ≠ "" := by
  obtain ⟨body, hjoin, -⟩ := toList_join hp hname
  intro h
  simp [h] at hjoin

/-! ### Components -/

/-- The components of the parts of a relative path. -/
private def relativeComponents : List String → List Component
  | "." :: rest => .current :: rest.filterMap component?
  | all => all.filterMap component?

private theorem components_eq (p : Path) : p.components =
    if p.isAbsolute then .root :: p.parts.filterMap component? else relativeComponents p.parts := rfl

private theorem relativeComponents_append {parts : List String} (h : parts ≠ []) (more : List String) :
    relativeComponents (parts ++ more) = relativeComponents parts ++ more.filterMap component? := by
  obtain ⟨part, rest, rfl⟩ := List.exists_cons_of_ne_nil h
  by_cases hpart : part = "."
  · subst hpart
    simp [relativeComponents]
  · -- only a dot in the first place is a component
    have hother : ∀ l, relativeComponents (part :: l) = (part :: l).filterMap component? := by
      intro l
      unfold relativeComponents
      split
      next heq => exact absurd (List.cons.inj heq).1 hpart
      next => rfl
    rw [List.cons_append, hother, hother, ← List.cons_append, List.filterMap_append]

private theorem component?_name (hname : IsName name) : component? name = some (.normal name) := by
  rw [component?, if_neg (by simp [hname.nonempty, hname.not_dot]), if_neg hname.not_dots]

/-- The path of an entry has one component more than that of the directory. -/
theorem components_join (hp : p.text ≠ "") (hname : IsName name) :
    (p.join name).components = p.components ++ [.normal name] := by
  obtain ⟨parts, hne, hjoin, hparts⟩ := parts_join hp hname
  have hlast : [name].filterMap component? = [.normal name] := by simp [component?_name hname]
  have hempty : [""].filterMap component? = [] := rfl
  rw [components_eq, components_eq, isAbsolute_join hp hname, hjoin]
  rcases hparts with ⟨hparts, -⟩ | ⟨hparts, -⟩
  · rw [hparts, List.filterMap_append, relativeComponents_append hne, hlast]
    split <;> rfl
  · rw [hparts, List.filterMap_append, List.filterMap_append, relativeComponents_append hne,
      relativeComponents_append hne, hlast, hempty, List.append_nil, List.append_nil]
    split <;> rfl

/-- The components of the path that names lead to one after another. -/
theorem components_foldl_join {names : List String} (hp : p.text ≠ "") (hnames : ∀ name ∈ names, IsName name) :
    (names.foldl join p).components = p.components ++ names.map .normal := by
  induction names generalizing p with
  | nil => simp
  | cons name names ih =>
    obtain ⟨hname, hnames⟩ := List.forall_mem_cons.1 hnames
    rw [List.foldl_cons, ih (join_text_ne hp hname) hnames, components_join hp hname, List.append_assoc]
    rfl

/-- Names that lead to the same components are the same. -/
theorem names_eq_of_components_eq {names names' : List String} (hp : p.text ≠ "")
    (hnames : ∀ name ∈ names, IsName name) (hnames' : ∀ name ∈ names', IsName name)
    (h : (names.foldl join p).components = (names'.foldl join p).components) : names = names' := by
  rw [components_foldl_join hp hnames, components_foldl_join hp hnames'] at h
  have hinj : Function.Injective Component.normal := fun _ _ h => Component.normal.inj h
  exact hinj.list_map (List.append_cancel_left h)

theorem fileName?_join (hp : p.text ≠ "") (hname : IsName name) : (p.join name).fileName? = some name := by
  rw [fileName?, components_join hp hname, List.getLast?_concat]

/-- The extension of an entry is that of its name. -/
theorem extension?_join (hp : p.text ≠ "") (hname : IsName name) :
    (p.join name).extension? = (splitName name).2 := by
  rw [extension?, fileName?_join hp hname, Option.bind_some]

end Path

/-! ### The order -/

namespace Component

theorem before_normal {s t : String} : (normal s).before (normal t) = true ↔ s < t := decide_eq_true_iff

theorem before_irrefl (a : Component) : a.before a = false := by
  cases a with
  | normal s =>
    rw [Bool.eq_false_iff, Ne, before_normal]
    exact String.lt_irrefl s
  | _ => rfl

theorem before_trans {a b c : Component} (hab : a.before b = true) (hbc : b.before c = true) : a.before c = true := by
  cases a <;> cases b <;> cases c <;> try contradiction
  case normal.normal.normal s t u => exact before_normal.2 (String.lt_trans (before_normal.1 hab) (before_normal.1 hbc))
  all_goals rfl

theorem eq_or_before (a b : Component) : a = b ∨ a.before b = true ∨ b.before a = true := by
  cases a <;> cases b
  case normal.normal s t =>
    rw [before_normal, before_normal]
    by_cases hst : s < t
    · exact .inr (.inl hst)
    · by_cases hts : t < s
      · exact .inr (.inr hts)
      · exact .inl (congrArg normal (String.le_antisymm hts hst))
  all_goals simp [before, rank]

theorem before_asymm {a b : Component} (hab : a.before b = true) : b.before a = false := by
  rw [Bool.eq_false_iff]
  intro hba
  have := before_trans hab hba
  rw [before_irrefl] at this
  contradiction

end Component

namespace Path

theorem componentsLe_total (l m : List Component) : (componentsLe l m || componentsLe m l) = true := by
  induction l generalizing m with
  | nil => simp [componentsLe]
  | cons a l ih =>
    cases m with
    | nil => simp [componentsLe]
    | cons b m =>
      rcases Component.eq_or_before a b with rfl | h | h
      · simpa [componentsLe, Component.before_irrefl] using ih m
      · simp [componentsLe, h]
      · simp [componentsLe, h]

theorem componentsLe_cons {a b : Component} {l m : List Component} :
    componentsLe (a :: l) (b :: m) = true ↔ a.before b = true ∨ (a = b ∧ componentsLe l m = true) := by
  simp [componentsLe]

theorem componentsLe_trans {l m n : List Component} (hlm : componentsLe l m = true) (hmn : componentsLe m n = true) :
    componentsLe l n = true := by
  induction l generalizing m n with
  | nil => rfl
  | cons a l ih =>
    cases m with
    | nil => cases hlm
    | cons b m =>
      cases n with
      | nil => cases hmn
      | cons c n =>
        rw [componentsLe_cons] at hlm hmn ⊢
        rcases hlm with hab | ⟨rfl, hlm⟩
        · rcases hmn with hbc | ⟨rfl, -⟩
          · exact .inl (Component.before_trans hab hbc)
          · exact .inl hab
        · rcases hmn with hbc | ⟨rfl, hmn⟩
          · exact .inl hbc
          · exact .inr ⟨rfl, ih hlm hmn⟩

theorem componentsLe_antisymm {l m : List Component} (hlm : componentsLe l m = true) (hml : componentsLe m l = true) :
    l = m := by
  induction l generalizing m with
  | nil =>
    cases m with
    | nil => rfl
    | cons b m => cases hml
  | cons a l ih =>
    cases m with
    | nil => cases hlm
    | cons b m =>
      rw [componentsLe_cons] at hlm hml
      rcases hlm with hab | ⟨rfl, hlm⟩
      · rcases hml with hba | ⟨rfl, -⟩
        · rw [Component.before_asymm hab] at hba
          contradiction
        · rw [Component.before_irrefl] at hab
          contradiction
      · rcases hml with haa | ⟨-, hml⟩
        · rw [Component.before_irrefl] at haa
          contradiction
        · rw [ih hlm hml]

theorem mem_sort {paths : List Path} : p ∈ sort paths ↔ p ∈ paths := (List.mergeSort_perm paths le).mem_iff

/-- Paths with different components are strictly ascending once they are sorted. -/
theorem pairwise_sort {paths : List Path} (h : paths.Pairwise fun p q => p.components ≠ q.components) :
    (sort paths).Pairwise fun p q => p.le q = true ∧ q.le p = false := by
  have htrans : ∀ p q r : Path, p.le q = true → q.le r = true → p.le r = true :=
    fun p q r => componentsLe_trans
  have htotal : ∀ p q : Path, (p.le q || q.le p) = true :=
    fun p q => componentsLe_total p.components q.components
  have hsorted : (sort paths).Pairwise fun p q => p.le q = true := List.pairwise_mergeSort htrans htotal paths
  have hne : (sort paths).Pairwise fun p q => p.components ≠ q.components :=
    (List.mergeSort_perm paths le).symm.pairwise h fun hpq => hpq.symm
  refine (hsorted.and hne).imp ?_
  rintro p q ⟨hle, hcomponents⟩
  refine ⟨hle, ?_⟩
  rw [Bool.eq_false_iff]
  intro hge
  exact hcomponents (componentsLe_antisymm hle hge)

/-- Strictly ascending paths are known by which they are. -/
theorem eq_of_ascending {paths paths' : List Path} (h : paths.Pairwise fun p q => p.le q = true ∧ q.le p = false)
    (h' : paths'.Pairwise fun p q => p.le q = true ∧ q.le p = false) (hmem : ∀ p, p ∈ paths ↔ p ∈ paths') :
    paths = paths' := by
  have hne (p q : Path) (hpq : p.le q = true ∧ q.le p = false) : p ≠ q := by
    rintro rfl
    exact nomatch hpq.1.symm.trans hpq.2
  have hperm : paths.Perm paths' := (List.perm_ext_iff_of_nodup (h.imp (hne _ _)) (h'.imp (hne _ _))).2 hmem
  refine hperm.eq_of_pairwise (fun p q _ _ hpq hqp => ?_) h h'
  exact nomatch hpq.1.symm.trans hqp.2

end Path

namespace FileSystem

/-- The path of an entry leads one step further than that of the directory, which may ask for a directory by a slash
at its end. -/
theorem steps_join {p : Path} {name : String} (hp : p.text ≠ "") (hname : IsName name) :
    ∃ todo, steps (p.join name) = todo ++ [name] ∧ (steps p = todo ∨ steps p = todo ++ ["."]) := by
  obtain ⟨parts, hne, hjoin, hparts⟩ := Path.parts_join hp hname
  obtain ⟨body, htext, -⟩ := Path.toList_join hp hname
  have hlast : (p.join name).text.toList.getLast? ≠ some '/' := by
    have hchars : name.toList ≠ [] := by simpa using hname.nonempty
    rw [htext, List.getLast?_append_of_ne_nil _ (by simp), List.getLast?_cons_of_ne_nil hchars]
    exact fun h => hname.no_slash (List.mem_of_getLast? h)
  have hkeep : [name].filter (· ≠ "") = [name] := by simp [hname.nonempty]
  refine ⟨parts.filter (· ≠ ""), ?_, ?_⟩
  · simp only [steps, if_neg hlast, hjoin, List.filter_append, hkeep]
  · rcases hparts with ⟨hparts, hslash⟩ | ⟨hparts, hslash⟩
    · left
      simp only [steps, if_neg hslash, hparts]
    · right
      simp only [steps, if_pos hslash, hparts, List.filter_append]
      simp

end FileSystem

end FirmwareSymbols
