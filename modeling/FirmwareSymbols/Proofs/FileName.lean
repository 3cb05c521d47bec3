import FirmwareSymbols.Proofs.Path

/-!
# Stems and extensions

A file name is cut at its last dot, unless there is none or it comes first. So the names with an extension are those that
are put together from a stem that is not empty, a dot and an extension without dots (`splitName_snd_eq_some_iff`), and
each is put together in one way (`splitName_concat`).
-/

namespace FirmwareSymbols.Path

variable {name stem ext : String}

/-- A name without a dot is not cut. -/
theorem splitName_of_not_mem (h : '.' ∉ name.toList) : splitName name = (name, none) := by
  rw [splitName, Text.splitText, Text.splitAt_of_not_mem h]
  rfl

/-- A name is cut at its last dot unless nothing stands before it. -/
theorem splitName_of_toList {before after : List Char} (hname : name.toList = before ++ '.' :: after)
    (hafter : '.' ∉ after) :
    splitName name = if before = [] then (name, none) else (String.ofList before, some (String.ofList after)) := by
  obtain ⟨front, last, hpieces⟩ :=
    (List.eq_nil_or_concat' (Text.splitAt '.' before)).resolve_left (Text.splitAt_ne_nil '.' before)
  have hbefore : before = ['.'].intercalate (front ++ [last]) := by
    rw [← hpieces, Text.splitAt_eq_splitOn, List.intercalate_splitOn]
  have hparts : (Text.splitText '.' name).reverse =
      String.ofList after :: String.ofList last :: (front.map String.ofList).reverse := by
    rw [Text.splitText, hname, Text.splitAt_append, Text.splitAt_of_not_mem hafter, hpieces]
    simp
  have hstem : String.intercalate "." (String.ofList last :: (front.map String.ofList).reverse).reverse =
      String.ofList before := by
    rw [← String.toList_inj, String.toList_intercalate, hbefore]
    simp
  have hempty : ((front.map String.ofList).reverse.isEmpty && decide (String.ofList last = "")) = true ↔ before = [] := by
    constructor
    · intro h
      obtain ⟨rfl, rfl⟩ : front = [] ∧ last = [] := by simpa using h
      exact hbefore
    · rintro rfl
      have hpieces : [] ++ [[]] = front ++ [last] := hpieces
      obtain ⟨rfl, hlast⟩ := List.append_inj' hpieces rfl
      obtain rfl := (List.cons.inj hlast).1
      rfl
  rw [splitName, hparts]
  simp only [hstem]
  by_cases h : before = []
  · rw [if_pos (hempty.2 h), if_pos h]
  · rw [if_neg (mt hempty.1 h), if_neg h]

/-- A stem, a dot and an extension without dots are found again. -/
theorem splitName_concat (hstem : stem ≠ "") (hext : '.' ∉ ext.toList) :
    splitName (stem ++ "." ++ ext) = (stem, some ext) := by
  have hname : (stem ++ "." ++ ext).toList = stem.toList ++ '.' :: ext.toList := by simp
  have hbefore : stem.toList ≠ [] := by simpa using hstem
  rw [splitName_of_toList hname hext, if_neg hbefore, String.ofList_toList, String.ofList_toList]

/-- The names with an extension are those that have a dot before it and a stem before the dot. -/
theorem splitName_snd_eq_some_iff :
    (splitName name).2 = some ext ↔ ∃ stem, stem ≠ "" ∧ '.' ∉ ext.toList ∧ name = stem ++ "." ++ ext := by
  constructor
  · intro h
    by_cases hdot : '.' ∈ name.toList
    · -- the first dot of the reversed name is the last one of the name
      obtain ⟨after, before, hreverse, hafter⟩ := List.eq_append_cons_of_mem (List.mem_reverse.2 hdot)
      have hname : name.toList = before.reverse ++ '.' :: after.reverse := by
        rw [← List.reverse_inj, hreverse]
        simp
      have hafter : '.' ∉ after.reverse := by simpa using hafter
      rw [splitName_of_toList hname hafter] at h
      split at h
      · cases h
      next hbefore =>
        obtain rfl := Option.some.inj h
        refine ⟨String.ofList before.reverse, by simpa using hbefore, by simpa using hafter, ?_⟩
        rw [← String.toList_inj, hname]
        simp
    · rw [splitName_of_not_mem hdot] at h
      cases h
  · rintro ⟨stem, hstem, hext, rfl⟩
    rw [splitName_concat hstem hext]

/-! ### Paths of entries -/

/-- A name alone is a path of one component. -/
theorem components_name (hname : IsName name) : components ⟨name⟩ = [.normal name] := by
  have hslash : name.toList.head? ≠ some '/' := fun h => hname.no_slash (List.mem_of_head? h)
  have habsolute : isAbsolute ⟨name⟩ = false := by simp [isAbsolute, hslash]
  have hparts : parts ⟨name⟩ = [name] := by
    simp [parts, Text.splitText, Text.splitAt_of_not_mem hname.no_slash]
  have hcomponent : component? name = some (.normal name) := by
    rw [component?, if_neg (by simp [hname.nonempty, hname.not_dot]), if_neg hname.not_dots]
  rw [components, if_neg (by simp [habsolute]), hparts]
  split
  next rest heq => exact absurd (List.cons.inj heq).1 hname.not_dot
  next => simp [hcomponent]

/-- The path of an entry has one component more than that of the directory, also if the latter is the empty path. -/
theorem components_join_name {dir : Path} (hname : IsName name) :
    (dir.join name).components = dir.components ++ [.normal name] := by
  by_cases hdir : dir.text = ""
  · obtain rfl : dir = ⟨""⟩ := congrArg Path.mk hdir
    have hslash : name.toList.head? ≠ some '/' := fun h => hname.no_slash (List.mem_of_head? h)
    have hjoin : join ⟨""⟩ name = ⟨name⟩ := by simp [join, hslash]
    rw [hjoin, components_name hname]
    rfl
  · exact components_join hdir hname

end FirmwareSymbols.Path
