import FirmwareSymbols.Demangle.V0.Symbol
import FirmwareSymbols.Proofs.Demangle.Output

/-!
# What is written stays

A printer adds to what is written and takes nothing back, and output that is off stays off (`Appends`). A part that cannot
be read ends normally for the part around it (`IsPart`), so output that is switched off for a part comes back after it
(`outcome_silently`). The rules that put printers together are instances, and the search for instances applies them: each
kind of part only adds to the output if its inner parts do, and therefore so do the parts of every level (`appends_parts`).
-/

namespace FirmwareSymbols.Demangle.V0

variable {α β : Type}

/-! ### Runs -/

/-- How a printer ends, and the state that it leaves. -/
def outcome (p : Printer α) (s : State) : Except Exit α × State := p.run.run s

section

variable {s : State}

theorem outcome_get : outcome (get : Printer State) s = (.ok s, s) := rfl

theorem outcome_modify (g : State → State) : outcome (modify g : Printer PUnit) s = (.ok (), g s) := rfl

theorem outcome_bind (p : Printer α) (f : α → Printer β) (s : State) :
    outcome (p >>= f) s = match outcome p s with
      | (.ok a, t) => outcome (f a) t
      | (.error e, t) => (.error e, t) := by
  rcases h : outcome p s with ⟨e | a, t⟩
  all_goals
    unfold outcome at h ⊢
    rw [ExceptT.run_bind, StateT.run_bind, h]
    rfl

theorem outcome_tryCatch (p : Printer α) (f : Exit → Printer α) (s : State) :
    outcome (tryCatch p f) s = match outcome p s with
      | (.ok a, t) => (.ok a, t)
      | (.error e, t) => outcome (f e) t := by
  rcases h : outcome p s with ⟨e | a, t⟩
  all_goals
    replace h : StateT.run p s = _ := h
    unfold outcome
    simp only [tryCatch, tryCatchThe, MonadExceptOf.tryCatch, ExceptT.tryCatch, ExceptT.run_mk, StateT.run_bind]
    rw [h]
    rfl

theorem outcome_partOr (default : α) (p : Printer α) (s : State) :
    outcome (partOr default p) s = match outcome p s with
      | (.ok a, t) => (.ok a, t)
      | (.error .unread, t) => (.ok default, t)
      | (.error .full, t) => (.error .full, t) := by
  unfold partOr
  rw [outcome_tryCatch]
  rcases outcome p s with ⟨(_ | _) | a, t⟩ <;> rfl

theorem outcome_write (piece : String) (s : State) :
    outcome (write piece) s = match s.output with
      | none => (.ok (), s)
      | some o =>
        match o.write? piece with
        | some o => (.ok (), { s with output := some o })
        | none => (.error .full, s) := by
  rcases s with ⟨cursor, _ | o, binders⟩
  · rfl
  · unfold write
    rw [outcome_bind, outcome_get]
    dsimp only
    cases o.write? piece <;> rfl

end

/-! ### Growing output -/

/-- What is written at the end starts with what was written before; output that is off stays off. -/
inductive GoesOn : Option Output → Option Output → Prop
  | off : GoesOn none none
  | on {o o' : Output} (more : String) (h : o'.text = o.text ++ more) : GoesOn (some o) (some o')

theorem GoesOn.refl (output : Option Output) : GoesOn output output := by
  cases output with
  | none => exact .off
  | some o => exact .on "" String.append_empty.symm

theorem GoesOn.trans {a b c : Option Output} (hab : GoesOn a b) (hbc : GoesOn b c) : GoesOn a c := by
  cases hab with
  | off => exact hbc
  | on more h =>
    cases hbc with
    | on more' h' => exact .on (more ++ more') (by rw [h', h, String.append_assoc])

theorem GoesOn.eq_none {a b : Option Output} (h : GoesOn a b) (ha : a = none) : b = none := by
  cases h with
  | off => rfl
  | on => simp at ha

theorem GoesOn.exists_eq_some {o : Output} {after : Option Output} (h : GoesOn (some o) after) :
    ∃ o', after = some o' := by
  cases h with
  | on => exact ⟨_, rfl⟩

theorem GoesOn.text_eq_empty {before after : Option Output} {o' : Output} (h : GoesOn before after)
    (ho' : after = some o') (htext : o'.text = "") : ∃ o, before = some o ∧ o.text = "" := by
  cases h with
  | off => simp at ho'
  | @on o _ more hmore =>
    obtain rfl := Option.some.inj ho'
    rw [hmore, String.append_eq_empty_iff] at htext
    exact ⟨o, rfl, htext.1⟩

/-- The printer only adds to the output, which has room for everything while it is off. -/
class Appends (p : Printer α) : Prop where
  goesOn (s : State) : GoesOn s.output (outcome p s).2.output
  not_full (s : State) (h : s.output = none) : (outcome p s).1 ≠ .error .full

/-- The printer ends normally where it cannot read. -/
class IsPart (p : Printer α) : Prop where
  not_unread (s : State) : (outcome p s).1 ≠ .error .unread

section

variable {p q : Printer α} {f : α → Printer β}

theorem appends_bind (hp : Appends p) (hf : ∀ a, Appends (f a)) : Appends (p >>= f) where
  goesOn s := by
    have h := hp.goesOn s
    rw [outcome_bind]
    rcases hrun : outcome p s with ⟨e | a, t⟩ <;> rw [hrun] at h
    · exact h
    · exact h.trans ((hf a).goesOn t)
  not_full s hs := by
    have h := hp.goesOn s
    have hfull := hp.not_full s hs
    rw [outcome_bind]
    rcases hrun : outcome p s with ⟨e | a, t⟩ <;> rw [hrun] at h hfull
    · exact fun he => hfull (by rw [← Except.error.inj he])
    · exact (hf a).not_full t (h.eq_none hs)

theorem appends_modify {g : State → State} (hg : ∀ s, (g s).output = s.output) :
    Appends (modify g : Printer PUnit) where
  goesOn s := by
    rw [outcome_modify, hg]
    exact .refl s.output
  not_full _ _ := nofun

instance (a : α) : Appends (pure a : Printer α) := ⟨fun s => .refl s.output, fun _ _ => nofun⟩

instance : Appends (throw .unread : Printer α) := ⟨fun s => .refl s.output, fun _ _ => nofun⟩

instance : Appends (get : Printer State) := ⟨fun s => .refl s.output, fun _ _ => nofun⟩

instance [Appends p] [∀ a, Appends (f a)] : Appends (p >>= f) := appends_bind inferInstance inferInstance

instance {g : α → β} [Appends p] : Appends (g <$> p) := by
  rw [map_eq_pure_bind]
  infer_instance

instance {c : Prop} [Decidable c] [Appends p] [Appends q] : Appends (if c then p else q) := by
  split <;> assumption

instance {g : β → Printer PUnit} [∀ b, Appends (g b)] (l : List β) : Appends (l.forM g) := by
  induction l with
  | nil => exact inferInstanceAs (Appends (pure ()))
  | cons b l ih => exact inferInstanceAs (Appends (g b >>= fun _ => l.forM g))

instance (g : State → Except Fault Cursor) :
    Appends (modify fun s => { s with cursor := g s } : Printer PUnit) := appends_modify fun _ => rfl

instance (g : State → Nat) :
    Appends (modify fun s => { s with binders := g s } : Printer PUnit) := appends_modify fun _ => rfl

end

/-! ### Printers -/

instance (piece : String) : Appends (write piece) where
  goesOn s := by
    rw [outcome_write]
    split
    next => exact .refl s.output
    next o ho =>
      rw [ho]
      split
      next o' ho' => exact .on piece (Output.text_of_write? ho')
      next => exact ho ▸ .refl s.output
  not_full s hs := by
    rw [outcome_write, hs]
    nofun

instance (i : Ident) : Appends (writeIdent i) := by
  unfold writeIdent
  infer_instance

instance {p : Printer α} {default : α} [hp : Appends p] : Appends (partOr default p) where
  goesOn s := by
    have h := hp.goesOn s
    rw [outcome_partOr]
    rcases hrun : outcome p s with ⟨(_ | _) | a, t⟩ <;> rw [hrun] at h <;> exact h
  not_full s hs := by
    have h := hp.not_full s hs
    rw [outcome_partOr]
    rcases hrun : outcome p s with ⟨(_ | _) | a, t⟩ <;> rw [hrun] at h
    · nofun
    · exact h
    · nofun

instance {p : Printer α} {default : α} : IsPart (partOr default p) where
  not_unread s := by
    rw [outcome_partOr]
    rcases outcome p s with ⟨(_ | _) | a, t⟩ <;> simp

instance {p : Printer Unit} : IsPart (part p) := inferInstanceAs (IsPart (partOr () p))

instance appends_part {p : Printer Unit} [Appends p] : Appends (part p) := by
  unfold part
  infer_instance

instance (fault : Fault) : Appends (fail fault : Printer α) := by
  unfold fail
  infer_instance

instance : Appends (invalid : Printer α) := by
  unfold invalid
  infer_instance

instance (reader : Reader α) : Appends (read reader) := by
  refine appends_bind inferInstance fun s => ?_
  split
  · infer_instance
  · split <;> infer_instance

instance : Appends requireCursor := by
  unfold requireCursor
  infer_instance

instance (x : Char) : Appends (accept x) := by
  refine appends_bind inferInstance fun s => ?_
  split
  · infer_instance
  · split <;> infer_instance

instance : Appends hasFailed := by
  refine appends_bind inferInstance fun s => ?_
  split <;> infer_instance

instance : Appends isWriting := by
  unfold isWriting
  infer_instance

/-- A part is always left the normal way while output is off, so output comes back at its old place. -/
theorem outcome_silently (p : Printer Unit) [hp : Appends p] [hpart : IsPart p] (s : State) :
    ∃ t : State, outcome (silently p) s = (.ok (), { t with output := s.output }) := by
  have hfull := hp.not_full { s with output := none } rfl
  have hunread := hpart.not_unread { s with output := none }
  unfold silently
  simp only [outcome_bind, outcome_get, outcome_modify]
  rcases hrun : outcome p { s with output := none } with ⟨(_ | _) | a, t⟩ <;> rw [hrun] at hfull hunread
  · exact absurd rfl hunread
  · exact absurd rfl hfull
  · exact ⟨t, rfl⟩

instance {p : Printer Unit} [Appends p] [IsPart p] : Appends (silently p) where
  goesOn s := by
    obtain ⟨t, ht⟩ := outcome_silently p s
    rw [ht]
    exact .refl s.output
  not_full s _ := by
    obtain ⟨t, ht⟩ := outcome_silently p s
    rw [ht]
    nofun

instance {default : α} : Appends (atReference default none) := by
  unfold atReference
  dsimp only
  infer_instance

instance {default : α} {p : Printer α} [Appends p] : Appends (atReference default (some p)) := by
  unfold atReference
  dsimp only
  infer_instance

instance {item : Printer Unit} {separator : String} [Appends item] (fuel count : Nat) :
    Appends (separatedFrom item separator fuel count) := by
  induction fuel generalizing count with
  | zero => exact inferInstanceAs (Appends (pure count))
  | succ fuel ih =>
    unfold separatedFrom
    infer_instance

instance : Appends fuel := by
  refine appends_bind inferInstance fun s => ?_
  split <;> infer_instance

instance {item : Printer Unit} {separator : String} [Appends item] : Appends (separated item separator) := by
  unfold separated
  infer_instance

instance (index : Nat) : Appends (writeLifetime index) := by
  unfold writeLifetime
  infer_instance

instance (n : Nat) (first : Bool) : Appends (bindLifetimes n first) := by
  induction n generalizing first with
  | zero => exact inferInstanceAs (Appends (pure ()))
  | succ n ih =>
    unfold bindLifetimes
    infer_instance

instance appends_withBinder {p : Printer Unit} [Appends p] : Appends (withBinder p) := by
  unfold withBinder
  infer_instance

/-! ### Parts -/

class Parts.Appends (inner : Parts) : Prop where
  path (inValue : Bool) : V0.Appends (inner.path inValue)
  isPart_path (inValue : Bool) : IsPart (inner.path inValue)
  type : V0.Appends inner.type
  const (inValue : Bool) : V0.Appends (inner.const inValue)
  pattern : V0.Appends inner.pattern
  openPath : V0.Appends inner.openPath
  pathReference (inValue : Bool) : V0.Appends (inner.pathReference inValue)
  typeReference : V0.Appends inner.typeReference
  constReference (inValue : Bool) : V0.Appends (inner.constReference inValue)

attribute [instance] Parts.Appends.path Parts.Appends.isPart_path Parts.Appends.type Parts.Appends.const
  Parts.Appends.pattern
  Parts.Appends.openPath Parts.Appends.pathReference Parts.Appends.typeReference Parts.Appends.constReference

section

variable {inner : Parts} [inner.Appends]

-- The search counts an instance twice for each printer that runs before it.
set_option synthInstance.maxSize 8192

instance : Appends (genericArgument inner) := by
  unfold genericArgument
  infer_instance

instance : Appends crateRoot := by
  unfold crateRoot
  infer_instance

instance (space : Option Char) (dis : Nat) (name : Ident) : Appends (writeNested space dis name) := by
  unfold writeNested
  split
  · dsimp only
    infer_instance
  · infer_instance

instance (inValue : Bool) : Appends (nestedPath inner inValue) := by
  unfold nestedPath
  infer_instance

instance (hasBlock hasTrait : Bool) : Appends (implPath inner hasBlock hasTrait) := by
  unfold implPath
  dsimp only
  infer_instance

instance (inValue : Bool) : Appends (genericPath inner inValue) := by
  unfold genericPath
  infer_instance

/-- A path whose kind is told by the letter that has been read. -/
def pathOf (inner : Parts) (inValue : Bool) : Char → Printer Unit
  | 'C' => crateRoot
  | 'N' => nestedPath inner inValue
  | 'M' => implPath inner true false
  | 'X' => implPath inner true true
  | 'Y' => implPath inner false true
  | 'I' => genericPath inner inValue
  | 'B' => inner.pathReference inValue
  | _ => invalid

theorem pathFrom_eq (inner : Parts) (inValue : Bool) :
    pathFrom inner inValue = part (requireCursor >>= fun _ => read next >>= pathOf inner inValue) := rfl

instance (inValue : Bool) (tag : Char) : Appends (pathOf inner inValue tag) := by
  unfold pathOf
  split <;> infer_instance

instance (inValue : Bool) : Appends (pathFrom inner inValue) := by
  rw [pathFrom_eq]
  infer_instance

instance {path : Printer Unit} {target : Option (Printer Bool)} [Appends path] [Appends (atReference false target)] :
    Appends (openPathFrom inner path target) := by
  unfold openPathFrom
  infer_instance

instance (mutable : Bool) : Appends (referenceType inner mutable) := by
  unfold referenceType
  dsimp only
  infer_instance

instance (mutable : Bool) : Appends (pointerType inner mutable) := by
  unfold pointerType
  infer_instance

instance (hasLength : Bool) : Appends (arrayType inner hasLength) := by
  unfold arrayType
  infer_instance

instance {item : Printer Unit} [Appends item] : Appends (tuple item) := by
  unfold tuple
  infer_instance

instance : Appends convention := by
  unfold convention
  infer_instance

instance : Appends (functionType inner) := by
  refine @appends_withBinder _ (appends_bind inferInstance fun _ => appends_bind inferInstance fun name => ?_)
  cases name
  all_goals
    dsimp only
    infer_instance

instance (fuel : Nat) (isOpen : Bool) : Appends (associatedItems inner fuel isOpen) := by
  induction fuel generalizing isOpen with
  | zero => exact inferInstanceAs (Appends (pure isOpen))
  | succ fuel ih =>
    unfold associatedItems
    infer_instance

instance : Appends (traitBound inner) := by
  unfold traitBound
  infer_instance

instance : Appends (traitObject inner) := by
  unfold traitObject
  dsimp only
  infer_instance

instance (tag : Char) : Appends (compoundType inner tag) := by
  unfold compoundType
  split <;> infer_instance

instance : Appends typeTag := by
  unfold typeTag
  infer_instance

instance {compound : Char → Printer Unit} [∀ tag, Appends (compound tag)] : Appends (typeFrom compound) := by
  refine @appends_part _ (appends_bind inferInstance fun tag => ?_)
  split <;> infer_instance

instance : Appends writeNumber := by
  refine appends_bind inferInstance fun digits => ?_
  split <;> infer_instance

instance (quote : Char) (text : List Char) : Appends (writeQuoted quote text) := by
  unfold writeQuoted
  infer_instance

instance : Appends stringLiteral := by
  refine @appends_part _ (appends_bind inferInstance fun digits => ?_)
  split <;> infer_instance

instance : Appends boolLiteral := by
  refine appends_bind inferInstance fun digits => ?_
  split <;> infer_instance

instance : Appends charLiteral := by
  refine appends_bind inferInstance fun digits => ?_
  split <;> infer_instance

instance (inValue : Bool) {p : Printer Unit} [Appends p] : Appends (braced inValue p) := by
  unfold braced
  infer_instance

instance : Appends (fieldValue inner) := by
  unfold fieldValue
  infer_instance

instance : Appends (aggregate inner) := by
  refine appends_bind inferInstance fun _ => appends_bind inferInstance fun kind => ?_
  split <;> infer_instance

instance (mutable : Bool) : Appends (referenceConst inner mutable) := by
  unfold referenceConst
  infer_instance

instance (inValue : Bool) (tag : Char) : Appends (constOf inner inValue tag) := by
  unfold constOf
  split
  · infer_instance
  · split
    · infer_instance
    · split <;> infer_instance

instance {rest : Char → Printer Unit} [∀ tag, Appends (rest tag)] : Appends (constFrom rest) := by
  unfold constFrom
  infer_instance

instance {alternative : Printer Unit} [Appends alternative] (fuel : Nat) :
    Appends (furtherAlternatives alternative fuel) := by
  induction fuel with
  | zero => exact inferInstanceAs (Appends (pure ()))
  | succ fuel ih =>
    unfold furtherAlternatives
    infer_instance

instance {const : Printer Unit} [Appends const] : Appends (patternFrom const none) := by
  refine @appends_part _ (appends_bind inferInstance fun tag => ?_)
  split <;> infer_instance

instance {const p : Printer Unit} [Appends const] [Appends p] : Appends (patternFrom const (some p)) := by
  refine @appends_part _ (appends_bind inferInstance fun tag => ?_)
  split <;> infer_instance

/-! ### Levels -/

instance {path const pathReference constReference : Bool → Printer Unit} {type pattern typeReference : Printer Unit}
    {openPath : Printer Bool} [∀ inValue, Appends (path inValue)] [∀ inValue, IsPart (path inValue)] [Appends type]
    [∀ inValue, Appends (const inValue)]
    [Appends pattern] [Appends openPath] [∀ inValue, Appends (pathReference inValue)] [Appends typeReference]
    [∀ inValue, Appends (constReference inValue)] :
    Parts.Appends ⟨path, type, const, pattern, openPath, pathReference, typeReference, constReference⟩ := by
  constructor <;> infer_instance

instance (inValue : Bool) : IsPart (pathFrom inner inValue) := inferInstanceAs (IsPart (part _))

instance : lowestParts.Appends := by
  unfold lowestParts
  dsimp only
  infer_instance

instance : (partsAbove inner).Appends := by
  unfold partsAbove
  dsimp only
  infer_instance

instance appends_parts (depth : Nat) : (parts depth).Appends := by
  induction depth with
  | zero => exact inferInstanceAs lowestParts.Appends
  | succ depth ih => exact inferInstanceAs (partsAbove (parts depth)).Appends

end

end FirmwareSymbols.Demangle.V0
