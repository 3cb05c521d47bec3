import FirmwareSymbols.Log

/-!
# Laws of logged computations

Logged computations are a lawful monad. What a sequence of them returns and emits is described by what each of them
does (`result_mapM`, `result_foldlM`), and the notes among the records, those of the level `info`, are collected step
by step (`notes_bind`).
-/

namespace FirmwareSymbols.Logged

variable {α β : Type}

theorem ext {x y : Logged α} (hresult : x.result = y.result) (hlog : x.log = y.log) : x = y := by
  cases x
  cases y
  simp_all

@[simp] theorem result_map (f : α → β) (x : Logged α) : (f <$> x).result = f x.result := rfl

@[simp] theorem log_map (f : α → β) (x : Logged α) : (f <$> x).log = x.log := List.append_nil x.log

instance : LawfulMonad Logged := LawfulMonad.mk' Logged
  (fun x => ext rfl (log_map id x))
  (fun a f => ext rfl (List.nil_append (f a).log))
  (fun x f g => ext rfl (List.append_assoc x.log (f x.result).log (g (f x.result).result).log))

theorem result_mapM (f : α → Logged β) (l : List α) : (l.mapM f).result = l.map fun a => (f a).result := by
  induction l with
  | nil => rfl
  | cons a l ih => simp [ih]

theorem result_foldlM (f : β → α → Logged β) (b : β) (l : List α) :
    (l.foldlM f b).result = l.foldl (fun b a => (f b a).result) b := by
  induction l generalizing b with
  | nil => rfl
  | cons a l ih => simp [ih]

theorem log_forM {f : α → Logged PUnit} (l : List α) : (l.forM f).log = l.flatMap fun a => (f a).log := by
  induction l with
  | nil => rfl
  | cons a l ih =>
    show (f a >>= fun _ => l.forM f).log = _
    rw [log_bind, ih, List.flatMap_cons]

/-! ### Notes -/

/-- The records of the level `info`. -/
def notes (x : Logged α) : List Record := x.log.filter fun r => r.level = .info

@[simp] theorem notes_pure (a : α) : (pure a : Logged α).notes = [] := rfl

@[simp] theorem notes_bind (x : Logged α) (f : α → Logged β) : (x >>= f).notes = x.notes ++ (f x.result).notes := by
  simp [notes]

@[simp] theorem notes_map (f : α → β) (x : Logged α) : (f <$> x).notes = x.notes := by
  simp [notes]

@[simp] theorem notes_debug (message : String) : (debug message).notes = [] := rfl

@[simp] theorem notes_info (message : String) : (info message).notes = [⟨.info, message⟩] := rfl

theorem notes_mapM_eq_nil {f : α → Logged β} (h : ∀ a, (f a).notes = []) (l : List α) : (l.mapM f).notes = [] := by
  induction l with
  | nil => rfl
  | cons a l ih => simp [ih, h]

theorem notes_foldlM_eq_nil {f : β → α → Logged β} (h : ∀ b a, (f b a).notes = []) (b : β) (l : List α) :
    (l.foldlM f b).notes = [] := by
  induction l generalizing b with
  | nil => rfl
  | cons a l ih => simp [ih, h]

theorem notes_forM {f : α → Logged PUnit} (l : List α) : (l.forM f).notes = l.flatMap fun a => (f a).notes := by
  induction l with
  | nil => rfl
  | cons a l ih =>
    show (f a >>= fun _ => l.forM f).notes = _
    rw [notes_bind, ih, List.flatMap_cons]

end FirmwareSymbols.Logged
