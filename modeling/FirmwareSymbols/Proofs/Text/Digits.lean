import FirmwareSymbols.Text.Digits
import Mathlib.Data.List.TakeWhile
import Mathlib.Data.Nat.Log

/-!
# Digits of numbers

A run of decimal digits is read up to the first other character, and no further (`digits?_append`, `digits?_eq_some`).
The decimal digits of a number are read as this number (`number?_toDigits`). Its hexadecimal digits have its value
(`hexValue_toDigits`), and there is one for each power of 16 that it reaches; zero has one (`utf8ByteSize_toDigits`).
-/

namespace FirmwareSymbols.Text

/-! ### Decimal digits -/

theorem digits?_append {ds rest : List Char} (hne : ds ≠ []) (hds : ∀ c ∈ ds, isDigit c = true)
    (hrest : ∀ c ∈ rest.head?, isDigit c = false) : digits? (ds ++ rest) = some (ds, rest) := by
  have hstop : rest.takeWhile isDigit = [] ∧ rest.dropWhile isDigit = rest := by
    cases rest with
    | nil => exact ⟨rfl, rfl⟩
    | cons c rest =>
      have hc := hrest c rfl
      exact ⟨List.takeWhile_cons_of_neg (by simp [hc]), List.dropWhile_cons_of_neg (by simp [hc])⟩
  have htake : (ds ++ rest).takeWhile isDigit = ds := by
    rw [List.takeWhile_append_of_pos hds, hstop.1, List.append_nil]
  have hdrop : (ds ++ rest).dropWhile isDigit = rest := by
    rw [List.dropWhile_append_of_pos hds, hstop.2]
  obtain ⟨d, ds', rfl⟩ := List.exists_cons_of_ne_nil hne
  rw [digits?, htake, hdrop]

theorem digits?_eq_some {s ds rest : List Char} (h : digits? s = some (ds, rest)) :
    ds ≠ [] ∧ (∀ c ∈ ds, isDigit c = true) ∧ (∀ c ∈ rest.head?, isDigit c = false) ∧ s = ds ++ rest := by
  unfold digits? at h
  split at h
  · simp at h
  next hne =>
    simp only [Option.some.injEq, Prod.mk.injEq] at h
    obtain ⟨rfl, rfl⟩ := h
    refine ⟨hne, fun c hc => List.mem_takeWhile_imp hc, fun c hc => ?_, List.takeWhile_append_dropWhile.symm⟩
    have hstop := List.head?_dropWhile_not isDigit s
    rw [hc] at hstop
    simpa using hstop

theorem digitsValue_concat (digits : List Char) (c : Char) :
    digitsValue (digits ++ [c]) = digitsValue digits * 10 + digitValue c := List.foldl_append

theorem digitsValue_toDigits (n : Nat) : digitsValue (Nat.toDigits 10 n) = n := by
  have hdigit : ∀ d < 10, digitValue (Nat.digitChar d) = d := by decide
  induction n using Nat.strongRecOn with
  | ind n ih =>
    rw [Nat.toDigits_eq_if (by decide)]
    split
    next h =>
      rw [← List.nil_append [_], digitsValue_concat, hdigit n h]
      exact Nat.zero_add n
    next h =>
      rw [digitsValue_concat, ih (n / 10) (by omega), hdigit (n % 10) (Nat.mod_lt n (by decide))]
      exact Nat.div_add_mod' n 10

theorem isDigit_of_mem_toDigits {n : Nat} {c : Char} (h : c ∈ Nat.toDigits 10 n) : isDigit c = true :=
  Nat.isDigit_of_mem_toDigits (by decide) (by decide) h

theorem number?_toDigits {rest : List Char} (n : Nat) (hrest : ∀ c ∈ rest.head?, isDigit c = false) :
    number? (Nat.toDigits 10 n ++ rest) = some (n, rest) := by
  rw [number?, digits?_append Nat.toDigits_ne_nil (fun _ => isDigit_of_mem_toDigits) hrest, Option.map_some]
  exact congrArg (fun m => some (m, rest)) (digitsValue_toDigits n)

/-! ### Hexadecimal digits -/

theorem hexDigit?_digitChar : ∀ d < 16, hexDigit? (Nat.digitChar d) = some d := by decide

/-- A digit that is added at the end moves the others up by one place. -/
theorem hexValue_concat (digits : List Char) (c : Char) :
    hexValue (digits ++ [c]) = hexValue digits * 16 + (hexDigit? c).getD 0 := List.foldl_append

theorem hexValue_toDigits (n : Nat) : hexValue (Nat.toDigits 16 n) = n := by
  induction n using Nat.strongRecOn with
  | ind n ih =>
    rw [Nat.toDigits_eq_if (by decide)]
    split
    next h =>
      rw [← List.nil_append [_], hexValue_concat, hexDigit?_digitChar n h]
      exact Nat.zero_add n
    next h =>
      rw [hexValue_concat, ih (n / 16) (by omega), hexDigit?_digitChar (n % 16) (Nat.mod_lt n (by decide)),
        Option.getD_some]
      exact Nat.div_add_mod' n 16

theorem isSome_hexDigit?_of_mem_toDigits {n : Nat} {c : Char} (h : c ∈ Nat.toDigits 16 n) :
    (hexDigit? c).isSome = true := by
  induction n using Nat.strongRecOn with
  | ind n ih =>
    rw [Nat.toDigits_eq_if (by decide)] at h
    split at h
    next hn =>
      rw [List.mem_singleton.1 h, hexDigit?_digitChar n hn]
      rfl
    next hn =>
      rcases List.mem_append.1 h with h | h
      · exact ih (n / 16) (by omega) h
      · rw [List.mem_singleton.1 h, hexDigit?_digitChar (n % 16) (Nat.mod_lt n (by decide))]
        rfl

/-- Each digit is one byte. -/
theorem utf8ByteSize_toDigits (n : Nat) : (String.ofList (Nat.toDigits 16 n)).utf8ByteSize = Nat.log 16 n + 1 := by
  have hdigit : ∀ d < 16, (String.ofList [Nat.digitChar d]).utf8ByteSize = 1 := by decide
  induction n using Nat.strongRecOn with
  | ind n ih =>
    rw [Nat.toDigits_eq_if (by decide)]
    split
    next h => rw [hdigit n h, Nat.log_of_lt h]
    next h =>
      rw [String.ofList_append, String.utf8ByteSize_append, ih (n / 16) (by omega),
        hdigit (n % 16) (Nat.mod_lt n (by decide)), Nat.log_of_one_lt_of_le (by decide) (Nat.le_of_not_lt h)]

end FirmwareSymbols.Text
