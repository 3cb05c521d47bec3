import FirmwareSymbols.Text.Digits

/-!
# Punycode

Characters outside ASCII are inserted one by one into a text of the ASCII ones. Each is written as the distance to
the one before it in the order of code points and positions, in digits of base 36 whose last one is marked by
lying below a threshold. Numbers have to stay below `2 ^ 64`.
-/

namespace FirmwareSymbols.Text.Punycode

def bound : Nat := Nat.pow 2 64

/-- The bounded number, if it is in range. -/
def checked (n : Nat) : Option Nat := if n < bound then some n else none

def digit? (c : Char) : Option Nat :=
  if 'a' ≤ c && c ≤ 'z' then some (c.toNat - 'a'.toNat)
  else if '0' ≤ c && c ≤ '9' then some (26 + (c.toNat - '0'.toNat))
  else none

/-- A digit at this position is the last one if it is below the threshold. -/
def threshold (position bias : Nat) : Nat := min (max (position - bias) 1) 26

/-- One distance and the digits after it. -/
def delta? (bias position weight delta : Nat) : List Char → Option (Nat × List Char)
  | [] => none
  | c :: rest => do
    let d ← digit? c
    let sum ← checked (delta + (← checked (d * weight)))
    let t := threshold position bias
    if d < t then return (sum, rest)
    else delta? bias (position + 36) (← checked (weight * (36 - t))) sum rest

theorem length_delta?_lt {bias position weight delta n : Nat} {s rest : List Char}
    (h : delta? bias position weight delta s = some (n, rest)) : rest.length < s.length := by
  induction s generalizing position weight delta with
  | nil => simp [delta?] at h
  | cons c s ih =>
    simp only [delta?, Option.pure_def, Option.bind_eq_bind, Option.bind_eq_some_iff] at h
    obtain ⟨d, _, p, _, sum, _, h⟩ := h
    split at h
    · simp only [Option.some.injEq, Prod.mk.injEq] at h
      rw [← h.2]; exact Nat.lt_succ_self _
    · simp only [Option.bind_eq_some_iff] at h
      obtain ⟨w, _, h⟩ := h
      exact Nat.lt_succ_of_lt (ih h)

/-- Divides by 35 until the distance is small, and counts the steps in units of 36. -/
def shrink (delta steps : Nat) : Nat × Nat :=
  if 455 < delta then shrink (delta / 35) (steps + 36) else (delta, steps)
termination_by delta
decreasing_by exact Nat.div_lt_self (by omega) (by omega)

/-- The bias after a distance; the first distance counts less. -/
def nextBias (delta size : Nat) (first : Bool) : Nat :=
  let d := if first then delta / 700 else delta / 2
  let (small, steps) := shrink (d + d / size) 0
  steps + 36 * small / (small + 38)

/-- At most this many characters are put together. -/
def maxLength : Nat := 128

/-- Inserts the characters that the digits tell. `next` is the position after the last inserted one. -/
def insertAll (bias code next : Nat) (first : Bool) (text : List Char) (digits : List Char) :
    Option (List Char) :=
  match _h : delta? bias 36 1 0 digits with
  | none => none
  | some (delta, rest) => do
    let size := text.length + 1
    let sum ← checked (next + delta)
    let code' ← checked (code + sum / size)
    let c ← Text.char? code'
    if maxLength < size then none
    else
      let text' := text.insertIdx (sum % size) c
      if rest.isEmpty then some text'
      else insertAll (nextBias delta size first) code' (sum % size + 1) false text' rest
termination_by digits.length
decreasing_by exact length_delta?_lt _h

/-- Puts the characters that the digits tell into the ASCII text; there has to be at least one. -/
def decode? (ascii digits : List Char) : Option (List Char) :=
  if maxLength < ascii.length then none else insertAll 72 128 0 true ascii digits

end FirmwareSymbols.Text.Punycode
