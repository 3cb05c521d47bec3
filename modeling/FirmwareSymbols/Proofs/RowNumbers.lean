import FirmwareSymbols.Proofs.Policy
import FirmwareSymbols.Proofs.Text.Digits
import Mathlib.Data.List.Basic

/-!
# The numbers of accepted rows

A policy numbers the rows of a table before it drops any of them. What it keeps and what it logs are therefore told by
the accepted rows with their numbers (`Policy.numberedFrom`), by induction on the rows with the first number
generalised (`map_fst_numberedFrom`, `log_filterFrom`). The number can be read off the front of a line
(`rowNumber?_acceptedLine`).
-/

namespace FirmwareSymbols.Policy

/-- The accepted rows with their numbers, of rows that are numbered from `first` on. -/
def numberedFrom (policy : Policy) (first : Nat) (symbols : List Symbol) : List (Symbol × Nat) :=
  (symbols.zipIdx first).filter fun e => policy.accepts e.1

/-- The accepted rows with their positions in the table. -/
def numbered (policy : Policy) (symbols : List Symbol) : List (Symbol × Nat) := policy.numberedFrom 0 symbols

/-- The number that a line starts with. -/
def rowNumber? (line : String) : Option Nat := (Text.number? line.toList).map Prod.fst

variable {policy : Policy} {first row : Nat} {s : Symbol} {symbols : List Symbol}

private theorem numberedFrom_cons : policy.numberedFrom first (s :: symbols) =
    if policy.accepts s then (s, first) :: policy.numberedFrom (first + 1) symbols
    else policy.numberedFrom (first + 1) symbols := by
  rw [numberedFrom, List.zipIdx_cons, List.filter_cons]
  rfl

/-! ### Rows and their numbers -/

theorem mem_numbered_iff : (s, row) ∈ policy.numbered symbols ↔ symbols[row]? = some s ∧ policy.accepts s = true := by
  rw [numbered, numberedFrom, List.mem_filter, List.mem_zipIdx_iff_getElem?]

theorem pairwise_numberedFrom (policy : Policy) (first : Nat) (symbols : List Symbol) :
    ((policy.numberedFrom first symbols).map Prod.snd).Pairwise (· < ·) := by
  have hall : ((symbols.zipIdx first).map Prod.snd).Pairwise (· < ·) := by
    rw [List.zipIdx_map_snd]
    exact List.pairwise_lt_range'
  exact hall.sublist (List.filter_sublist.map Prod.snd)

/-- Dropping rows and forgetting the numbers can be done in either order. -/
theorem map_fst_numberedFrom (policy : Policy) (first : Nat) (symbols : List Symbol) :
    (policy.numberedFrom first symbols).map Prod.fst = symbols.filter policy.accepts := by
  induction symbols generalizing first with
  | nil => rfl
  | cons s symbols ih =>
    rw [numberedFrom_cons, List.filter_cons]
    by_cases h : policy.accepts s
    · rw [if_pos h, if_pos h, List.map_cons, ih]
    · rw [if_neg h, if_neg h, ih]

/-! ### What is kept and what is logged -/

/-- There is one line for each row that is kept, with the number of the row among all rows. -/
theorem log_filterFrom (policy : Policy) (first : Nat) (symbols : List Symbol) :
    (policy.filterFrom first symbols).log =
      (policy.numberedFrom first symbols).map fun e => ⟨.debug, acceptedLine e.2 e.1⟩ := by
  induction symbols generalizing first with
  | nil => rfl
  | cons s symbols ih =>
    unfold filterFrom
    rw [numberedFrom_cons]
    by_cases h : policy.accepts s
    · have hline : (Logged.debug (acceptedLine first s)).log = [⟨.debug, acceptedLine first s⟩] := rfl
      rw [if_pos h, if_pos h, Logged.log_bind, Logged.log_bind, Logged.log_pure, hline, ih, List.append_nil,
        List.map_cons, List.singleton_append]
    · rw [if_neg h, if_neg h, ih]

theorem rowNumber?_acceptedLine (row : Nat) (s : Symbol) : rowNumber? (acceptedLine row s) = some row := by
  obtain ⟨rest, hline⟩ : ∃ rest, (acceptedLine row s).toList = Nat.toDigits 10 row ++ ':' :: rest := by
    refine ⟨" ".toList ++ s.name.toList ++ " bind:".toList ++ s.binding.name.toList ++ " type:".toList ++
      s.kind.name.toList ++ " vis:".toList ++ s.visibility.name.toList, ?_⟩
    have hrow : (toString row).toList = Nat.toDigits 10 row := String.toList_ofList
    have hcolon : ": ".toList = ':' :: " ".toList := by decide
    simp only [acceptedLine, String.toList_append, hrow, hcolon, List.append_assoc, List.cons_append]
  have hcolon : ∀ c ∈ (':' :: rest).head?, Text.isDigit c = false := by
    intro c hc
    obtain rfl := Option.some.inj hc
    decide
  rw [rowNumber?, hline, Text.number?_toDigits row hcolon, Option.map_some]

/-- The policies have no row in common: one wants it undefined, the other one defined. -/
theorem not_accepts_provided_of_accepts_required (h : required.accepts s = true) : provided.accepts s = false := by
  rw [Bool.eq_false_iff]
  intro hprovided
  exact (accepts_provided_iff.1 hprovided).2.2.2.1 (accepts_required_iff.1 h).2.2

/-- The rows that a policy keeps are all accepted rows in table order. It logs one line for each of them, in the same
order, that starts with the position of the row in the table, so these numbers are strictly ascending. No row is kept
by both policies, and what a policy has kept it keeps as it is. -/
theorem filter_keeps_order_and_numbers (policy : Policy) (symbols others : List Symbol) :
    (policy.filter symbols).result = symbols.filter policy.accepts ∧
    (policy.filter symbols).result = (policy.numbered symbols).map Prod.fst ∧
    (∀ s row, (s, row) ∈ policy.numbered symbols ↔ symbols[row]? = some s ∧ policy.accepts s = true) ∧
    ((policy.numbered symbols).map Prod.snd).Pairwise (· < ·) ∧
    (policy.filter symbols).log = (policy.numbered symbols).map (fun e => ⟨.debug, acceptedLine e.2 e.1⟩) ∧
    (policy.filter symbols).log.map (fun r => rowNumber? r.message) =
      (policy.numbered symbols).map (fun e => some e.2) ∧
    (required.filter symbols).result.Disjoint (provided.filter others).result ∧
    (policy.filter (policy.filter symbols).result).result = (policy.filter symbols).result := by
  have hlog : (policy.filter symbols).log =
      (policy.numbered symbols).map (fun e => ⟨.debug, acceptedLine e.2 e.1⟩) := by
    rw [filter, numbered, log_filterFrom]
  refine ⟨result_filter policy symbols, ?_, fun s row => mem_numbered_iff, pairwise_numberedFrom policy 0 symbols, hlog,
    ?_, ?_, ?_⟩
  · rw [result_filter, numbered, map_fst_numberedFrom]
  · rw [hlog, List.map_map]
    refine List.map_congr_left fun e _ => ?_
    rw [Function.comp_apply, rowNumber?_acceptedLine]
  · intro s hrequired hprovided
    rw [result_filter, List.mem_filter] at hrequired hprovided
    rw [not_accepts_provided_of_accepts_required hrequired.2] at hprovided
    exact Bool.false_ne_true hprovided.2
  · rw [result_filter, result_filter, List.filter_filter]
    simp only [Bool.and_self]

end FirmwareSymbols.Policy
