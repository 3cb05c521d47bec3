import FirmwareSymbols.Main.Script.Arithmetic
import FirmwareSymbols.Main.Script.Change

/-!
# Conditions

The conditions that a script can test: on texts, on numbers and on files, joined by "and", "or" and "not". What a word
means depends on the words around it, so that operators can also be tested as texts.
-/

namespace FirmwareSymbols.Script

inductive ConditionOperator
  | unary
  | binary
  | negation
  | both
  | either
  | opening
  | closing
deriving DecidableEq, Repr

def unaryOperators : List String :=
  ["-r", "-w", "-x", "-e", "-f", "-d", "-c", "-b", "-p", "-u", "-g", "-k", "-s", "-t", "-z", "-n", "-h", "-O", "-G",
    "-L", "-S"]

def binaryOperators : List String :=
  ["=", "!=", "<", ">", "-eq", "-ne", "-ge", "-gt", "-le", "-lt", "-nt", "-ot", "-ef"]

def conditionOperator? (word : String) : Option ConditionOperator :=
  if unaryOperators.contains word then some .unary
  else if binaryOperators.contains word then some .binary
  else
    match word with
    | "!" => some .negation
    | "-a" => some .both
    | "-o" => some .either
    | "(" => some .opening
    | ")" => some .closing
    | _ => none

/-- What the first of some words means; `none` for a word that stands for itself. -/
def leadingOperator? (words : List String) : Option ConditionOperator :=
  match words with
  | [] => none
  | word :: rest =>
    match conditionOperator? word, rest with
    | some .unary, [] => none
    | some .unary, [_] => some .unary
    | some .unary, next :: _ => if conditionOperator? next = some .binary then none else some .unary
    | some .opening, [] => none
    | operator, _ => operator

/-- Why a condition has no verdict. -/
inductive ConditionFault
  | unexpected (word : String)
  | missingArgument (operator : String)
  | unclosed
  | illegalNumber (text : String)
deriving DecidableEq, Repr

def ConditionFault.text : ConditionFault → String
  | unexpected word => (if word = "" then "" else word ++ ": ") ++ "unexpected operator"
  | missingArgument operator => operator ++ ": argument expected"
  | unclosed => "closing paren expected"
  | illegalNumber text => "Illegal number: " ++ text

/-- A number with blanks around it. -/
def conditionNumber (text : String) : Except ConditionFault Int :=
  let (sign, digits) := match text.toList.dropWhile isSpace with
    | '-' :: rest => ((-1 : Int), rest)
    | '+' :: rest => (1, rest)
    | s => (1, s)
  match Text.number? digits with
  | some (n, rest) =>
    if rest.all isSpace && n ≤ (if sign < 0 then largest + 1 else largest) then .ok (sign * n)
    else .error (.illegalNumber text)
  | none => .error (.illegalNumber text)

/-- The verdict on a file. -/
def fileCondition (files : FileSystem) (operator path : String) : Bool :=
  let found := files.stat ⟨path⟩
  match operator, found with
  | "-h", _ | "-L", _ =>
    match files.entry ⟨path⟩ with
    | .ok (_, .link _) => true
    | _ => false
  | _, .error _ => false
  | "-r", .ok (_, .sealed ..) => false
  | "-f", .ok (_, .file ..) | "-f", .ok (_, .sealed ..) | "-d", .ok (_, .directory) | "-c", .ok (_, .null) => true
  | "-x", .ok (_, .directory) => true
  | "-x", .ok (_, .file _ executable) | "-x", .ok (_, .sealed _ executable) => executable
  | "-s", .ok (_, .directory) | "-s", .ok (_, .sealed ..) => true
  | "-s", .ok (_, .file content _) => content.size ≠ 0
  | operator, .ok _ => ["-r", "-w", "-e", "-O", "-G"].contains operator

def unaryVerdict (files : FileSystem) (operator operand : String) : Except ConditionFault Bool := do
  match operator with
  | "-z" => return operand = ""
  | "-n" => return operand ≠ ""
  | "-t" =>
    let _ ← conditionNumber operand
    return false
  | _ => return fileCondition files operator operand

def binaryVerdict (files : FileSystem) (a operator b : String) : Except ConditionFault Bool := do
  let compare (test : Int → Int → Bool) : Except ConditionFault Bool := do
    return test (← conditionNumber a) (← conditionNumber b)
  match operator with
  | "=" => return a = b
  | "!=" => return a ≠ b
  | "<" => return a < b
  | ">" => return b < a
  | "-eq" => compare (· = ·)
  | "-ne" => compare (· ≠ ·)
  | "-lt" => compare (· < ·)
  | "-le" => compare (· ≤ ·)
  | "-gt" => compare fun x y => y < x
  | "-ge" => compare fun x y => y ≤ x
  | "-ef" => return files.isSame ⟨a⟩ ⟨b⟩
  | _ => return false

/-! ### Reading -/

/-- A verdict and the words after the last one that it used, which stays in front. -/
abbrev Verdict := Except ConditionFault (Bool × List String)

mutual

/-- Conditions joined by "or"; `operator` is what the first word means. -/
def eitherCondition (files : FileSystem) : Nat → Option ConditionOperator → List String → Verdict
  | 0, _, words => .ok (false, words)
  | fuel + 1, operator, words => do
    let (a, words) ← bothCondition files fuel operator words
    if leadingOperator? words.tail = some .either then
      let (b, words) ← eitherCondition files fuel (leadingOperator? (words.drop 2)) (words.drop 2)
      return (a || b, words)
    else return (a, words)

def bothCondition (files : FileSystem) : Nat → Option ConditionOperator → List String → Verdict
  | 0, _, words => .ok (false, words)
  | fuel + 1, operator, words => do
    let (a, words) ← negatedCondition files fuel operator words
    if leadingOperator? words.tail = some .both then
      let (b, words) ← bothCondition files fuel (leadingOperator? (words.drop 2)) (words.drop 2)
      return (a && b, words)
    else return (a, words)

def negatedCondition (files : FileSystem) : Nat → Option ConditionOperator → List String → Verdict
  | 0, _, words => .ok (false, words)
  | fuel + 1, operator, words => do
    if operator = some .negation then
      if words.tail.isEmpty then return (true, words)
      let (a, words) ← negatedCondition files fuel (leadingOperator? words.tail) words.tail
      return (!a, words)
    else primaryCondition files fuel operator words

def primaryCondition (files : FileSystem) : Nat → Option ConditionOperator → List String → Verdict
  | 0, _, words => .ok (false, words)
  | _, _, [] => .ok (false, [])
  | fuel + 1, operator, word :: rest => do
    match operator, rest with
    | some .opening, _ =>
      if leadingOperator? rest = some .closing then return (false, rest)
      let (a, words) ← eitherCondition files fuel (leadingOperator? rest) rest
      if leadingOperator? words.tail = some .closing then return (a, words.tail) else throw .unclosed
    | some .unary, operand :: _ => return (← unaryVerdict files word operand, rest)
    | some .unary, [] => throw (.missingArgument word)
    | _, second :: more =>
      if leadingOperator? rest = some .binary then
        match more with
        | third :: _ => return (← binaryVerdict files word second third, more)
        | [] => throw (.missingArgument second)
      else return (word ≠ "", word :: rest)
    | _, [] => return (word ≠ "", [word])

end

/-- The verdict on words that are read as one condition. -/
def wholeCondition (files : FileSystem) (operator : Option ConditionOperator) (words : List String) :
    Except ConditionFault Bool := do
  let (verdict, words) ← eitherCondition files (8 * (words.length + 1)) operator words
  match words with
  | word :: _ :: _ => throw (.unexpected word)
  | _ => return verdict

/-- The verdict on words. Few words are read by their number first. -/
def condition (files : FileSystem) : List String → Except ConditionFault Bool
  | [] => .ok false
  | words@(first :: rest) =>
    let isEnclosed := first = "(" && words.getLast? = some ")"
    let plain := wholeCondition files (leadingOperator? words) words
    if words.length = 3 && (rest.head?.bind conditionOperator?) = some .binary then wholeCondition files none words
    else if words.length = 3 || words.length = 4 then
      if isEnclosed then wholeCondition files (leadingOperator? rest.dropLast) rest.dropLast
      else if first = "!" then (condition files rest).map not
      else plain
    else plain

end FirmwareSymbols.Script
