import FirmwareSymbols.Main.Script.Regex
import FirmwareSymbols.Main.Script.Utility.Basic

/-!
# Expressions in words

The program evaluates an expression whose operands and operators are words: numbers, texts, comparisons and matches.
-/

namespace FirmwareSymbols.Script.Utility

/-- The value of an operation of `expr` on two texts. -/
def operation? (operator a b : String) : Option (Except String String) :=
  let number (s : String) : Option Int := s.toInt?.filter fun _ => s.toList.head? ≠ some '+'
  let arithmetic (f : Int → Int → Except String Int) : Except String String :=
    match number a, number b with
    | some x, some y => (f x y).map toString
    | _, _ => .error "non-integer argument"
  let comparison (test : Ordering → Bool) : Except String String :=
    let order := match number a, number b with
      | some x, some y => compare x y
      | _, _ => if a = b then .eq else if a < b then .lt else .gt
    .ok (if test order then "1" else "0")
  match operator with
  | "+" => some (arithmetic fun x y => .ok (x + y))
  | "-" => some (arithmetic fun x y => .ok (x - y))
  | "*" => some (arithmetic fun x y => .ok (x * y))
  | "/" => some (arithmetic fun x y => if y = 0 then .error "division by zero" else .ok (Int.tdiv x y))
  | "%" => some (arithmetic fun x y => if y = 0 then .error "division by zero" else .ok (Int.tmod x y))
  | "=" | "==" => some (comparison (· = .eq))
  | "!=" => some (comparison (· ≠ .eq))
  | "<" => some (comparison (· = .lt))
  | "<=" => some (comparison (· ≠ .gt))
  | ">" => some (comparison (· = .gt))
  | ">=" => some (comparison (· ≠ .lt))
  | ":" => some do
    let r ← Regex.ofText false (byteChars b)
    let p : Place := { rest := byteChars a }
    let hasGroup := 1 < (b.splitOn "\\(").length
    match r.longest? false p with
    | none => return if hasGroup then "" else "0"
    | some q =>
      match q.groups.lookup 1 with
      | some text => return ofByteChars text
      | none => return if hasGroup then "" else toString (p.upTo q).length
  | _ => none

/-- The operators of `expr`, the weakest first. -/
def expressionLevels : List (List String) :=
  [["|"], ["&"], ["=", "==", "!=", "<", "<=", ">", ">="], ["+", "-"], ["*", "/", "%"], [":"]]

def isNull (text : String) : Bool := text = "" || text = "0" || text.toInt? = some 0

abbrev ExpressionReader := StateT (List String) (Except String)

mutual

def expressionLevel : Nat → List (List String) → ExpressionReader String
  | 0, _ => throw "syntax error"
  | fuel + 1, [] => do
    match ← get with
    | [] => throw "syntax error: missing argument"
    | "(" :: rest =>
      set rest
      let value ← expressionLevel fuel expressionLevels
      match ← get with
      | ")" :: rest =>
        set rest
        return value
      | _ => throw "syntax error: expecting ')'"
    | "length" :: word :: rest =>
      set rest
      return toString word.utf8ByteSize
    | "substr" :: word :: place :: length :: rest =>
      set rest
      match place.toNat?, length.toNat? with
      | some p, some n => return if p = 0 then "" else String.ofList ((word.toList.drop (p - 1)).take n)
      | _, _ => return ""
    | "index" :: word :: chars :: rest =>
      set rest
      return toString ((word.toList.findIdx? chars.toList.contains).map (· + 1) |>.getD 0)
    | word :: rest =>
      set rest
      return word
  | fuel + 1, operators :: stronger => do
    expressionRest fuel operators stronger (← expressionLevel fuel stronger)

def expressionRest : Nat → List String → List (List String) → String → ExpressionReader String
  | 0, _, _, _ => throw "syntax error"
  | fuel + 1, operators, stronger, value => do
    match ← get with
    | word :: rest =>
      if !operators.contains word then return value
      set rest
      let other ← expressionLevel fuel stronger
      match word with
      | "|" => expressionRest fuel operators stronger (if isNull value then (if isNull other then "0" else other) else value)
      | "&" => expressionRest fuel operators stronger (if isNull value || isNull other then "0" else value)
      | _ =>
        match operation? word value other with
        | some (.ok value) => expressionRest fuel operators stronger value
        | some (.error fault) => throw fault
        | none => throw "syntax error"
    | [] => return value

end

def expr : Utility := fun _ arguments => do
  let words := if arguments.head? = some "--" then arguments.tail else arguments
  if words.isEmpty then refuse "missing operand" 2
  else
    match (expressionLevel (40 * (words.length + 2)) expressionLevels).run words with
    | .error fault =>
      complain fault
      return 2
    | .ok (_, extra :: _) =>
      complain ("syntax error: unexpected argument " ++ quote extra)
      return 2
    | .ok (value, []) =>
      let status ← writeString (value ++ "\n")
      return if status ≠ 0 then 3 else if isNull value then 1 else 0

end FirmwareSymbols.Script.Utility
