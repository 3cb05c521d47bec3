import FirmwareSymbols.Main.Script.Pattern
import FirmwareSymbols.Main.Script.Utility.Basic

/-!
# Programs that read and write lines

Text is taken as bytes. A line ends in a line feed, which the last one may lack.
-/

namespace FirmwareSymbols.Script.Utility

abbrev Bytes := List UInt8

def bytes (text : String) : Bytes := text.toUTF8.toList

def writeList (data : Bytes) : Action Nat := write ⟨data.toArray⟩

/-- A number, filled up with blanks on the left. -/
def rightAligned (width n : Nat) : String :=
  let digits := toString n
  String.ofList (List.replicate (width - digits.length) ' ') ++ digits

/-- The contents of files, one after another, and the status of reading them. -/
def collect (paths : List String) : Action (Bytes × Nat) := do
  let mut all : ByteArray := .empty
  let mut status := 0
  for path in if paths.isEmpty then ["-"] else paths do
    match ← contentOf path with
    | .ok data => all := all ++ data
    | .error cause =>
      complain (path ++ ": " ++ cause.words)
      status := 1
  return (all.toList, status)

/-! ### Whole files -/

/-- Lines with their numbers, as far as they are numbered. -/
def numbered (skipsEmpty : Bool) : Nat → List Bytes → List Bytes
  | _, [] => []
  | n, line :: rest =>
    if skipsEmpty && line = [10] then line :: numbered skipsEmpty n rest
    else (bytes (rightAligned 6 n ++ "\t") ++ line) :: numbered skipsEmpty (n + 1) rest

/-- Lines without those that are empty like the one before. -/
def squeezed : List Bytes → List Bytes
  | [10] :: [10] :: rest => squeezed ([10] :: rest)
  | line :: rest => line :: squeezed rest
  | [] => []

def cat : Utility := fun _ =>
  withOptions [⟨'n', "number", false⟩, ⟨'b', "number-nonblank", false⟩, ⟨'s', "squeeze-blank", false⟩,
      ⟨'E', "show-ends", false⟩, ⟨'u', "", false⟩] false 1 fun call => do
    if call.options.all fun o => o.1 = 'u' then
      let mut status := 0
      for path in if call.operands.isEmpty then ["-"] else call.operands do
        match ← contentOf path with
        | .ok data => status := max status (← write data)
        | .error cause =>
          complain (path ++ ": " ++ cause.words)
          status := 1
      return status
    else
      let (data, status) ← collect call.operands
      let lines := if call.has 's' then squeezed (linesOf data) else linesOf data
      let lines := if call.has 'E' then lines.map fun l => if l.getLast? = some 10 then l.dropLast ++ [36, 10] else l else lines
      let lines := if call.has 'b' then numbered true 1 lines else if call.has 'n' then numbered false 1 lines else lines
      return max status (← writeList lines.flatten)

def tac : Utility := fun _ arguments => do
  let (data, status) ← collect arguments
  return max status (← writeList (linesOf data).reverse.flatten)

def rev : Utility := fun _ arguments => do
  let (data, status) ← collect arguments
  let turn (l : Bytes) : Bytes := if l.getLast? = some 10 then l.dropLast.reverse ++ [10] else l.reverse
  return max status (← writeList ((linesOf data).map turn).flatten)

def tee : Utility := fun _ =>
  withOptions [⟨'a', "append", false⟩, ⟨'i', "", false⟩] false 1 fun call => do
    let data ← match ← readBytes 0 with
      | .ok data => pure data
      | .error _ => pure .empty
    let mut status ← write data
    for path in call.operands do
      match ← openOutput path (call.has 'a') (call.has 'a') false with
      | .ok s =>
        let number ← newStream s
        writeStream number s data
      | .error cause =>
        complain (path ++ ": " ++ cause.words)
        status := 1
    return status

/-! ### Parts of files -/

/-- An option `-5` is read as one with that number. -/
def withShortCount (letter : String) : List String → List String
  | [] => []
  | word :: rest =>
    match word.toList with
    | '-' :: c :: more =>
      if Text.isDigit c && more.all Text.isDigit then ("-" ++ letter ++ String.ofList (c :: more)) :: rest else word :: rest
    | _ => word :: rest

/-- Writes a part of each file, with its name in front if there are several. -/
def eachPart (call : Call) (part : Bytes → Bytes) : Action Nat := do
  let paths := if call.operands.isEmpty then ["-"] else call.operands
  let showsNames := (1 < paths.length || call.has 'v') && !call.has 'q'
  let mut status := 0
  let mut isFirst := true
  for path in paths do
    match ← contentOf path with
    | .error cause =>
      match cause with
      | .isDirectory => complain ("error reading " ++ quote path ++ ": " ++ cause.words)
      | _ => complain ("cannot open " ++ quote path ++ " for reading: " ++ cause.words)
      status := 1
    | .ok data =>
      if showsNames then
        let name := if path = "-" then "standard input" else path
        let _ ← writeString ((if isFirst then "" else "\n") ++ "==> " ++ name ++ " <==\n")
      isFirst := false
      status := max status (← writeList (part data.toList))
  return status

/-- A count with its sign. -/
def signedCount? (text : String) : Option (Option Char × Nat) :=
  match text.toList with
  | '-' :: rest => (natural? (String.ofList rest)).map fun n => (some '-', n)
  | '+' :: rest => (natural? (String.ofList rest)).map fun n => (some '+', n)
  | _ => (natural? text).map fun n => (none, n)

def partOptions : List Known :=
  [⟨'n', "lines", true⟩, ⟨'c', "bytes", true⟩, ⟨'q', "quiet", false⟩, ⟨'v', "verbose", false⟩, ⟨'f', "follow", false⟩]

/-- Writes the part of each file that a count tells; `take` gets the number of all units. -/
def countedPart (call : Call) (start stop : Option Char → Nat → Nat → Nat) : Action Nat := do
  let inBytes := call.has 'c'
  let text := if inBytes then (call.argument? 'c').getD "" else (call.argument? 'n').getD "10"
  match signedCount? text with
  | none => do
    complain ("invalid number of " ++ (if inBytes then "bytes" else "lines") ++ ": " ++ quote text)
    return 1
  | some (sign, n) =>
    let cut {α : Type} (l : List α) : List α := (l.take (stop sign n l.length)).drop (start sign n l.length)
    eachPart call fun data => if inBytes then cut data else (cut (linesOf data)).flatten

def head : Utility := fun _ arguments =>
  withOptions partOptions false 1
    (fun call => countedPart call (fun _ _ _ => 0) fun sign n count => if sign = some '-' then count - n else n)
    (withShortCount "n" arguments)

def tail : Utility := fun _ arguments =>
  withOptions partOptions false 1
    (fun call => countedPart call (fun sign n count => if sign = some '+' then n - 1 else count - n) fun _ _ count => count)
    (withShortCount "n" arguments)

/-! ### Counting -/

def isSpaceByte (b : UInt8) : Bool := b = 32 || (9 ≤ b && b ≤ 13)

/-- The number of words, where the byte before is a space or not. -/
def countWords : Bool → Bytes → Nat
  | _, [] => 0
  | afterSpace, b :: rest =>
    if isSpaceByte b then countWords true rest else (if afterSpace then 1 else 0) + countWords false rest

def wc : Utility := fun _ =>
  withOptions [⟨'l', "lines", false⟩, ⟨'w', "words", false⟩, ⟨'c', "bytes", false⟩, ⟨'m', "chars", false⟩,
      ⟨'L', "max-line-length", false⟩] false 1 fun call => do
    let all := call.options.isEmpty
    let kinds : List (Bool × (Bytes → Nat)) := [
      (all || call.has 'l', fun d => d.count 10),
      (all || call.has 'w', countWords true),
      (call.has 'm', List.length),
      (all || call.has 'c', List.length),
      (call.has 'L', fun d => ((linesOf d).map fun l => (chomped l).length).foldl max 0)]
    let kinds := (kinds.filter Prod.fst).map Prod.snd
    let paths := if call.operands.isEmpty then ["-"] else call.operands
    let mut rows : List (List Nat × String) := []
    let mut status := 0
    let mut total := 0
    let mut isPlain := true
    for path in paths do
      if path = "-" then
        if let some (_, s) ← stream? 0 then
          if let .pipe _ := s.target then isPlain := false
      match ← contentOf path with
      | .ok data =>
        rows := rows ++ [(kinds.map (· data.toList), if call.operands.isEmpty then "" else path)]
        total := total + data.size
      | .error cause =>
        complain (path ++ ": " ++ cause.words)
        if let .isDirectory := cause then
          rows := rows ++ [(kinds.map fun _ => 0, path)]
          isPlain := false
        status := 1
    let sums := (List.range kinds.length).map fun i => (rows.map fun r => r.1.getD i 0).foldl (· + ·) 0
    let shown := if 1 < paths.length then rows ++ [(sums, "total")] else rows
    let width :=
      if paths.length = 1 && kinds.length = 1 then 1 else max (toString total).length (if isPlain then 1 else 7)
    let line (r : List Nat × String) : String :=
      " ".intercalate (r.1.map (rightAligned width)) ++ (if r.2 = "" then "" else " " ++ r.2) ++ "\n"
    return max status (← writeString (String.join (shown.map line)))

/-! ### Sorting -/

/-- Whether bytes come first, or are the same. -/
def bytesBefore : Bytes → Bytes → Bool
  | [], _ => true
  | _ :: _, [] => false
  | a :: as, b :: bs => a < b || (a = b && bytesBefore as bs)

/-- The number at the front of a line, in thousandths, and whether it is negative. -/
def leadingValue (line : Bytes) : Int :=
  let cs := (line.dropWhile fun b => b = 32 || b = 9).map byteChar
  let (sign, ds) := match cs with
    | '-' :: rest => ((-1 : Int), rest)
    | _ => (1, cs)
  let whole := ds.takeWhile Text.isDigit
  let fraction := match ds.dropWhile Text.isDigit with
    | '.' :: rest => rest.takeWhile Text.isDigit
    | _ => []
  sign * (Text.digitsValue (whole ++ (fraction ++ List.replicate 18 '0').take 18) : Nat)

/-- A key: the fields from the first to the last one, and its options. -/
structure SortKey where
  first : Nat
  last : Option Nat
  letters : List Char

def sortKey? (text : String) : Option SortKey := do
  let (first, rest) ← Text.number? text.toList
  let skipPlace (s : List Char) : List Char := match s with
    | '.' :: more => more.dropWhile Text.isDigit
    | _ => s
  let rest := skipPlace rest
  let letters := rest.takeWhile Char.isAlpha
  match rest.dropWhile Char.isAlpha with
  | [] => some ⟨first, none, letters⟩
  | ',' :: more =>
    let (last, more) ← Text.number? more
    some ⟨first, some last, letters ++ (skipPlace more).takeWhile Char.isAlpha⟩
  | _ => none

/-- The fields of a line: between separators, or each with the blanks in front of it. -/
def fieldsOfLine (separator : Option UInt8) (line : Bytes) : List Bytes :=
  match separator with
  | some s => line.foldr (fun b fields =>
      if b = s then [] :: fields
      else match fields with
        | [] => [[b]]
        | f :: rest => (b :: f) :: rest) [[]]
  | none =>
    let isBlank (b : UInt8) : Bool := b = 32 || b = 9
    (line.foldr (fun b (fields : List Bytes) =>
      match fields with
      | [] => [[b]]
      | f :: rest =>
        match f with
        | c :: _ => if isBlank c && !isBlank b then [b] :: f :: rest else (b :: f) :: rest
        | [] => [b] :: rest) [])

def SortKey.select (k : SortKey) (separator : Option UInt8) (line : Bytes) : Bytes :=
  let fields := (fieldsOfLine separator line).drop (k.first - 1)
  let fields := match k.last with
    | some n => fields.take (n + 1 - k.first)
    | none => fields
  match separator with
  | some s => ([s] : Bytes).intercalate fields
  | none => fields.flatten

/-- Compares lines by letters: numbers, or text with or without regard to case and blanks. -/
def compareBy (letters : List Char) (a b : Bytes) : Ordering :=
  let plain (l : Bytes) : Bytes :=
    let l := if letters.contains 'b' then l.dropWhile (fun c => c = 32 || c = 9) else l
    if letters.contains 'f' then l.map fun c => if 97 ≤ c && c ≤ 122 then c - 32 else c else l
  let order :=
    if letters.contains 'n' || letters.contains 'g' then compare (leadingValue a) (leadingValue b)
    else if plain a = plain b then .eq else if bytesBefore (plain a) (plain b) then .lt else .gt
  if letters.contains 'r' then order.swap else order

def sort : Utility := fun _ =>
  withOptions [⟨'r', "reverse", false⟩, ⟨'n', "numeric-sort", false⟩, ⟨'g', "general-numeric-sort", false⟩,
      ⟨'u', "unique", false⟩, ⟨'f', "ignore-case", false⟩, ⟨'b', "ignore-leading-blanks", false⟩,
      ⟨'s', "stable", false⟩, ⟨'c', "check", false⟩, ⟨'k', "key", true⟩, ⟨'t', "field-separator", true⟩,
      ⟨'o', "output", true⟩] false 2 fun call => do
    let (data, status) ← collect call.operands
    let lines := (linesOf data).map chomped
    let letters := (call.options.map Prod.fst).filter "rngfb".toList.contains
    let separator := (call.argument? 't').bind fun t => (bytes t).head?
    let keys := (call.options.filter fun o => o.1 = 'k').filterMap fun o => sortKey? o.2
    let byKeys (a b : Bytes) : Ordering :=
      if keys.isEmpty then compareBy letters a b
      else keys.foldl (fun o k => o.then
        (compareBy (if k.letters.isEmpty then letters else k.letters) (k.select separator a) (k.select separator b))) .eq
    let last (a b : Bytes) : Ordering :=
      if call.has 's' || call.has 'u' then .eq else compareBy (letters.filter (· = 'r')) a b
    let before (a b : Bytes) : Bool := ((byKeys a b).then (last a b)) ≠ .gt
    if call.has 'c' then
      let pairs := lines.zip lines.tail
      return if pairs.all fun (a, b) => before a b then status else 1
    let sorted := lines.mergeSort before
    let kept := if call.has 'u' then sorted.foldr (fun l (rest : List Bytes) =>
        match rest with
        | m :: more => if byKeys l m = .eq then l :: more else l :: rest
        | [] => [l]) [] else sorted
    let text := (kept.map (· ++ [10])).flatten
    match call.argument? 'o' with
    | none => return max (if status = 1 then 2 else 0) (← writeList text)
    | some path =>
      match ← openOutput path false false false with
      | .error cause =>
        complain ("open failed: " ++ path ++ ": " ++ cause.words)
        return 2
      | .ok s =>
        let number ← newStream s
        writeStream number s ⟨text.toArray⟩
        return if status = 1 then 2 else 0

/-- Lines with the number of times that they follow each other. -/
def runsOf (key : Bytes → Bytes) : List Bytes → List (Nat × Bytes)
  | [] => []
  | line :: rest =>
    match runsOf key rest with
    | (n, next) :: more => if key line = key next then (n + 1, line) :: more else (1, line) :: (n, next) :: more
    | [] => [(1, line)]

def uniq : Utility := fun _ =>
  withOptions [⟨'c', "count", false⟩, ⟨'d', "repeated", false⟩, ⟨'u', "unique", false⟩, ⟨'i', "ignore-case", false⟩]
      false 1 fun call => do
    let (data, status) ← collect (call.operands.take 1)
    let lower (l : Bytes) : Bytes := l.map fun c => if 65 ≤ c && c ≤ 90 then c + 32 else c
    let runs := runsOf (if call.has 'i' then lower else id) ((linesOf data).map chomped)
    let kept := runs.filter fun r => (!call.has 'd' || 1 < r.1) && (!call.has 'u' || r.1 = 1)
    let line (r : Nat × Bytes) : Bytes := (if call.has 'c' then bytes (rightAligned 7 r.1 ++ " ") else []) ++ r.2 ++ [10]
    return max status (← writeList (kept.map line).flatten)

/-! ### Columns and characters -/

/-- Ranges of numbers, each with an end or without. -/
def ranges? (text : String) : Option (List (Nat × Option Nat)) :=
  (text.splitOn ",").mapM fun part =>
    match part.splitOn "-" with
    | [n] => n.toNat?.bind fun n => if n = 0 then none else some (n, some n)
    | ["", last] => last.toNat?.map fun n => (1, some n)
    | [first, ""] => first.toNat?.map fun n => (n, none)
    | [first, last] => first.toNat?.bind fun a => last.toNat?.bind fun b => if b < a then none else some (a, some b)
    | _ => none

def cut : Utility := fun _ =>
  withOptions [⟨'d', "delimiter", true⟩, ⟨'f', "fields", true⟩, ⟨'c', "characters", true⟩, ⟨'b', "bytes", true⟩,
      ⟨'s', "only-delimited", false⟩, ⟨'o', "output-delimiter", true⟩] false 1 fun call => do
    let list := (call.argument? 'f').orElse fun _ => (call.argument? 'c').orElse fun _ => call.argument? 'b'
    match list with
    | none => refuse "you must specify a list of bytes, characters, or fields"
    | some text =>
      match ranges? text with
      | none => refuse ("invalid field value " ++ quote text)
      | some ranges =>
        let isChosen (i : Nat) : Bool := ranges.any fun (a, b) => a ≤ i && b.all (i ≤ ·)
        let choose {α : Type} (l : List α) : List α := (l.zipIdx 1).filterMap fun (x, i) => if isChosen i then some x else none
        let delimiter := (((call.argument? 'd').map bytes).getD [9]).headD 9
        let joint := ((call.argument? 'o').map bytes).getD [delimiter]
        let line (l : Bytes) : Option Bytes :=
          if call.has 'f' then
            if l.contains delimiter then some (joint.intercalate (choose (fieldsOfLine (some delimiter) l)))
            else if call.has 's' then none else some l
          else some (choose l)
        let (data, status) ← collect call.operands
        return max status (← writeList ((linesOf data).filterMap fun l => (line (chomped l)).map (· ++ [10])).flatten)

/-- All bytes. -/
def allBytes : Bytes := (List.range 256).map UInt8.ofNat

/-- A byte of a set, which may be escaped, and the rest. -/
def setByte : Bytes → Option (UInt8 × Bytes)
  | [] => none
  | 92 :: rest =>
    match rest.map byteChar with
    | [] => some (92, [])
    | cs =>
      let digits := (cs.take 3).takeWhile fun c => '0' ≤ c && c ≤ '7'
      if digits.isEmpty then
        let named := [('n', 10), ('t', 9), ('r', 13), ('a', 7), ('b', 8), ('f', 12), ('v', 11)]
        some ((cs.head?.bind fun c => named.lookup c).getD (rest.headD 92), rest.drop 1)
      else some (UInt8.ofNat (digits.foldl (fun n c => n * 8 + Text.digitValue c) 0), rest.drop digits.length)
  | b :: rest => some (b, rest)

/-- The bytes of a set: ranges, classes and single bytes. -/
def setBytes : Nat → Bytes → Bytes
  | 0, _ => []
  | n + 1, s =>
    match s with
    | 91 :: 58 :: rest =>
      let name := String.ofList ((rest.takeWhile (· ≠ 58)).map byteChar)
      match characterClasses.lookup name with
      | some test => allBytes.filter (fun b => test (byteChar b)) ++ setBytes n (rest.drop (name.length + 2))
      | none => 91 :: setBytes n (58 :: rest)
    | _ =>
      match setByte s with
      | none => []
      | some (a, 45 :: rest) =>
        match setByte rest with
        | some (b, rest) => (allBytes.filter fun c => a ≤ c && c ≤ b) ++ setBytes n rest
        | none => [a, 45]
      | some (a, rest) => a :: setBytes n rest

/-- Bytes without those of a set that repeat the one before. -/
def withoutRepeats (set : Bytes) : Bytes → Bytes
  | a :: b :: rest => if a = b && set.contains a then withoutRepeats set (b :: rest) else a :: withoutRepeats set (b :: rest)
  | l => l

def tr : Utility := fun _ =>
  withOptions [⟨'d', "delete", false⟩, ⟨'s', "squeeze-repeats", false⟩, ⟨'c', "complement", false⟩, ⟨'C', "", false⟩,
      ⟨'t', "truncate-set1", false⟩] true 1 fun call => do
    let set (text : String) : Bytes := setBytes (text.utf8ByteSize + 1) (bytes text)
    let complement (s : Bytes) : Bytes := if call.has 'c' || call.has 'C' then allBytes.filter (!s.contains ·) else s
    let data ← match ← readBytes 0 with
      | .ok data => pure data.toList
      | .error _ => pure []
    match call.operands with
    | [] => refuse "missing operand"
    | [one] =>
      let s := complement (set one)
      if call.has 'd' then writeList (data.filter (!s.contains ·))
      else if call.has 's' then writeList (withoutRepeats s data)
      else
        complain ("missing operand after " ++ quote one)
        putError ("Two strings must be given when translating.\nTry '" ++ (← programName) ++
          " --help' for more information.")
        return 1
    | one :: two :: _ =>
      let s := complement (set one)
      let t := set two
      if call.has 'd' then writeList (withoutRepeats t (data.filter (!s.contains ·)))
      else
        let change (b : UInt8) : UInt8 :=
          match s.reverse.idxOf? b with
          | none => b
          | some i =>
            let place := s.length - 1 - i
            (t[place]?).getD (t.getLast?.getD b)
        let changed := data.map change
        writeList (if call.has 's' then withoutRepeats t changed else changed)

/-! ### Making lines -/

/-- The numbers from the first to the last one, in steps, at most `n` of them. -/
def stepsFrom (step last : Int) : Nat → Int → List Int
  | 0, _ => []
  | n + 1, i => if (0 < step && last < i) || (step < 0 && i < last) then [] else i :: stepsFrom step last n (i + step)

def seq : Utility := fun _ arguments => do
  let (separator, width, operands) :=
    match arguments with
    | "-s" :: s :: rest => (s, false, rest)
    | "-w" :: rest => ("\n", true, rest)
    | rest => ("\n", false, rest)
  match operands.mapM String.toInt? with
  | none => do
    let bad := (operands.find? fun o => o.toInt?.isNone).getD ""
    refuse ("invalid floating point argument: " ++ quote bad)
  | some numbers =>
    let count (first step last : Int) : Action Nat := do
      if step = 0 then refuse ("invalid Zero increment value: " ++ quote "0")
      else
        let all := stepsFrom step last (((last - first).natAbs / step.natAbs) + 1) first
        let longest := (all.map fun n => (toString n).length).foldl max 0
        let texts := all.map fun n =>
          if width then String.ofList (List.replicate (longest - (toString n).length) '0') ++ toString n else toString n
        if texts.isEmpty then return 0 else writeString (separator.intercalate texts ++ "\n")
    match numbers with
    | [] => refuse "missing operand"
    | [last] => count 1 1 last
    | [first, last] => count first 1 last
    | first :: step :: last :: _ => count first step last

def yes : Utility := fun _ arguments => do
  let line := (if arguments.isEmpty then "y" else " ".intercalate arguments) ++ "\n"
  let turn (_ : Unit) : Action (Unit ⊕ Nat) := do
    spend
    pass 1
    let status ← writeString (String.join (List.replicate 1024 line))
    return if status = 0 then .inl () else .inr status
  iterate turn (← get).budget ()

/-- Joins the lines of files side by side, or the lines of each file. -/
def paste : Utility := fun _ =>
  withOptions [⟨'d', "delimiters", true⟩, ⟨'s', "serial", false⟩] false 1 fun call => do
    let joint := ((call.argument? 'd').map bytes).getD [9]
    let mut columns : List (List Bytes) := []
    for path in if call.operands.isEmpty then ["-"] else call.operands do
      match ← contentOf path with
      | .ok data => columns := columns ++ [(linesOf data.toList).map chomped]
      | .error cause =>
        complain (path ++ ": " ++ cause.words)
        return 1
    let lines :=
      if call.has 's' then columns.map fun c => joint.intercalate c
      else
        let height := (columns.map List.length).foldl max 0
        (List.range height).map fun i => joint.intercalate (columns.map fun c => c.getD i [])
    writeList ((lines.map (· ++ [10])).flatten)

/-- How many bytes two lists have in common at their front. -/
def commonLength : Bytes → Bytes → Nat
  | a :: as, b :: bs => if a = b then commonLength as bs + 1 else 0
  | _, _ => 0

def cmp : Utility := fun _ =>
  withOptions [⟨'s', "quiet", false⟩, ⟨'b', "print-bytes", false⟩] false 2 fun call => do
    match call.operands with
    | a :: more =>
      let b := more.headD "-"
      match ← contentOf a, ← contentOf b with
      | .ok x, .ok y =>
        let (x, y) := (x.toList, y.toList)
        let n := commonLength x y
        if x = y then return 0
        if !call.has 's' then
          if n = x.length || n = y.length then
            let short := if n = x.length then a else b
            let lines := (x.take n).count 10
            let place := if n = 0 then " which is empty"
              else if (x.take n).getLast? = some 10 then " after byte " ++ toString n ++ ", line " ++ toString lines
              else " after byte " ++ toString n ++ ", in line " ++ toString (lines + 1)
            complain ("EOF on " ++ quote short ++ place)
          else
            let _ ← writeString (a ++ " " ++ b ++ " differ: byte " ++ toString (n + 1) ++ ", line " ++
              toString ((x.take n).count 10 + 1) ++ "\n")
        return 1
      | .error cause, _ =>
        if !call.has 's' then complain (a ++ ": " ++ cause.words)
        return 2
      | _, .error cause =>
        if !call.has 's' then complain (b ++ ": " ++ cause.words)
        return 2
    | [] => refuse ("missing operand after " ++ quote "cmp") 2

end FirmwareSymbols.Script.Utility
