import FirmwareSymbols.Main.Script.Utility.Search

/-!
# Editing streams of lines

The program reads edits, each with the lines that it concerns, and carries them out on one line after another. It holds
a line to work on and another text to keep.
-/

namespace FirmwareSymbols.Script.Utility

inductive EditAddress
  | line (n : Nat)
  | last
  | every (first step : Nat)
  | matching (r : Regex)

/-- What an address in second place means: an address, or so many more lines. -/
inductive EditEnd
  | address (a : EditAddress)
  | more (n : Nat)

/-- The parts of a replacement. -/
inductive Replacement
  | text (cs : List Char)
  /-- What a group has matched; all that was matched has the number zero. -/
  | group (n : Nat)

inductive EditAction
  | substitute (r : Regex) (ignoresCase : Bool) (parts : List Replacement) (isGlobal prints : Bool) (first : Nat)
  | translate (source goal : List Char)
  /-- A command without arguments, by its letter. -/
  | plain (letter : Char)
  /-- Text before, after or in the place of a line. -/
  | text (letter : Char) (cs : List Char)
  | quit (prints : Bool) (status : Nat)
  | block (length : Nat)
  | label (name : String)
  | jump (ifChanged : Bool) (name : String)

structure Edit where
  start : Option EditAddress := none
  stop : Option EditEnd := none
  negated : Bool := false
  action : EditAction

/-! ### Reading edits -/

structure EditReading where
  rest : List Char
  /-- The expression that was read last. -/
  latest : Option Regex := none

abbrev EditReader := StateT EditReading (Except String)

def skipEditGaps (alsoLines : Bool) : EditReader Unit := do
  modify fun s => { s with rest := s.rest.dropWhile fun c => c = ' ' || c = '\t' || (alsoLines && (c = '\n' || c = ';')) }

/-- The text up to a mark that is not escaped, nor in brackets if they count; an escaped mark stands for itself. -/
def upToMark (mark : Char) (hasBrackets : Bool) : Nat → Bool → List Char → Option (List Char × List Char)
  | 0, _, _ => none
  | _, _, [] => none
  | n + 1, inBracket, c :: rest =>
    if c = mark && !inBracket then some ([], rest)
    else if c = '\\' && !inBracket then
      match rest with
      | d :: rest =>
        (upToMark mark hasBrackets n false rest).map fun (text, after) =>
          (if d = mark then d :: text else '\\' :: d :: text, after)
      | [] => none
    else
      let inside := hasBrackets && c ≠ ']' && (inBracket || c = '[')
      (upToMark mark hasBrackets n inside rest).map fun (text, after) => (c :: text, after)

def delimited (mark : Char) (hasBrackets : Bool) (what : String) : EditReader (List Char) := do
  let s ← get
  match upToMark mark hasBrackets (s.rest.length + 1) false s.rest with
  | some (text, rest) =>
    set { s with rest }
    return text
  | none => throw what

/-- The expression of a text; an empty text stands for the one before. -/
def editRegex (extended : Bool) (text : List Char) : EditReader Regex := do
  let s ← get
  if text.isEmpty then
    match s.latest with
    | some r => return r
    | none => throw "no previous regular expression"
  let r ← Regex.ofText extended text
  set { s with latest := some r }
  return r

def editAddress? (extended : Bool) : EditReader (Option EditAddress) := do
  let s ← get
  match s.rest with
  | '$' :: rest =>
    set { s with rest }
    return some .last
  | '/' :: rest =>
    set { s with rest }
    return some (.matching (← editRegex extended (← delimited '/' true "unterminated address regex")))
  | '\\' :: mark :: rest =>
    set { s with rest }
    return some (.matching (← editRegex extended (← delimited mark true "unterminated address regex")))
  | _ =>
    match Text.number? s.rest with
    | none => return none
    | some (n, '~' :: rest) =>
      let (step, rest) := (Text.number? rest).getD (0, rest)
      set { s with rest }
      return some (.every n step)
    | some (n, rest) =>
      set { s with rest }
      return some (.line n)

/-- The parts of the text that replaces a match. -/
def replacementOf : Nat → List Char → List Replacement
  | 0, _ => []
  | _, [] => []
  | n + 1, '\\' :: c :: rest =>
    if Text.isDigit c then .group (Text.digitValue c) :: replacementOf n rest
    else .text [if c = 'n' then '\n' else if c = 't' then '\t' else c] :: replacementOf n rest
  | n + 1, '&' :: rest => .group 0 :: replacementOf n rest
  | n + 1, c :: rest => .text [c] :: replacementOf n rest

/-- A command at the end of which only blanks, a semicolon, a brace or the end of the line may stand. -/
def endOfEdit : EditReader Unit := do
  skipEditGaps false
  match (← get).rest with
  | [] | ';' :: _ | '\n' :: _ | '\x7d' :: _ | '#' :: _ => pure ()
  | _ => throw "extra characters after command"

/-- The text of an insertion. -/
def editText : EditReader (List Char) := do
  skipEditGaps false
  let s ← get
  let body := match s.rest with
    | '\\' :: '\n' :: rest => rest
    | '\\' :: rest => rest
    | rest => rest
  let rec line : List Char → List Char × List Char
    | [] => ([], [])
    | '\\' :: c :: rest =>
      let (text, after) := line rest
      (c :: text, after)
    | '\n' :: rest => ([], '\n' :: rest)
    | c :: rest =>
      let (text, after) := line rest
      (c :: text, after)
  let (text, rest) := line body
  set { s with rest }
  return text

/-- A name up to a semicolon or the end of the line. -/
def editLabel : EditReader String := do
  skipEditGaps false
  let s ← get
  let isEnd (c : Char) : Bool := c = '\n' || c = ';' || c = '\x7d'
  set { s with rest := s.rest.dropWhile fun c => !isEnd c }
  return String.ofList ((s.rest.takeWhile fun c => !isEnd c).filter fun c => c ≠ ' ')

def substitution (extended : Bool) : EditReader EditAction := do
  let s ← get
  match s.rest with
  | [] | '\n' :: _ => throw "unterminated `s' command"
  | mark :: rest =>
    set { s with rest }
    let pattern ← delimited mark true "unterminated `s' command"
    let replacement ← delimited mark false "unterminated `s' command"
    let r ← editRegex extended pattern
    let s ← get
    let isFlag (c : Char) : Bool := "gpiIe".toList.contains c || Text.isDigit c
    let flags := s.rest.takeWhile isFlag
    set { s with rest := s.rest.dropWhile isFlag }
    endOfEdit
    let first := Text.digitsValue (flags.filter Text.isDigit)
    return .substitute r (flags.any fun c => c = 'i' || c = 'I') (replacementOf (replacement.length + 1) replacement)
      (flags.contains 'g') (flags.contains 'p') (max 1 first)

mutual

/-- The command after its addresses, with what a block holds. -/
def editAction (extended : Bool) : Nat → EditReader (EditAction × List Edit)
  | 0 => throw "too many commands"
  | fuel + 1 => do
    skipEditGaps false
    let s ← get
    match s.rest with
    | [] => throw "missing command"
    | c :: rest =>
      set { s with rest }
      match c with
      | '\x7b' =>
        let inner ← edits extended fuel true
        return (.block inner.length, inner)
      | 's' => return (← substitution extended, [])
      | 'y' =>
        match rest with
        | mark :: rest =>
          set { s with rest }
          let source ← delimited mark false "unterminated `y' command"
          let goal ← delimited mark false "unterminated `y' command"
          endOfEdit
          if source.length ≠ goal.length then throw "strings for `y' command are different lengths"
          return (.translate source goal, [])
        | [] => throw "unterminated `y' command"
      | 'a' | 'i' | 'c' => return (.text c (← editText), [])
      | 'q' | 'Q' =>
        skipEditGaps false
        let s ← get
        let (status, rest) := (Text.number? s.rest).getD (0, s.rest)
        set { s with rest }
        endOfEdit
        return (.quit (c = 'q') status, [])
      | ':' => return (.label (← editLabel), [])
      | 'b' => return (.jump false (← editLabel), [])
      | 't' => return (.jump true (← editLabel), [])
      | _ =>
        if "dDpPnNhHgGx=".toList.contains c then
          endOfEdit
          return (.plain c, [])
        throw ("unknown command: `" ++ String.singleton c ++ "'")

/-- Commands up to the end, or up to the brace that closes a block. -/
def edits (extended : Bool) : Nat → Bool → EditReader (List Edit)
  | 0, _ => throw "too many commands"
  | fuel + 1, inBlock => do
    skipEditGaps true
    let s ← get
    match s.rest with
    | [] => if inBlock then throw ("unmatched `" ++ String.singleton '\x7b' ++ "'") else return []
    | '\x7d' :: rest =>
      if !inBlock then throw ("unexpected `" ++ String.singleton '\x7d' ++ "'")
      set { s with rest }
      return []
    | '#' :: rest =>
      set { s with rest := rest.dropWhile (· ≠ '\n') }
      edits extended fuel inBlock
    | _ =>
      let start ← editAddress? extended
      skipEditGaps false
      let s ← get
      let stop ← match start, s.rest with
        | some _, ',' :: rest => do
          set { s with rest }
          skipEditGaps false
          let s ← get
          match s.rest with
          | '+' :: rest =>
            let (n, rest) := (Text.number? rest).getD (0, rest)
            set { s with rest }
            pure (some (EditEnd.more n))
          | _ =>
            match ← editAddress? extended with
            | some a => pure (some (EditEnd.address a))
            | none => throw "unexpected `,'"
        | _, _ => pure none
      skipEditGaps false
      let s ← get
      let negated := s.rest.head? = some '!'
      if negated then set { s with rest := s.rest.tail }
      let (action, inner) ← editAction extended fuel
      return { start, stop, negated, action } :: inner ++ (← edits extended fuel inBlock)

end

def Edit.ofText (extended : Bool) (text : List Char) : Except String (List Edit) := do
  return (← (edits extended (4 * text.length + 8) false).run { rest := text }).1

/-! ### Carrying edits out -/

/-- The state of editing. -/
structure Editing where
  /-- The lines that are still to be read. -/
  input : List (List Char)
  line : Nat := 0
  pattern : List Char := []
  hold : List Char := []
  output : List Char := []
  /-- What is written after the line. -/
  appended : List Char := []
  /-- The edits, by their places, whose range has begun, with the line at which it ends if that is known. -/
  begun : List (Nat × Option Nat) := []
  isChanged : Bool := false
  /-- The status with which editing is over. -/
  isOver : Option Nat := none

namespace Editing

def emit (s : Editing) (text : List Char) : Editing := { s with output := s.output ++ text ++ ['\n'] }

def fits (s : Editing) : EditAddress → Bool
  | .line n => s.line = n
  | .last => s.input.isEmpty
  | .every first step => if step = 0 then s.line = first else first ≤ s.line && (s.line - first) % step = 0
  | .matching r => (r.find? false { rest := s.pattern }).isSome

/-- Whether an edit at a place concerns the line, and the state after that was found out. -/
def selects (s : Editing) (place : Nat) (e : Edit) : Bool × Editing :=
  match e.start, e.stop with
  | none, _ => (true, s)
  | some a, none => (s.fits a, s)
  | some a, some stop =>
    let others := s.begun.filter fun o => o.1 ≠ place
    let opened (isStart : Bool) : Bool × Editing :=
      let last : Option Nat := match stop with
        | .more n => some (s.line + n)
        | .address (.line n) => some n
        | .address _ => none
      if isStart && last.any (· ≤ s.line) then (true, { s with begun := others })
      else (true, { s with begun := (place, last) :: others })
    match s.begun.lookup place with
    | some last =>
      let isEnd : Bool := match stop with
        | .address (.line n) => n ≤ s.line
        | .address b => s.fits b
        | .more _ => last.any (· ≤ s.line)
      match stop with
      | .address (.line n) =>
        if n < s.line then if s.fits a then opened true else (false, { s with begun := others })
        else (true, if isEnd then { s with begun := others } else s)
      | _ => (true, if isEnd then { s with begun := others } else s)
    | none => if s.fits a then opened true else (false, s)

/-- The text that replaces a match. -/
def replaced (parts : List Replacement) (m : Place × Place) : List Char :=
  parts.flatMap fun
    | .text cs => cs
    | .group 0 => m.1.upTo m.2
    | .group n => (m.2.groups.lookup n).getD []

/-- The text with its matches from the `first` one on replaced, and how many were. -/
def substituted (find : Finder) (parts : List Replacement) (isGlobal : Bool) : Nat → Nat → Place → List Char × Nat
  | 0, _, p => (p.rest, 0)
  | n + 1, first, p =>
    match find p with
    | none => (p.rest, 0)
    | some (a, b) =>
      let front := p.upTo a
      let isEmpty := a.rest.length = b.rest.length
      let text := if first ≤ 1 then replaced parts (a, b) else a.upTo b
      let count := if first ≤ 1 then 1 else 0
      if first ≤ 1 && !isGlobal then (front ++ text ++ b.rest, 1)
      else if isEmpty then
        match b.rest with
        | [] => (front ++ text, count)
        | c :: _ =>
          let (rest, more) := substituted find parts isGlobal n (first - 1) { b.skip 1 with groups := [] }
          (front ++ text ++ c :: rest, count + more)
      else
        let (rest, more) := substituted find parts isGlobal n (first - 1) { b with groups := [] }
        (front ++ text ++ rest, count + more)

/-- What an edit does to the flow of edits. -/
inductive Flow
  | next
  | jump (name : String)
  /-- The line is done, with or without being written. -/
  | done (prints : Bool)
  /-- The edits start again with what is left of the lines. -/
  | again

/-- Carries one action out. -/
def act (quiet : Bool) (s : Editing) (a : EditAction) : Editing × Flow :=
  let (firstLine, others) := (s.pattern.takeWhile (· ≠ '\n'), (s.pattern.dropWhile (· ≠ '\n')).drop 1)
  match a with
  | .substitute r ignoresCase parts isGlobal prints first =>
    let (text, count) :=
      substituted (r.find? ignoresCase) parts isGlobal (s.pattern.length + 2) first { rest := s.pattern }
    if count = 0 then (s, .next)
    else
      let s := { s with pattern := text, isChanged := true }
      (if prints then s.emit text else s, .next)
  | .translate source goal =>
    ({ s with pattern := s.pattern.map fun c => ((source.zip goal).lookup c).getD c }, .next)
  | .plain 'd' => (s, .done false)
  | .plain 'D' => if s.pattern.contains '\n' then ({ s with pattern := others }, .again) else (s, .done false)
  | .plain 'p' => (s.emit s.pattern, .next)
  | .plain 'P' => (s.emit firstLine, .next)
  | .plain 'n' =>
    match s.input with
    | [] => ({ s with isOver := some 0 }, .done true)
    | line :: rest =>
      let s := if quiet then s else s.emit s.pattern
      ({ s with output := s.output ++ s.appended, appended := [], pattern := line, input := rest, line := s.line + 1 }, .next)
  | .plain 'N' =>
    match s.input with
    | [] => ({ s with isOver := some 0 }, .done true)
    | line :: rest => ({ s with pattern := s.pattern ++ '\n' :: line, input := rest, line := s.line + 1 }, .next)
  | .plain 'h' => ({ s with hold := s.pattern }, .next)
  | .plain 'H' => ({ s with hold := s.hold ++ '\n' :: s.pattern }, .next)
  | .plain 'g' => ({ s with pattern := s.hold }, .next)
  | .plain 'G' => ({ s with pattern := s.pattern ++ '\n' :: s.hold }, .next)
  | .plain 'x' => ({ s with pattern := s.hold, hold := s.pattern }, .next)
  | .plain '=' => (s.emit (toString s.line).toList, .next)
  | .plain _ | .label _ | .block _ => (s, .next)
  | .text 'a' cs => ({ s with appended := s.appended ++ cs ++ ['\n'] }, .next)
  | .text 'i' cs => (s.emit cs, .next)
  | .text _ cs => (s.emit cs, .done false)
  | .quit prints status => ({ s with isOver := some status }, .done prints)
  | .jump ifChanged name =>
    if ifChanged && !s.isChanged then (s, .next) else ({ s with isChanged := false }, .jump name)

/-- The edits after a label. -/
def afterLabel (name : String) : List (Nat × Edit) → Option (List (Nat × Edit))
  | [] => none
  | (_, e) :: rest =>
    match e.action with
    | .label n => if n = name then some rest else afterLabel name rest
    | _ => afterLabel name rest

/-- Goes through the edits for one line; whether the line is written at the end. -/
def cycle (quiet : Bool) (all : List (Nat × Edit)) : Nat → List (Nat × Edit) → Editing → Editing × Bool
  | 0, _, s => (s, true)
  | _, [], s => (s, true)
  | n + 1, (place, e) :: rest, s =>
    let (isSelected, s) := s.selects place e
    if isSelected = e.negated then
      let length := match e.action with
        | .block length => length
        | _ => 0
      cycle quiet all n (rest.drop length) s
    else
      match s.act quiet e.action with
      | (s, .next) => cycle quiet all n rest s
      | (s, .jump name) => if name = "" then (s, true) else cycle quiet all n ((afterLabel name all).getD []) s
      | (s, .done prints) => (s, prints)
      | (s, .again) => cycle quiet all n all s

/-- Edits all lines. -/
def run (quiet : Bool) (all : List (Nat × Edit)) : Nat → Editing → Editing
  | 0, s => s
  | n + 1, s =>
    match s.input with
    | [] => s
    | line :: rest =>
      let s := { s with pattern := line, input := rest, line := s.line + 1, isChanged := false }
      let (s, prints) := cycle quiet all 10000 all s
      let s := if prints && !quiet then s.emit s.pattern else s
      let s := { s with output := s.output ++ s.appended, appended := [] }
      if s.isOver.isSome then s else run quiet all n s

end Editing

/-- Edits a text; the result and the status. -/
def edited (quiet : Bool) (all : List Edit) (data : Bytes) : Bytes × Nat :=
  let lines := (linesOf data).map fun l => (chomped l).map byteChar
  let s := Editing.run quiet ((List.range all.length).zip all) (lines.length + 1) { input := lines }
  let text := (bytesOf s.output).toList
  let isCut := s.input.isEmpty && data.getLast?.any (· ≠ 10) && text.getLast? = some 10
  (if isCut then text.dropLast else text, s.isOver.getD 0)

def sed : Utility := fun _ =>
  withOptions [⟨'n', "quiet", false⟩, ⟨'e', "expression", true⟩, ⟨'E', "regexp-extended", false⟩, ⟨'r', "", false⟩,
      ⟨'i', "in-place", false⟩, ⟨'s', "separate", false⟩, ⟨'u', "unbuffered", false⟩, ⟨'f', "file", true⟩] false 1
      fun call => do
    let given := (call.options.filter fun o => o.1 = 'e').map Prod.snd
    let (texts, paths) := if call.has 'e' then (given, call.operands) else (call.operands.take 1, call.operands.drop 1)
    if texts.isEmpty then
      putError ("Usage: " ++ (← programName) ++ " [OPTION]... \x7bscript-only-if-no-other-script\x7d [input-file]...")
      return 1
    let text := byteChars ("\n".intercalate texts)
    match Edit.ofText (call.has 'E' || call.has 'r') text with
    | .error fault =>
      complain ("-e expression #1, char " ++ toString text.length ++ ": " ++ fault)
      return 1
    | .ok all =>
      if call.has 'i' then
        let mut status := 0
        for path in paths do
          match ← contentOf path with
          | .error cause =>
            complain ("can't read " ++ path ++ ": " ++ cause.words)
            status := 2
          | .ok data =>
            let (result, code) := edited (call.has 'n') all data.toList
            status := max status code
            modify fun m => { m with
              files := (m.files.writeInPlace ⟨path⟩ fun _ => ⟨result.toArray⟩).toOption.getD m.files }
        return status
      let mut data : Bytes := []
      let mut status := 0
      for path in if paths.isEmpty then ["-"] else paths do
        match ← contentOf path with
        | .ok more => data := data ++ more.toList
        | .error cause =>
          complain (match cause with
            | .isDirectory => "couldn't edit " ++ path ++ ": not a regular file"
            | _ => "can't read " ++ path ++ ": " ++ cause.words)
          status := 2
      let (result, code) := edited (call.has 'n') all data
      let _ ← writeList result
      return max status code

end FirmwareSymbols.Script.Utility
