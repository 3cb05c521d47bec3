import FirmwareSymbols.Main.Script.Source

/-!
# Reading words

A word is read piece by piece. Inside of a word there can be commands, whose output becomes part of the word. How they
are read is a parameter, `commands`, which stops at the token after the commands and leaves it to be used.
-/

namespace FirmwareSymbols.Script

open Reading

/-- Where pieces are read. -/
inductive Surrounding
  | bare
  /-- Between double quotes. -/
  | quoted
  /-- Between the braces of a reference. -/
  | braced (quoted : Bool)
  /-- In a here-document. -/
  | document
  /-- In an expression, with so many parentheses open. -/
  | arithmetic (depth : Nat)
deriving DecidableEq

namespace Surrounding

def isQuoted : Surrounding → Bool
  | bare | braced false => false
  | quoted | braced true | document | arithmetic _ => true

/-- The characters that a backslash takes their meaning from; all of them where nothing is quoted. -/
def escapes (around : Surrounding) (c : Char) : Bool :=
  match around with
  | bare | braced false => true
  | quoted => "$\x60\"\\".toList.contains c
  | braced true => "$\x60\"\\\x7d".toList.contains c
  | document | arithmetic _ => "$\x60\\".toList.contains c

/-- The complaint about a text that ends inside. -/
def unclosed? : Surrounding → Option String
  | bare | document => none
  | quoted | braced true => some "Unterminated quoted string"
  | braced false => some "Missing '\x7d'"
  | arithmetic _ => some "Missing '))'"

end Surrounding

/-- Characters that end a bare word. -/
def isDelimiter (c : Char) : Bool := " \t\n;&|<>()".toList.contains c

/-- Characters without any meaning of their own. -/
def isPlain (c : Char) : Bool := c.isAlphanum || "_-./,:=+%@^~".toList.contains c

/-- The parameters that are named by one character. -/
def isSpecial (c : Char) : Bool := "*@#?$!-".toList.contains c || Text.isDigit c

/-- Puts text in front of a word; texts that are quoted alike become one. -/
def withText (quoted : Bool) (chars : List Char) : Word → Word
  | .text q more :: rest => if q = quoted then .text q (chars ++ more) :: rest else .text quoted chars :: .text q more :: rest
  | rest => .text quoted chars :: rest

/-- The name of a value at the front; in braces a number may have several digits. -/
def name? (inBraces : Bool) : Reading (Option String) := do
  match ← peek with
  | none => return none
  | some c =>
    if isNameStart c then return some (String.ofList (← takeWhile isNameChar))
    else if Text.isDigit c && inBraces then return some (String.ofList (← takeWhile Text.isDigit))
    else if isSpecial c then
      let _ ← next
      return some (String.singleton c)
    else return none

/-- What is done with a value that may be missing. -/
def handling? : Char → Option Handling
  | '-' => some .useWord
  | '=' => some .assignWord
  | '?' => some .complain
  | '+' => some .replaceValue
  | _ => none

def cutMark : Reading (Option Cut) := do
  if ← accept "##" then return some .longestStart
  if ← accept "#" then return some .shortestStart
  if ← accept "%%" then return some .longestEnd
  if ← accept "%" then return some .shortestEnd
  return none

/-- The rest of a reference in braces that is not well formed. A line feed at its front does not count. -/
def faultyRest (inside : Surrounding → Reading Word) (quoted : Bool) : Reading Piece := do
  modify fun s => { s with rest := ("\n".toList.isPrefixOf? s.rest).getD s.rest }
  let _ ← inside (.braced quoted)
  return .faulty

/-- The rest of a reference in braces after the name; `inside` reads up to the closing brace. -/
def bracedRest (inside : Surrounding → Reading Word) (quoted : Bool) (name : String) : Reading Piece := do
  if ← accept "\x7d" then return .value quoted name
  let alsoEmpty ← accept ":"
  match (← peek).bind handling? with
  | some handling =>
    let _ ← next
    return .optional quoted name handling alsoEmpty (← inside (.braced quoted))
  | none =>
    if alsoEmpty then faultyRest inside quoted
    else
      match ← cutMark with
      | some cut => return .trimmed quoted name cut (← inside (.braced false))
      | none => faultyRest inside quoted

/-- The reference after its opening brace. -/
def bracedReference (inside : Surrounding → Reading Word) (quoted : Bool) : Reading Piece := do
  match (← get).rest with
  | '#' :: '\x7d' :: _ =>
    let _ ← accept "#\x7d"
    return .value quoted "#"
  | '#' :: c :: _ =>
    if isNameChar c || isSpecial c then
      let before ← get
      let _ ← next
      let name ← name? true
      if ← accept "\x7d" then return .size quoted (name.getD "")
      else if isNameChar c then faultyRest inside quoted
      else
        set before
        let _ ← next
        bracedRest inside quoted "#"
    else
      let _ ← next
      bracedRest inside quoted "#"
  | _ =>
    match ← name? true with
    | some name => bracedRest inside quoted name
    | none => faultyRest inside quoted

/-- The text between backquotes, with its escapes taken off. -/
def backquoted (inQuotes : Bool) : Nat → Reading (List Char)
  | 0 => complain "EOF in backquote substitution"
  | fuel + 1 => do
    match ← next with
    | none => complain "EOF in backquote substitution"
    | some '\x60' => return []
    | some '\\' =>
      match ← next with
      | none => complain "EOF in backquote substitution"
      | some '\n' => backquoted inQuotes fuel
      | some c =>
        let rest ← backquoted inQuotes fuel
        if c = '\\' || c = '\x60' || c = '$' || (inQuotes && c = '"') then return c :: rest else return '\\' :: c :: rest
    | some c => return c :: (← backquoted inQuotes fuel)

/-- The commands between backquotes; their lines are counted from one. -/
def backquotedCommands (commands : Reading (List Command)) (inQuotes : Bool) : Reading (List Command) := do
  let text ← backquoted inQuotes ((← get).rest.length + 1)
  let s ← get
  set ({ rest := text, aliases := s.aliases } : Source)
  let body ← commands
  set s
  return body

/-- The parenthesis that closes commands; the token after them was looked at already. -/
def closeCommands : Reading Unit := do
  let s ← get
  match s.ahead with
  | some (.operator ")") => set { s with ahead := none }
  | some t => complain (t.description true ++ " unexpected (expecting \")\")")
  | none => pure ()

/-- What follows a dollar sign. -/
def dollar (commands : Reading (List Command)) (inside : Surrounding → Reading Word) (quoted : Bool) : Reading Piece := do
  if ← accept "((" then return .arithmetic quoted (← inside (.arithmetic 0))
  if ← accept "(" then
    let body ← commands
    closeCommands
    return .output quoted body
  if ← accept "\x7b" then bracedReference inside quoted
  else
    match ← name? false with
    | some name => return .value quoted name
    | none => return .text quoted ['$']

/-- Whether pieces end here; what ends them is used up, unless it is the end of a bare word. -/
def isEnd (around : Surrounding) (c : Char) : Reading Bool := do
  match around with
  | .bare => return isDelimiter c
  | .quoted => accept "\""
  | .braced _ => accept "\x7d"
  | .document => return false
  | .arithmetic depth => if depth = 0 && c = ')' then accept "))" else return false

/-- The pieces of a word up to its end. -/
def pieces (commands : Reading (List Command)) : Nat → Surrounding → Reading Word
  | 0, _ => return []
  | fuel + 1, around => do
    let quoted := around.isQuoted
    match ← peek with
    | none =>
      match around.unclosed? with
      | some text => complain text
      | none => return []
    | some c =>
      if ← isEnd around c then return []
      else if isPlain c then
        let chars ← takeWhile isPlain
        return withText quoted chars (← pieces commands fuel around)
      else
        let _ ← next
        match c with
        | '\\' =>
          match ← next with
          | some '\n' => pieces commands fuel around
          | some d =>
            if around.escapes d then return withText true [d] (← pieces commands fuel around)
            else return withText true ['\\', d] (← pieces commands fuel around)
          | none => return withText true ['\\'] (← pieces commands fuel around)
        | '$' =>
          match ← dollar commands (pieces commands fuel) quoted with
          | .text q chars => return withText q chars (← pieces commands fuel around)
          | p => return p :: (← pieces commands fuel around)
        | '\x60' =>
          let body ← backquotedCommands commands (around = .quoted)
          return .output quoted body :: (← pieces commands fuel around)
        | '"' =>
          match around with
          | .document | .arithmetic _ => return withText true [c] (← pieces commands fuel around)
          | _ =>
            let inner ← pieces commands fuel .quoted
            let rest ← pieces commands fuel around
            return (if inner.isEmpty then withText true [] rest else inner ++ rest)
        | '\'' =>
          if quoted then return withText true [c] (← pieces commands fuel around)
          else
            match ← upTo? (· = '\'') with
            | none => complain "Unterminated quoted string"
            | some chars =>
              let _ ← next
              return withText true chars (← pieces commands fuel around)
        | _ =>
          let inner := match around, c with
            | .arithmetic depth, '(' => .arithmetic (depth + 1)
            | .arithmetic depth, ')' => .arithmetic (depth - 1)
            | around, _ => around
          return withText quoted [c] (← pieces commands fuel inner)

/-- A bare word, which may be empty. -/
def word (commands : Reading (List Command)) : Reading Word := do pieces commands ((← get).rest.length + 1) .bare

/-- The pieces of a here-document whose first line has this number. -/
def documentPieces (commands : Reading (List Command)) (line : Nat) (text : List Char) : Reading Word := do
  let s ← get
  set ({ rest := text, line, aliases := s.aliases } : Source)
  let w ← pieces commands (text.length + 1) .document
  set s
  return w

end FirmwareSymbols.Script
