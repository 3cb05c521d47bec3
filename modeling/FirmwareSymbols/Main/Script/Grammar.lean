import FirmwareSymbols.Main.Script.Word

/-!
# Reading commands

A script is read line by line, so that what is wrong on one line does not keep the lines before it from running. A
line goes on until all that it opens is closed.
-/

namespace FirmwareSymbols.Script

open Reading

/-! ### Tokens -/

/-- The operators, the longer ones first. -/
def operators : List String := ["&&", "||", ";;", ";", "&", "|", "(", ")"]

/-- The redirections with the descriptor that they concern by default, and whether the tabs of a document are
stripped, the longer ones first. -/
def redirectionMarks : List (String × RedirectionKind × Nat × Bool) := [
  ("<<-", .document, 0, true),
  ("<<", .document, 0, false),
  (">>", .append, 1, false),
  (">&", .duplicate, 1, false),
  ("<&", .duplicate, 0, false),
  ("<>", .update, 0, false),
  (">|", .overwrite, 1, false),
  (">", .output, 1, false),
  ("<", .input, 0, false)]

/-- The first of the texts that comes next. -/
def acceptFirst {α : Type} (text : α → String) : List α → Reading (Option α)
  | [] => return none
  | a :: rest => do if ← accept (text a) then return some a else acceptFirst text rest

def redirectionToken? : Reading (Option Token) := do
  let before ← get
  let descriptor ← match before.rest with
    | c :: '<' :: _ | c :: '>' :: _ =>
      if Text.isDigit c then
        let _ ← next
        pure (some (Text.digitValue c))
      else pure none
    | _ => pure none
  match ← acceptFirst (·.1) redirectionMarks with
  | some (_, kind, default, strips) => return some (.redirection (descriptor.getD default) kind strips)
  | none =>
    set before
    return none

/-- The next token of the text itself. -/
def freshToken (inner : Reading (List Command)) : Nat → Reading Token
  | 0 => return .finish
  | fuel + 1 => do
    match ← peek with
    | none => return .finish
    | some '\n' =>
      let _ ← next
      return .newline
    | some '#' =>
      let _ ← takeWhile (· ≠ '\n')
      freshToken inner fuel
    | some c =>
      if c = ' ' || c = '\t' then
        let _ ← next
        freshToken inner fuel
      else if c = '\\' && (← get).rest.tail.head? = some '\n' then
        let _ ← next
        let _ ← next
        freshToken inner fuel
      else
        match ← redirectionToken? with
        | some t => return t
        | none =>
          match ← acceptFirst id operators with
          | some text => return .operator text
          | none => return .word (← word inner)

/-- The next token. -/
def token (inner : Reading (List Command)) : Reading Token := do
  let s ← get
  match s.ahead with
  | some t =>
    set { s with ahead := none }
    return t
  | none => freshToken inner (s.rest.length + 1)

def pushBack (t : Token) : Reading Unit := modify fun s => { s with ahead := some t }

/-- The next token, which is not used up. -/
def lookAhead (inner : Reading (List Command)) : Reading Token := do
  let t ← token inner
  pushBack t
  return t

def skipNewlines (inner : Reading (List Command)) : Nat → Reading Unit
  | 0 => pure ()
  | fuel + 1 => do
    match ← token inner with
    | .newline => skipNewlines inner fuel
    | t => pushBack t

/-- Skips the ends of lines that come next. -/
def newlines (inner : Reading (List Command)) : Reading Unit := do skipNewlines inner ((← get).rest.length + 1)

/-! ### Aliases -/

/-- The text that is read in the place of a word, unless that text is being read already. -/
def Source.replacement? (s : Source) (w : Word) : Option String := do
  let name ← w.literal?
  if s.replaced.any fun r => r.name = name && r.left ≤ s.rest.length then none
  s.aliases.lookup name

/-- Reads another text in the place of a word that was read last. -/
def replaceWord (w : Word) (text : String) : Reading Unit := modify fun s =>
  let goesOn := text.toList.getLast?.any fun c => c = ' ' || c = '\t'
  { s with ahead := none, rest := text.toList ++ s.rest,
           replaced := ⟨(w.literal?).getD "", s.rest.length, goesOn⟩ :: s.replaced }

/-- Looks at the next token, at which a command may start, and replaces it by what it is an alias of. -/
def resolveAliases (inner : Reading (List Command)) : Nat → Reading Unit
  | 0 => pure ()
  | n + 1 => do
    match ← lookAhead inner with
    | .word w =>
      match (← get).replacement? w with
      | some text =>
        replaceWord w text
        resolveAliases inner n
      | none => pure ()
    | _ => pure ()

/-- Replaces the next token if it is an alias. -/
def commandStart (inner : Reading (List Command)) : Reading Unit := do
  resolveAliases inner ((← get).aliases.length + 1)

/-- The text that is read in the place of a word if the text of an alias has ended before it and goes on with it;
`before` is what was left to read in front of the word. -/
def Source.continued? (s : Source) (before : Nat) (w : Word) : Option String :=
  if s.replaced.any fun r => r.goesOn && s.rest.length < r.left && r.left ≤ before then s.replacement? w else none

/-- More tokens than there can be in front of the end, with aliases replaced once. -/
def Source.room (s : Source) : Nat := s.rest.length + 1 + (s.aliases.map fun a => a.2.length + 1).foldl (· + ·) 0

/-! ### Complaints -/

def unexpected {α : Type} (reserves : Bool) (t : Token) : Reading α :=
  complain (t.description reserves ++ " unexpected")

/-- Complains about a token in the place of another one. -/
def expected {α : Type} (reserves : Bool) (wanted : String) (t : Token) : Reading α :=
  complain (t.description reserves ++ " unexpected (expecting " ++ wanted ++ ")")

/-- Uses up an operator or a reserved word. -/
def expect (inner : Reading (List Command)) (symbol : String) : Reading Unit := do
  let t ← token inner
  if t.symbol? true ≠ some symbol then expected true ("\"" ++ symbol ++ "\"") t

/-- The tokens that end a list of commands. -/
def endsList (t : Token) : Bool :=
  match t with
  | .finish => true
  | t => (t.symbol? true).any ["then", "else", "elif", "fi", "do", "done", "esac", "\x7d", ")", ";;"].contains

/-! ### Parts of commands -/

/-- Splits a word at its first equals sign, if a name stands before it. -/
def assignment? : Word → Option (String × Word)
  | .text false chars :: rest =>
    let name := String.ofList (chars.takeWhile (· ≠ '='))
    match chars.dropWhile (· ≠ '=') with
    | '=' :: value =>
      if isName name then some (name, if value.isEmpty then rest else .text false value :: rest) else none
    | _ => none
  | _ => none

/-- The text of a word without its quotes. -/
def unquotedText (w : Word) : String := String.join (w.map fun
  | .text _ chars => String.ofList chars
  | _ => "")

def isQuotedWord (w : Word) : Bool := w.any fun
  | .text quoted _ => quoted
  | _ => false

/-- A redirection after its mark. -/
def redirection (inner : Reading (List Command)) (descriptor : Nat) (kind : RedirectionKind) (stripsTabs : Bool) :
    Reading Redirection := do
  match ← token inner with
  | .word w =>
    match kind with
    | .document =>
      let before ← get
      let body ← takeDocument (unquotedText w) stripsTabs
      if isQuotedWord w then return .mk descriptor kind [.text true body]
      else return .mk descriptor kind (← documentPieces inner (before.line + 1 + before.taken) body)
    | _ => return .mk descriptor kind w
  | t => unexpected false t

/-- The redirections that come next. -/
def redirections (inner : Reading (List Command)) : Nat → Reading (List Redirection)
  | 0 => return []
  | fuel + 1 => do
    match ← token inner with
    | .redirection descriptor kind strips =>
      let r ← redirection inner descriptor kind strips
      return r :: (← redirections inner fuel)
    | t =>
      pushBack t
      return []

/-- What a simple command is made of. -/
structure SimpleParts where
  assignments : List (String × Word) := []
  words : List Word := []
  redirections : List Redirection := []

/-- The rest of a simple command. -/
def simpleParts (inner : Reading (List Command)) : Nat → SimpleParts → Reading SimpleParts
  | 0, parts => return parts
  | fuel + 1, parts => do
    if parts.words.isEmpty then commandStart inner
    let before := (← get).rest.length
    match ← token inner with
    | .word w =>
      match if parts.words.isEmpty then assignment? w else none, (← get).continued? before w with
      | some a, _ => simpleParts inner fuel { parts with assignments := parts.assignments ++ [a] }
      | none, some text =>
        replaceWord w text
        simpleParts inner fuel parts
      | none, none => simpleParts inner fuel { parts with words := parts.words ++ [w] }
    | .redirection descriptor kind strips =>
      let r ← redirection inner descriptor kind strips
      simpleParts inner fuel { parts with redirections := parts.redirections ++ [r] }
    | t =>
      pushBack t
      return parts

/-- The name of the function that is defined here, if the parts of a command can only be that. -/
def SimpleParts.definedName? (parts : SimpleParts) : Option Word :=
  match parts with
  | ⟨[], [w], []⟩ => some w
  | _ => none

/-- The words up to one that is none. -/
def itemWords (inner : Reading (List Command)) : Nat → Reading (List Word)
  | 0 => return []
  | fuel + 1 => do
    match ← token inner with
    | .word w => return w :: (← itemWords inner fuel)
    | t =>
      pushBack t
      return []

/-- The patterns of a case up to the closing parenthesis. -/
def patterns (inner : Reading (List Command)) : Nat → Reading (List Word)
  | 0 => return []
  | fuel + 1 => do
    match ← token inner with
    | .word w =>
      match ← token inner with
      | .operator ")" => return [w]
      | .operator "|" => return w :: (← patterns inner fuel)
      | t => expected false "\")\"" t
    | _ =>
      match ← token inner with
      | .operator ")" => return [[]]
      | .operator "|" => return [] :: (← patterns inner fuel)
      | t => expected false "\")\"" t

/-- The commands that no function can be named like. -/
def specialCommands : List String :=
  [".", ":", "break", "continue", "eval", "exec", "exit", "export", "local", "readonly", "return", "set", "shift",
    "times", "trap", "unset"]

/-! ### Commands -/

/-- The answer where no level is left. -/
def tooDeep {α : Type} : Reading α := complain "too deep"

mutual

/-- Commands up to a token that ends the list, which may be empty if `mayBeEmpty`. -/
def commands : Nat → Bool → Reading (List Command)
  | 0, _ => tooDeep
  | fuel + 1, mayBeEmpty => do
    newlines (commands fuel true)
    commandStart (commands fuel true)
    let t ← lookAhead (commands fuel true)
    if mayBeEmpty && endsList t || t.isFinish then return []
    let first ← chain fuel
    match ← token (commands fuel true) with
    | .operator "&" => return .background first :: (← commands fuel true)
    | .operator ";" | .newline => return first :: (← commands fuel true)
    | t =>
      pushBack t
      return [first]

/-- Commands joined by `&&` and `||`. -/
def chain : Nat → Reading Command
  | 0 => tooDeep
  | fuel + 1 => do chainFrom fuel (← pipeline fuel)

def chainFrom : Nat → Command → Reading Command
  | 0, _ => tooDeep
  | fuel + 1, first => do
    match ← token (commands fuel true) with
    | .operator "&&" =>
      newlines (commands fuel true)
      chainFrom fuel (.chain true first (← pipeline fuel))
    | .operator "||" =>
      newlines (commands fuel true)
      chainFrom fuel (.chain false first (← pipeline fuel))
    | t =>
      pushBack t
      return first

def pipeline : Nat → Reading Command
  | 0 => tooDeep
  | fuel + 1 => do
    commandStart (commands fuel true)
    let t ← token (commands fuel true)
    let isNegated := t.symbol? true = some "!"
    if !isNegated then pushBack t
    let first ← command fuel
    let rest ← pipelineRest fuel
    let c := if rest.isEmpty then first else .pipeline (first :: rest)
    return if isNegated then .negated c else c

def pipelineRest : Nat → Reading (List Command)
  | 0 => tooDeep
  | fuel + 1 => do
    match ← token (commands fuel true) with
    | .operator "|" =>
      newlines (commands fuel true)
      let c ← command fuel
      return c :: (← pipelineRest fuel)
    | t =>
      pushBack t
      return []

/-- One command with its redirections. -/
def command : Nat → Reading Command
  | 0 => tooDeep
  | fuel + 1 => do
    commandStart (commands fuel true)
    let t ← token (commands fuel true)
    let line := (← get).line
    match compound fuel t with
    | some body =>
      let c ← body
      let rs ← redirections (commands fuel true) ((← get).rest.length + 1)
      return if rs.isEmpty then c else .redirected line c rs
    | none =>
      match t with
      | .word _ | .redirection _ _ _ =>
        if (t.symbol? true).isSome then unexpected true t
        pushBack t
        simple fuel line
      | t => unexpected true t

/-- The rest of a compound command that starts with this token. -/
def compound : Nat → Token → Option (Reading Command)
  | 0, _ => none
  | fuel + 1, t =>
    match t.symbol? true with
    | some "\x7b" => some do
      let body ← commands fuel false
      expect (commands fuel true) "\x7d"
      return .group body
    | some "(" => some do
      let body ← commands fuel false
      expect (commands fuel true) ")"
      return .subshell body
    | some "if" => some do
      let (conditions, otherwise) ← branches fuel
      return .branches conditions otherwise
    | some "while" => some (loop fuel true)
    | some "until" => some (loop fuel false)
    | some "for" => some (eachItem fuel)
    | some "case" => some (selection fuel)
    | _ => none

/-- The rest of an `if` after that word. -/
def branches : Nat → Reading (List (List Command × List Command) × List Command)
  | 0 => tooDeep
  | fuel + 1 => do
    let condition ← commands fuel false
    expect (commands fuel true) "then"
    let body ← commands fuel false
    let t ← token (commands fuel true)
    match t.symbol? true with
    | some "elif" =>
      let (more, otherwise) ← branches fuel
      return ((condition, body) :: more, otherwise)
    | some "else" =>
      let otherwise ← commands fuel false
      expect (commands fuel true) "fi"
      return ([(condition, body)], otherwise)
    | _ =>
      pushBack t
      expect (commands fuel true) "fi"
      return ([(condition, body)], [])

def loop : Nat → Bool → Reading Command
  | 0, _ => tooDeep
  | fuel + 1, whileSuccess => do
    let condition ← commands fuel false
    expect (commands fuel true) "do"
    let body ← commands fuel false
    expect (commands fuel true) "done"
    return .loop whileSuccess condition body

/-- The rest of a `for` after that word. -/
def eachItem : Nat → Reading Command
  | 0 => tooDeep
  | fuel + 1 => do
    let line := (← get).line
    let name ← match ← token (commands fuel true) with
      | .word w => pure (w.literal?.filter isName)
      | _ => pure none
    match name with
    | none => complain "Bad for loop variable"
    | some name =>
      newlines (commands fuel true)
      let t ← token (commands fuel true)
      let items ←
        if t.symbol? true = some "in" then
          let items ← itemWords (commands fuel true) ((← get).rest.length + 1)
          match ← token (commands fuel true) with
          | .newline | .operator ";" => pure (some items)
          | t => unexpected false t
        else
          if t.symbol? true ≠ some ";" then pushBack t
          pure none
      newlines (commands fuel true)
      expect (commands fuel true) "do"
      let body ← commands fuel false
      expect (commands fuel true) "done"
      return .each line name items body

/-- The rest of a `case` after that word. -/
def selection : Nat → Reading Command
  | 0 => tooDeep
  | fuel + 1 => do
    let line := (← get).line
    match ← token (commands fuel true) with
    | .word subject =>
      newlines (commands fuel true)
      expect (commands fuel true) "in"
      return .select line subject (← cases fuel)
    | t => expected false "word" t

/-- The cases up to the word that ends them. -/
def cases : Nat → Reading (List (List Word × List Command))
  | 0 => tooDeep
  | fuel + 1 => do
    newlines (commands fuel true)
    let t ← token (commands fuel true)
    if t.symbol? true = some "esac" then return []
    if t.symbol? true ≠ some "(" then pushBack t
    let ps ← patterns (commands fuel true) ((← get).rest.length + 1)
    let body ← commands fuel true
    newlines (commands fuel true)
    let t ← token (commands fuel true)
    match t.symbol? true with
    | some ";;" => return (ps, body) :: (← cases fuel)
    | some "esac" => return [(ps, body)]
    | _ => expected true "\";;\"" t

/-- A simple command, or the definition of a function. -/
def simple : Nat → Nat → Reading Command
  | 0, _ => tooDeep
  | fuel + 1, line => do
    let parts ← simpleParts (commands fuel true) (← get).room {}
    let t ← token (commands fuel true)
    match t.symbol? false, parts.definedName? with
    | some "(", some w =>
      match ← token (commands fuel true) with
      | .operator ")" =>
        match w.literal?.filter fun name => isName name && !specialCommands.contains name with
        | some name =>
          newlines (commands fuel true)
          return .define line name (← command fuel)
        | none => complain "Bad function name"
      | t => expected false "\")\"" t
    | _, _ =>
      pushBack t
      return .simple line parts.assignments parts.words parts.redirections

end

/-! ### Scripts -/

/-- The commands of one line. -/
def lineFrom (depth : Nat) : Nat → Reading (List Command)
  | 0 => return []
  | fuel + 1 => do
    commandStart (commands depth true)
    match ← token (commands depth true) with
    | .newline | .finish => return []
    | t =>
      pushBack t
      let first ← chain depth
      match ← token (commands depth true) with
      | .operator "&" => return .background first :: (← lineFrom depth fuel)
      | .operator ";" => return first :: (← lineFrom depth fuel)
      | .newline | .finish => return [first]
      | t => unexpected true t

/-- Reads the commands of the next line. A character, or one of what it is an alias of, opens fewer than ten levels. -/
def Source.readLine (s : Source) : Except Complaint (List Command × Source) :=
  (lineFrom (10 * (s.rest.length + 1) * s.room) s.room).run s

end FirmwareSymbols.Script
