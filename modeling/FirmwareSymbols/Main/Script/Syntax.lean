/-!
# What scripts consist of

A script is a list of commands, and commands are made of words. A word is a sequence of pieces: text, and references
to values that are put in when the word is expanded. What was quoted is neither split into fields nor read as a
pattern. Commands know their line in the script.
-/

namespace FirmwareSymbols.Script

/-- Which part of a value a pattern takes off. -/
inductive Cut
  | shortestStart
  | longestStart
  | shortestEnd
  | longestEnd
deriving DecidableEq, Repr

/-- What becomes of a reference to a value that is missing. -/
inductive Handling
  /-- The word stands in its place. -/
  | useWord
  /-- The word is assigned to it first. -/
  | assignWord
  /-- The script ends with the word as the message. -/
  | complain
  /-- Nothing; the word stands in the place of a value that is there. -/
  | replaceValue
deriving DecidableEq, Repr

inductive RedirectionKind
  /-- Reads a file. -/
  | input
  /-- Replaces the content of a file. -/
  | output
  /-- Replaces the content of a file, even if existing files are protected. -/
  | overwrite
  | append
  /-- Reads and writes a file. -/
  | update
  /-- Goes where another descriptor goes, or nowhere. -/
  | duplicate
  /-- Reads the word itself. -/
  | document
deriving DecidableEq, Repr

mutual

inductive Piece
  | text (quoted : Bool) (chars : List Char)
  /-- The value of a variable or a parameter. -/
  | value (quoted : Bool) (name : String)
  /-- The number of bytes of a value. -/
  | size (quoted : Bool) (name : String)
  /-- A value without the part that matches the pattern. -/
  | trimmed (quoted : Bool) (name : String) (cut : Cut) (pattern : List Piece)
  /-- A value that may be missing, or, in one form, also empty. -/
  | optional (quoted : Bool) (name : String) (handling : Handling) (alsoEmpty : Bool) (word : List Piece)
  /-- What commands write to standard output. -/
  | output (quoted : Bool) (body : List Command)
  /-- The number that an expression stands for. -/
  | arithmetic (quoted : Bool) (expression : List Piece)
  /-- A reference that is not well formed. -/
  | faulty

inductive Redirection
  | mk (descriptor : Nat) (kind : RedirectionKind) (target : List Piece)

inductive Command
  | simple (line : Nat) (assignments : List (String × List Piece)) (words : List (List Piece))
      (redirections : List Redirection)
  /-- Each command reads what the one before it writes. -/
  | pipeline (commands : List Command)
  /-- Nobody waits for the command. -/
  | background (c : Command)
  /-- Runs in a process of its own. -/
  | subshell (body : List Command)
  | group (body : List Command)
  | redirected (line : Nat) (c : Command) (redirections : List Redirection)
  /-- The second follows if the first succeeds, or if it fails. -/
  | chain (onSuccess : Bool) (first second : Command)
  | negated (c : Command)
  | branches (conditions : List (List Command × List Command)) (otherwise : List Command)
  /-- Runs the body for each item, or for each parameter. -/
  | each (line : Nat) (name : String) (items : Option (List (List Piece))) (body : List Command)
  | select (line : Nat) (subject : List Piece) (cases : List (List (List Piece) × List Command))
  /-- Repeats the body while the condition succeeds, or while it fails. -/
  | loop (whileSuccess : Bool) (condition body : List Command)
  | define (line : Nat) (name : String) (body : Command)

end

abbrev Word := List Piece

/-- The text of a word that is plain text. -/
def Word.literal? : Word → Option String
  | [] => some ""
  | .text false chars :: rest => (Word.literal? rest).map (String.ofList chars ++ ·)
  | _ :: _ => none

inductive Token
  | word (w : Word)
  | operator (text : String)
  | redirection (descriptor : Nat) (kind : RedirectionKind) (stripsTabs : Bool)
  | newline
  | finish

/-- Words that have a meaning of their own where a command may start. -/
def reservedWords : List String :=
  ["!", "case", "do", "done", "elif", "else", "esac", "fi", "for", "if", "in", "then", "until", "while", "\x7b", "\x7d"]

namespace Token

def isFinish : Token → Bool
  | finish => true
  | _ => false

/-- The text of an operator or a reserved word. -/
def symbol? (reserves : Bool) : Token → Option String
  | operator text => some text
  | word w => if reserves then w.literal?.filter reservedWords.contains else none
  | _ => none

/-- How a token is named in messages. -/
def description (reserves : Bool) (t : Token) : String :=
  match t.symbol? reserves, t with
  | some text, _ => "\"" ++ text ++ "\""
  | none, .redirection _ _ _ => "redirection"
  | none, .newline => "newline"
  | none, .finish => "end of file"
  | none, _ => "word"

end Token

def isNameStart (c : Char) : Bool := c.isAlpha || c = '_'

def isNameChar (c : Char) : Bool := c.isAlphanum || c = '_'

def isName (s : String) : Bool :=
  match s.toList with
  | [] => false
  | c :: rest => isNameStart c && rest.all isNameChar

end FirmwareSymbols.Script
