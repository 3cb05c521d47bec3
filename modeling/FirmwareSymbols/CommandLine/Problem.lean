import FirmwareSymbols.CommandLine.Usage

/-!
# Problems with a call

Why a call of the program cannot be understood, and the message that tells it. Most messages end with a usage line
and with a hint at the help text.
-/

namespace FirmwareSymbols.CommandLine

open Styled (plain literal quoted)

/-- A hint at what may have been meant. -/
inductive Tip
  | argument (name : String)
  /-- An option of a command that comes later in the call. -/
  | optionOf (command : String) (option : String)
  /-- A command stands after the mark behind which nothing is read as a command. -/
  | afterMark (command : String)
  | commands (names : List String)
deriving DecidableEq, Repr

inductive Problem
  | unexpected (argument : String) (tip : Option Tip) (usage : Styled)
  | unknownCommand (word : String) (tip : Option Tip) (usage : Styled) (hasHelp : Bool)
  | valueMissing (option : Opt)
  | valueUnexpected (option : Opt) (value : String) (usage : Styled)
  | valueRefused (option : Opt) (value reason : String)
  | repeated (option : Opt) (usage : Styled)
  | optionsMissing (options : List Opt) (usage : Styled)
  | commandMissing (usage : Styled)
deriving DecidableEq, Repr

namespace Tip

private def mark : Styled := plain "  " ++ [⟨.valid, "tip:"⟩]

def shown : Tip → Styled
  | .argument name => mark ++ plain " a similar argument exists: " ++ quoted .valid name
  | .optionOf command option => mark ++ plain " " ++ quoted .valid (command ++ " " ++ option) ++ plain " exists"
  | .afterMark command =>
    mark ++ plain " subcommand " ++ quoted .valid command ++ plain " exists; to use it, remove the " ++
      quoted .invalid "--" ++ plain " before it"
  | .commands [name] => mark ++ plain " a similar subcommand exists: " ++ quoted .valid name
  | .commands names =>
    mark ++ plain " some similar subcommands exist: " ++ Styled.join ", " (names.map (quoted .valid))

end Tip

namespace Problem

def headline : Problem → Styled
  | .unexpected argument .. => plain "unexpected argument " ++ quoted .invalid argument ++ plain " found"
  | .unknownCommand word .. => plain "unrecognized subcommand " ++ quoted .invalid word
  | .valueMissing option =>
    plain "a value is required for " ++ quoted .invalid option.usage ++ plain " but none was supplied"
  | .valueUnexpected option value _ =>
    plain "unexpected value " ++ quoted .invalid value ++ plain " for " ++ quoted .literal option.usage ++
      plain " found; no more were expected"
  | .valueRefused option value reason =>
    plain "invalid value " ++ quoted .invalid value ++ plain " for " ++ quoted .literal option.usage ++
      plain (": " ++ reason)
  | .repeated option _ =>
    plain "the argument " ++ quoted .invalid option.usage ++ plain " cannot be used multiple times"
  | .optionsMissing options _ =>
    plain "the following required arguments were not provided:" ++
      options.flatMap fun o => plain "\n  " ++ [⟨.valid, o.usage⟩]
  | .commandMissing _ =>
    quoted .invalid programName ++ plain " requires a subcommand but one was not provided\n  [subcommands: " ++
      Styled.join ", " (commandWords.map fun w => [⟨.valid, w⟩]) ++ plain "]"

def tip? : Problem → Option Tip
  | .unexpected _ tip _ => tip
  | .unknownCommand _ tip _ _ => tip
  | _ => none

def usage? : Problem → Option Styled
  | .unexpected _ _ usage => some usage
  | .unknownCommand _ _ usage _ => some usage
  | .valueUnexpected _ _ usage => some usage
  | .repeated _ usage => some usage
  | .optionsMissing _ usage => some usage
  | .commandMissing usage => some usage
  | .valueMissing _ => none
  | .valueRefused .. => none

/-- Whether there is an option that asks for help. -/
def hasHelp : Problem → Bool
  | .unknownCommand _ _ _ hasHelp => hasHelp
  | _ => true

def message (p : Problem) : Styled :=
  let tip := p.tip?.elim [] fun t => plain "\n\n" ++ t.shown
  let usage := p.usage?.elim [] fun u => plain "\n\n" ++ u
  let hint :=
    if p.hasHelp then plain "\n\nFor more information, try " ++ quoted .literal "--help" ++ plain ".\n"
    else plain "\n"
  [⟨.failure, "error:"⟩] ++ plain " " ++ p.headline ++ tip ++ usage ++ hint

end Problem

end FirmwareSymbols.CommandLine
