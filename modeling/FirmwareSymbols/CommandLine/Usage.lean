import FirmwareSymbols.CommandLine.Options
import FirmwareSymbols.CommandLine.Styled

/-!
# Usage lines and help texts

How the program is to be called: in one line in general, in one line for a call that has gone wrong, and in full.
-/

namespace FirmwareSymbols.CommandLine

open Styled (plain literal heading)

/-- An option with the name of its value. -/
def Opt.shown (o : Opt) : Styled :=
  if o.takesValue then literal o.name ++ plain (" <" ++ o.valueName ++ ">") else literal o.name

namespace Spec

/-- What always stands at the end of a usage line. -/
def usageEnd (s : Spec) : Styled := if s.takesCommand then plain " <COMMAND>" else []

/-- The parts of a usage line, each after a space. -/
def usageOf (s : Spec) (parts : List Styled) : Styled :=
  heading "Usage:" ++ plain " " ++ literal s.usageName ++ (parts.flatMap fun p => plain " " ++ p) ++ s.usageEnd

/-- The usage in general. -/
def usage (s : Spec) : Styled :=
  if s.hasHelp then s.usageOf (plain "[OPTIONS]" :: s.required.map Opt.shown) else s.usageOf [plain "[COMMAND]..."]

/-- The own options as alternatives. -/
def ownGroup (s : Spec) : Styled := plain ("<" ++ String.intercalate "|" (s.options.map Opt.usage) ++ ">")

/-- The usage for a call with these options: the required options and the ones given. -/
def usageWith (s : Spec) (given : List Opt) : Styled :=
  let others := given.filter fun o => !s.required.contains o
  s.usageOf ((s.required ++ others.eraseDups).map Opt.shown)

/-- The usage for a call in which one more option was not understood: in general if no option was given. -/
def usageAfter (s : Spec) (given : List Opt) : Styled := if given.isEmpty then s.usage else s.usageWith given

/-- The usage for a call in which the last option was given a value that it does not take. The own options stand as
alternatives if another one of them was given. -/
def usageAtValue (s : Spec) (given : List Opt) (last : Opt) : Styled :=
  if given.any s.options.contains then
    let others := (given ++ [last]).filter fun o => !s.options.contains o
    s.usageOf (others.eraseDups.map Opt.shown ++ [s.ownGroup])
  else s.usageWith (given ++ [last])

/-- A row of the list of options. -/
def optionRow (o : Opt) : Styled × String :=
  let shown :=
    if o.name = helpOption.name then literal "-h" ++ plain ", " ++ o.shown
    else if o.isLong then plain "    " ++ o.shown
    else o.shown
  (shown, o.help ++ (match o.default? with
    | some value => " [default: " ++ value ++ "]"
    | none => ""))

/-- The options as they are listed: the shared ones come second. -/
def listedOptions (s : Spec) : List Opt := s.options.take 1 ++ s.shared ++ s.options.drop 1 ++ [helpOption]

/-- Rows in two columns. -/
def table (rows : List (Styled × String)) : Styled :=
  let width := (rows.map fun r => r.1.width).foldl max 0
  rows.flatMap fun r => plain "  " ++ r.1.padTo (width + 2) ++ plain (r.2 ++ "\n")

/-- The commands with what they do. -/
def commandRows : List (Styled × String) :=
  (CommandName.all.map fun c => (literal c.text, c.about)) ++ [(literal helpWord, helpAbout)]

def help (s : Spec) : Styled :=
  let top := plain (s.about ++ "\n\n") ++ s.usage ++ plain "\n\n"
  if s.hasHelp then
    let commands := if s.takesCommand then heading "Commands:" ++ plain "\n" ++ table commandRows ++ plain "\n" else []
    top ++ commands ++ heading "Options:" ++ plain "\n" ++ table (s.listedOptions.map optionRow)
  else top ++ heading "Arguments:" ++ plain "\n  [COMMAND]...  Print help for the subcommand(s)\n"

end Spec

end FirmwareSymbols.CommandLine
