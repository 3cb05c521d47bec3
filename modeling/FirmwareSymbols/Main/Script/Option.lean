/-!
# Options of scripts

Options are letters, some of which also have a name. They are set after a minus sign and unset after a plus sign.
-/

namespace FirmwareSymbols.Script

/-- The names of the options with their letters, if they have one. -/
def optionNames : List (String × Option Char) := [
  ("errexit", some 'e'),
  ("noglob", some 'f'),
  ("ignoreeof", some 'I'),
  ("interactive", some 'i'),
  ("monitor", some 'm'),
  ("noexec", some 'n'),
  ("stdin", some 's'),
  ("xtrace", some 'x'),
  ("verbose", some 'v'),
  ("vi", some 'V'),
  ("emacs", some 'E'),
  ("noclobber", some 'C'),
  ("allexport", some 'a'),
  ("notify", some 'b'),
  ("nounset", some 'u'),
  ("privileged", some 'p'),
  ("nolog", none),
  ("debug", none)]

def optionLetters : List Char := optionNames.filterMap Prod.snd

/-- What the words in front of other words have set. -/
structure OptionReading where
  options : List Char
  /-- The words after the options. -/
  rest : List String := []
  /-- The next word is the script itself. -/
  hasCommand : Bool := false
  /-- The options are to be listed, in words or as commands. -/
  listing : Option Bool := none
  /-- The end of the options was marked. -/
  isEnded : Bool := false

namespace OptionReading

def change (o : OptionReading) (value : Bool) (letter : Char) : OptionReading :=
  let others := o.options.filter (· ≠ letter)
  { o with options := if value then letter :: others else others }

/-- Sets the option with a name. -/
def changeNamed (o : OptionReading) (value : Bool) (name : String) : Except String OptionReading :=
  match optionNames.lookup name with
  | some (some letter) => .ok (o.change value letter)
  | some none => .ok o
  | none => .error ("Illegal option -o " ++ name)

/-- Reads the letters of a word; a letter may take a word after it. -/
def letters (atStart value : Bool) : OptionReading → List Char → List String → Except String (OptionReading × List String)
  | o, [], words => .ok (o, words)
  | o, 'o' :: more, words =>
    match words with
    | [] => letters atStart value { o with listing := some value } more []
    | name :: words => do letters atStart value (← o.changeNamed value name) more words
  | o, c :: more, words =>
    if atStart && c = 'c' then letters atStart value { o with hasCommand := true } more words
    else if atStart && c = 'l' then letters atStart value o more words
    else if optionLetters.contains c then letters atStart value (o.change value c) more words
    else .error ("Illegal option -" ++ String.singleton c)

/-- Reads the words that are options, at most `n` of them. -/
def words (atStart : Bool) : Nat → OptionReading → List String → Except String OptionReading
  | 0, o, ws => .ok { o with rest := ws }
  | _, o, [] => .ok o
  | n + 1, o, w :: ws => do
    match w.toList with
    | ['-'] =>
      let quiet := if atStart then o else (o.change false 'x').change false 'v'
      return { quiet with rest := ws }
    | ['-', '-'] => return { o with rest := ws, isEnded := true }
    | '-' :: cs =>
      let (o, ws) ← letters atStart true o cs ws
      words atStart n o ws
    | '+' :: cs =>
      let (o, ws) ← letters atStart false o cs ws
      words atStart n o ws
    | _ => return { o with rest := w :: ws }

end OptionReading

/-- Reads options, of a command, or of the call of a script. -/
def readOptions (atStart : Bool) (options : List Char) (ws : List String) : Except String OptionReading :=
  OptionReading.words atStart ws.length { options } ws

/-- The options with their values, in words or as commands that set them. -/
def optionListing (asWords : Bool) (options : List Char) : String :=
  let isOn (letter : Option Char) : Bool := letter.any options.contains
  let line (name : String) (letter : Option Char) : String :=
    if asWords then name ++ String.ofList (List.replicate (16 - name.length) ' ') ++ (if isOn letter then "on" else "off")
    else "set " ++ (if isOn letter then "-o " else "+o ") ++ name
  let lines := optionNames.map fun o => line o.1 o.2
  "\n".intercalate ((if asWords then ["Current option settings"] else []) ++ lines) ++ "\n"

end FirmwareSymbols.Script
