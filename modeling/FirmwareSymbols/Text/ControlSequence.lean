/-!
# Control sequences

Terminals take some characters as orders and show only the others. An order is a control character, or a sequence that
starts with the escape character. `shown` leaves what a terminal would show.
-/

namespace FirmwareSymbols.Text

/-- Where in a control sequence a text is. -/
inductive SequenceState
  /-- Outside of all sequences. -/
  | ground
  | escape
  /-- After an escape and a character from space to slash. -/
  | escapeMiddle
  /-- Parameters up to a letter. -/
  | control
  | deviceStart
  | deviceParameters
  | deviceMiddle
  /-- A text that ends with a mark of its own. -/
  | string
  /-- A text that ends with the bell. -/
  | command
  /-- A sequence put off by a blank inside of it, up to the next control character. -/
  | delayed (sequence : SequenceState)
deriving DecidableEq, Repr

/-- The control characters that move on in the line or to another one. -/
def isBlankControl (c : Char) : Bool := c = '\t' || c = '\n' || c = '\x0c' || c = '\r'

/-- A string ends at the byte with this number, be it a part of a longer character. -/
def endsString (c : Char) : Bool := c.toString.toUTF8.toList.contains 0x9c

namespace SequenceState

/-- Whether a character is shown. -/
def isShown (s : SequenceState) (c : Char) : Bool :=
  match s with
  | ground | delayed _ => (' ' ≤ c && c ≠ '\x7f') || isBlankControl c
  | escape | escapeMiddle | control => isBlankControl c
  | deviceStart | deviceParameters | deviceMiddle | string | command => false

/-- The state after the character behind an escape. -/
def afterEscape (c : Char) : SequenceState :=
  if ' ' ≤ c && c ≤ '/' then escapeMiddle
  else if c = '[' then control
  else if c = 'P' then deviceStart
  else if c = ']' then command
  else if c = 'X' || c = '^' || c = '_' then string
  else if '0' ≤ c && c ≤ '~' then ground
  else escape

/-- The state after a character that is neither shown nor valid everywhere. -/
def afterHidden (s : SequenceState) (c : Char) : SequenceState :=
  match s with
  | ground => ground
  | escape => afterEscape c
  | escapeMiddle => if '0' ≤ c && c ≤ '~' then ground else escapeMiddle
  | control => if '@' ≤ c && c ≤ '~' then ground else control
  | deviceStart =>
    if ' ' ≤ c && c ≤ '/' then deviceMiddle
    else if '0' ≤ c && c ≤ '?' then deviceParameters
    else if '@' ≤ c && c ≤ '~' then string
    else deviceStart
  | deviceParameters =>
    if ' ' ≤ c && c ≤ '/' then deviceMiddle
    else if '<' ≤ c && c ≤ '~' then string
    else deviceParameters
  | deviceMiddle => if '0' ≤ c && c ≤ '~' then string else deviceMiddle
  | string => if endsString c then ground else string
  | command => if c = '\x07' then ground else command
  | delayed sequence => sequence.afterHidden c

/-- The state after a character that is shown. Characters beyond ASCII end a sequence that is put off. -/
def afterShown (s : SequenceState) (c : Char) : SequenceState :=
  match s with
  | ground => ground
  | delayed sequence => if c < '\x80' then delayed sequence else ground
  | sequence => delayed sequence

/-- The state after a character. An escape and the two cancelling characters are valid everywhere. -/
def next (s : SequenceState) (c : Char) : SequenceState :=
  if c = '\x1b' then escape
  else if c = '\x18' || c = '\x1a' then ground
  else if s.isShown c then s.afterShown c
  else s.afterHidden c

end SequenceState

/-- The characters that are shown of a text that starts in a state. -/
def shownFrom (s : SequenceState) : List Char → List Char
  | [] => []
  | c :: rest => if s.isShown c then c :: shownFrom (s.next c) rest else shownFrom (s.next c) rest

/-- What a terminal shows of a text. -/
def shown (text : String) : String := String.ofList (shownFrom .ground text.toList)

end FirmwareSymbols.Text
