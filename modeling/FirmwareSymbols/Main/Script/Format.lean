import FirmwareSymbols.Main.Script.Arithmetic
import FirmwareSymbols.Main.Script.Pattern

/-!
# Formatted output

Texts with escapes, and formats whose directives are filled with arguments. All texts are bytes, each as the character
with its number. What is wrong with an argument is told, and the number at its front is used; a directive that is wrong
ends the output.
-/

namespace FirmwareSymbols.Script

/-! ### Escapes -/

def isOctal (c : Char) : Bool := '0' ≤ c && c ≤ '7'

/-- The byte with the value of octal digits. -/
def octalByte (digits : List Char) : Char := Char.ofNat (digits.foldl (fun n c => n * 8 + Text.digitValue c) 0 % 256)

/-- The characters that letters stand for after a backslash. -/
def escapeLetters : List (Char × Char) :=
  [('a', '\x07'), ('b', '\x08'), ('e', '\x1b'), ('f', '\x0c'), ('n', '\n'), ('r', '\r'), ('t', '\t'), ('v', '\x0b'), ('\\', '\\')]

/-- The front of a list with a property, at most `n` elements. -/
def takeUpTo (test : Char → Bool) (n : Nat) (s : List Char) : List Char := (s.take n).takeWhile test

/-- What stands for the text after a backslash, and how many characters of the text that takes. -/
def escape (s : List Char) : Char × Nat :=
  match takeUpTo isOctal 3 s with
  | [] =>
    match s.head?.bind fun c => escapeLetters.lookup c with
    | some c => (c, 1)
    | none => ('\\', 0)
  | digits => (octalByte digits, digits.length)

/-- A text with its escapes replaced, and whether an escape in it ends all output. Octal numbers may have a further
zero in front. -/
def unescapedWithin : Nat → List Char → List Char × Bool
  | 0, _ => ([], false)
  | _, [] => ([], false)
  | n + 1, '\\' :: rest =>
    match rest with
    | 'c' :: _ => ([], true)
    | _ =>
      let digits := match rest with
        | '0' :: d :: more => if isOctal d then d :: more else rest
        | _ => rest
      let (c, length) := escape digits
      let (text, isOver) := unescapedWithin n (digits.drop length)
      (c :: text, isOver)
  | n + 1, c :: rest =>
    let (text, isOver) := unescapedWithin n rest
    (c :: text, isOver)

def unescaped (s : List Char) : List Char × Bool := unescapedWithin s.length s

/-- The output of words on a line, with their escapes replaced. -/
def echoed : List String → List Char
  | [] => ['\n']
  | word :: rest =>
    let (text, isOver) := unescaped (byteChars word)
    if isOver then text else text ++ (if rest.isEmpty then ['\n'] else ' ' :: echoed rest)

/-- The same without the end of the line. -/
def echoedOpen (words : List String) : List Char :=
  let (text, _) := unescaped (byteChars (" ".intercalate words))
  text

/-- The output of words on a line where escapes are replaced only if that is asked for. -/
def echoedPlain (words : List String) : List Char :=
  let isOption (w : String) : Bool := w.length > 1 && w.toList.head? = some '-' && w.toList.tail.all "neE".toList.contains
  let letters := (words.takeWhile isOption).flatMap String.toList
  let rest := words.dropWhile isOption
  let escapes := (letters.filter fun c => c = 'e' || c = 'E').getLast? = some 'e'
  if escapes then if letters.contains 'n' then echoedOpen rest else echoed rest
  else byteChars (" ".intercalate rest) ++ (if letters.contains 'n' then [] else ['
'])

/-! ### Numbers in arguments -/

/-- The number at the front of a text, and what follows it. -/
def leadingNumber? (s : List Char) : Option (Int × List Char) :=
  let (sign, digits) := match s.dropWhile isSpace with
    | '-' :: rest => ((-1 : Int), rest)
    | '+' :: rest => (1, rest)
    | s => (1, s)
  let value (base : Nat) (s : List Char) : Int × List Char :=
    (sign * (s.takeWhile (isDigitIn base)).foldl (fun n c => n * base + (Text.hexDigit? c).getD 0) 0,
      s.dropWhile (isDigitIn base))
  match digits with
  | '0' :: x :: d :: rest =>
    if (x = 'x' || x = 'X') && isDigitIn 16 d then some (value 16 (d :: rest)) else some (value 8 digits)
  | '0' :: _ => some (value 8 digits)
  | c :: _ => if Text.isDigit c then some (value 10 digits) else none
  | [] => none

/-- A number within bounds; the flag tells whether it was. -/
def bounded (low high n : Int) : Int × Bool := (max low (min high n), low ≤ n && n ≤ high)

/-- The value of an argument, and what is wrong with it. -/
def numberArgument (isSigned : Bool) (text : String) : Int × List String :=
  match byteChars text with
  | '"' :: rest | '\'' :: rest => ((rest.head?.getD '\x00').toNat, [])
  | s =>
    match leadingNumber? s with
    | none => (0, if s.isEmpty then [] else [text ++ ": expected numeric value"])
    | some (n, rest) =>
      let (value, fits) :=
        if isSigned then bounded (-largest - 1) largest n
        else
          let (m, fits) := bounded (-(2 * largest + 1)) (2 * largest + 1) n
          (if m < 0 then m + (2 * largest + 2) else m, fits)
      (value,
        if !rest.isEmpty then [text ++ ": not completely converted"]
        else if fits then [] else [text ++ ": Numerical result out of range"])

/-! ### Directives -/

structure Directive where
  flags : List Char
  width : Nat
  precision : Option Nat
  conversion : Char

namespace Directive

def hasFlag (d : Directive) (c : Char) : Bool := d.flags.contains c

/-- Fills a text up to the width. -/
def padded (d : Directive) (s : List Char) : List Char :=
  let blanks := List.replicate (d.width - s.length) ' '
  if d.hasFlag '-' then s ++ blanks else blanks ++ s

/-- A number with its sign or mark, filled up with zeros if that is asked for. -/
def paddedNumber (d : Directive) (mark digits : List Char) (mayFill : Bool) : List Char :=
  let zeros := if d.hasFlag '0' && !d.hasFlag '-' && mayFill then d.width - (mark.length + digits.length) else 0
  d.padded (mark ++ List.replicate zeros '0' ++ digits)

def signMark (d : Directive) (isNegative : Bool) : List Char :=
  if isNegative then ['-'] else if d.hasFlag '+' then ['+'] else if d.hasFlag ' ' then [' '] else []

/-- A whole number as the directive asks. -/
def whole (d : Directive) (n : Int) : List Char :=
  let base := match d.conversion with
    | 'o' => 8
    | 'x' | 'X' => 16
    | _ => 10
  let plain := if n = 0 && d.precision = some 0 then [] else Nat.toDigits base n.natAbs
  let long := List.replicate (d.precision.getD 1 - plain.length) '0' ++ plain
  let digits := if d.conversion = 'o' && d.hasFlag '#' && long.head? ≠ some '0' then '0' :: long else long
  let mark := match d.conversion with
    | 'd' | 'i' => d.signMark (n < 0)
    | 'x' | 'X' => if d.hasFlag '#' && n ≠ 0 then ['0', 'x'] else []
    | _ => []
  let cased (s : List Char) : List Char := if d.conversion = 'X' then s.map Char.toUpper else s
  d.paddedNumber (cased mark) (cased digits) d.precision.isNone

end Directive

/-! ### Decimal fractions -/

/-- A number `digits · 10 ^ exponent`. -/
structure Decimal where
  isNegative : Bool := false
  digits : Nat := 0
  exponent : Int := 0

namespace Decimal

/-- The number at the front of a text, and what follows it. -/
def ofText? (s : List Char) : Option (Decimal × List Char) :=
  let s := s.dropWhile isSpace
  let (isNegative, s) := match s with
    | '-' :: rest => (true, rest)
    | '+' :: rest => (false, rest)
    | _ => (false, s)
  let front := s.takeWhile Text.isDigit
  let after := s.dropWhile Text.isDigit
  let (fraction, after) := match after with
    | '.' :: rest => (rest.takeWhile Text.isDigit, rest.dropWhile Text.isDigit)
    | _ => ([], after)
  if front.isEmpty && fraction.isEmpty then none
  else
    let (exponent, after) : Int × List Char := match after with
      | e :: rest =>
        let (sign, digits) := match rest with
          | '-' :: more => ((-1 : Int), more)
          | '+' :: more => (1, more)
          | _ => (1, rest)
        match if e = 'e' || e = 'E' then Text.number? digits else none with
          | some (n, more) => (sign * min n 400, more)
          | none => (0, after)
      | [] => (0, after)
    some (⟨isNegative, Text.digitsValue (front ++ fraction), exponent - fraction.length⟩, after)

/-- A quotient, rounded to the nearest number and from the middle to an even one. -/
def roundedQuotient (a b : Nat) : Nat :=
  let q := a / b
  let twice := 2 * (a % b)
  if twice < b || (twice = b && q % 2 = 0) then q else q + 1

/-- The number times a power of ten, as a whole number. -/
def scaled (x : Decimal) (places : Int) : Nat :=
  let e := x.exponent + places
  if 0 ≤ e then x.digits * Nat.pow 10 e.toNat else roundedQuotient x.digits (Nat.pow 10 (-e).toNat)

/-- Digits with a point in front of the last `places`. -/
def pointed (n places : Nat) (keepsPoint : Bool) : List Char :=
  let ds := Nat.toDigits 10 n
  let ds := List.replicate (places + 1 - ds.length) '0' ++ ds
  ds.take (ds.length - places) ++ (if places = 0 && !keepsPoint then [] else '.' :: ds.drop (ds.length - places))

/-- The power of ten of the first digit. -/
def magnitude (x : Decimal) : Int := if x.digits = 0 then 0 else (Nat.toDigits 10 x.digits).length - 1 + x.exponent

/-- The power of ten when the number has been rounded to one digit and `places` more. -/
def magnitudeRounded (x : Decimal) (places : Nat) : Int :=
  if (Nat.toDigits 10 (x.scaled (places - x.magnitude))).length > places + 1 then x.magnitude + 1 else x.magnitude

def withExponent (x : Decimal) (places : Nat) (keepsPoint : Bool) : List Char :=
  let m := if x.digits = 0 then 0 else x.magnitudeRounded places
  let power := Nat.toDigits 10 m.natAbs
  pointed (x.scaled (places - m)) places keepsPoint ++ ['e', if m < 0 then '-' else '+'] ++
    (if power.length = 1 then '0' :: power else power)

/-- The same without zeros at the end of the fraction. -/
def trimZeros (s : List Char) : List Char :=
  let mantissa := s.takeWhile (· ≠ 'e')
  let rest := s.dropWhile (· ≠ 'e')
  if mantissa.contains '.' then
    let kept := mantissa.reverse.dropWhile (· = '0')
    (if kept.head? = some '.' then kept.tail else kept).reverse ++ rest
  else s

/-- The digits that a directive asks for. -/
def render (x : Decimal) (d : Directive) : List Char :=
  let places := d.precision.getD 6
  let keeps := d.hasFlag '#'
  match d.conversion.toLower with
  | 'e' => x.withExponent places keeps
  | 'g' =>
    let count := max 1 places
    let m := x.magnitudeRounded (count - 1)
    let text :=
      if m < -4 || count ≤ m then x.withExponent (count - 1) keeps
      else pointed (x.scaled (count - 1 - m)) (count - 1 - m).toNat keeps
    if keeps then text else trimZeros text
  | _ => pointed (x.scaled places) places keeps

end Decimal

/-- A fraction as a directive asks, and what is wrong with the argument. -/
def fraction (d : Directive) (text : String) : List Char × List String :=
  let (x, faults) := match Decimal.ofText? (byteChars text) with
    | some (x, rest) => (x, if rest.isEmpty then [] else [text ++ ": not completely converted"])
    | none => ({}, if text = "" then [] else [text ++ ": expected numeric value"])
  let digits := x.render d
  let cased := if d.conversion.isUpper then digits.map Char.toUpper else digits
  (d.paddedNumber (d.signMark x.isNegative) cased true, faults)

/-! ### Formats -/

/-- What printing with a format comes to. -/
structure Printed where
  text : List Char := []
  /-- The arguments that are left. -/
  arguments : List String
  faults : List String := []
  /-- Nothing more is printed. -/
  isOver : Bool := false
  /-- What is wrong with the format. -/
  mistake : Option String := none

namespace Printed

def add (p : Printed) (text : List Char) : Printed := { p with text := p.text ++ text }

def next (p : Printed) : String × Printed := (p.arguments.head?.getD "", { p with arguments := p.arguments.tail })

end Printed

/-- A number in a directive, or the next argument in its place. -/
def sizeOf (p : Printed) (s : List Char) : Option Int × List Char × Printed :=
  match s with
  | '*' :: rest =>
    let (text, p) := p.next
    let (n, faults) := numberArgument true text
    (some n, rest, { p with faults := p.faults ++ faults })
  | _ =>
    match Text.number? s with
    | some (n, rest) => (some n, rest, p)
    | none => (none, s, p)

/-- Prints one argument. -/
def convert (d : Directive) (p : Printed) : Printed :=
  let (text, after) := p.next
  let cut (s : List Char) : List Char := match d.precision with
    | some n => s.take n
    | none => s
  match d.conversion with
  | 's' => after.add (d.padded (cut (byteChars text)))
  | 'b' =>
    let (s, isOver) := unescaped (byteChars text)
    { after.add (d.padded (cut s)) with isOver }
  | 'c' => after.add (d.padded [(byteChars text).head?.getD '\x00'])
  | c =>
    let (s, faults) :=
      if ['e', 'E', 'f', 'F', 'g', 'G'].contains c then fraction d text
      else
        let (n, faults) := numberArgument (c = 'd' || c = 'i') text
        (d.whole n, faults)
    { after.add s with faults := after.faults ++ faults }

/-- All conversions. -/
def conversions : List Char := "sbcdiouxXeEfFgG".toList

/-- Prints what follows a percent sign, and gives the rest of the format. -/
def directive (p : Printed) (s : List Char) : Printed × List Char :=
  let flags := s.takeWhile "#-+ 0".toList.contains
  let (width, rest, p) := sizeOf p (s.dropWhile "#-+ 0".toList.contains)
  let (precision, rest, p) := match rest with
    | '.' :: more =>
      let (n, rest, p) := sizeOf p more
      (some (n.getD 0), rest, p)
    | _ => (none, rest, p)
  match rest with
  | [] => ({ p with mistake := some "missing format character" }, [])
  | c :: rest' =>
    if conversions.contains c then
      let w := width.getD 0
      (convert ⟨if w < 0 then '-' :: flags else flags, w.natAbs, (precision.filter (0 ≤ ·)).map Int.toNat, c⟩ p, rest')
    else
      let text := ofByteChars ('%' :: s.take (s.length - rest'.length))
      ({ p with mistake := some (text ++ ": invalid directive") }, [])

/-- Goes through a format once. -/
def printOnce : Nat → Printed → List Char → Printed
  | 0, p, _ => p
  | _, p, [] => p
  | n + 1, p, c :: rest =>
    if p.isOver || p.mistake.isSome then p
    else
      match c, rest with
      | '\\', _ =>
        let (d, length) := escape rest
        printOnce n (p.add [d]) (rest.drop length)
      | '%', '%' :: rest => printOnce n (p.add ['%']) rest
      | '%', _ =>
        let (q, rest) := directive p rest
        printOnce n q rest
      | _, _ => printOnce n (p.add [c]) rest

/-- Goes through a format again and again while it takes arguments and some are left, at most `n` times. -/
def printAgain (format : List Char) : Nat → Printed → Printed
  | 0, p => p
  | n + 1, p =>
    let q := printOnce (format.length + 1) p format
    if q.isOver || q.mistake.isSome || q.arguments.isEmpty || q.arguments.length = p.arguments.length then q
    else printAgain format n q

def printed (format : String) (arguments : List String) : Printed :=
  printAgain (byteChars format) (arguments.length + 1) { arguments }

/-- The bytes of a printed text. -/
def bytesOf (s : List Char) : ByteArray := ⟨(s.map fun c => UInt8.ofNat c.toNat).toArray⟩

end FirmwareSymbols.Script
