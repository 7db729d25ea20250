import SurfaceDrift.Decimal.Numeral
import SurfaceDrift.Text.Reader
import SurfaceDrift.Toml.Value

/-!
# Scalars of TOML

Texts come in four forms, with and without escapes, on one line and on several. All other
scalars are a word without blanks (`scalar?`) : truth values, whole numbers in four bases,
floats, and dates and times.
-/

namespace SurfaceDrift.Toml

open Text (Reader)

/-- The blanks within a line. -/
def isBlank (c : Char) : Bool := c == ' ' || c == '\t'

/-- The text from its first character that is no blank. -/
def skipBlanks (cs : List Char) : List Char := cs.dropWhile isBlank

/-- Characters that no text and no comment holds. -/
def isControl (c : Char) : Bool := (c.toNat < 32 && c != '\t') || c.toNat == 127

/-! ## Texts -/

/-- The character of a short escape. -/
def shortEscape? : Char → Option Char
  | 'b' => some '\x08'
  | 't' => some '\t'
  | 'n' => some '\n'
  | 'f' => some '\x0c'
  | 'r' => some '\r'
  | 'e' => some '\x1b'
  | '"' => some '"'
  | '\\' => some '\\'
  | _ => none

/-- How many digits follow the letter of a numeric escape. -/
def escapeDigits? : Char → Option Nat
  | 'x' => some 2
  | 'u' => some 4
  | 'U' => some 8
  | _ => none

/-- The character of an escape, after the backslash. -/
def readEscape : Reader Char
  | [] => none
  | c :: cs =>
    match escapeDigits? c with
    | some n =>
      if cs.length < n then none
      else ((Text.hexNumber? (cs.take n)).bind Text.charOf?).map fun c => (c, cs.drop n)
    | none => (shortEscape? c).map fun c => (c, cs)

/-- The rest of a text with escapes, up to its quote. -/
def readBasic : Nat → Reader (List Char)
  | 0, _ => none
  | _, [] => none
  | fuel + 1, c :: cs =>
    if c = '"' then some ([], cs)
    else if c = '\\' then do
      let (c, rest) ← readEscape cs
      let (more, rest) ← readBasic fuel rest
      return (c :: more, rest)
    else if isControl c then none
    else (readBasic fuel cs).map fun p => (c :: p.1, p.2)

/-- The rest of a text without escapes, up to its quote. -/
def readLiteral : Reader (List Char)
  | [] => none
  | c :: cs =>
    if c = '\'' then some ([], cs)
    else if isControl c then none
    else (readLiteral cs).map fun p => (c :: p.1, p.2)

/-- The end of a text of several lines : three quotes, with up to two more before them. -/
def closing? (quote : Char) : List Char → Option (List Char × List Char)
  | a :: b :: c :: cs =>
    if a = quote && b = quote && c = quote then
      match cs with
      | d :: e :: more =>
        if d = quote && e = quote then some ([quote, quote], more)
        else if d = quote then some ([quote], e :: more)
        else some ([], d :: e :: more)
      | [d] => if d = quote then some ([quote], []) else some ([], [d])
      | [] => some ([], [])
    else none
  | _ => none

/-- The text from its first character that is neither a blank nor part of a line break. -/
def skipBlankLines : List Char → List Char
  | '\r' :: '\n' :: cs => skipBlankLines cs
  | c :: cs => if isBlank c || c == '\n' then skipBlankLines cs else c :: cs
  | [] => []

/-- What follows a backslash at the end of a line : the text from the next line on that
holds more than blanks. -/
def foldLine? (cs : List Char) : Option (List Char) :=
  (Text.dropLineBreak (skipBlanks cs)).map skipBlankLines

/-- Whether a text goes on with a character that no text of several lines holds. Line breaks
stay as they are written. -/
def startsForbidden (cs : List Char) : Bool :=
  cs.head?.any isControl && (Text.dropLineBreak cs).isNone

/-- The rest of a text of several lines with escapes. -/
def readBasicLines : Nat → Reader (List Char)
  | 0, _ => none
  | _, [] => none
  | fuel + 1, c :: cs =>
    match closing? '"' (c :: cs) with
    | some (quotes, rest) => some (quotes, rest)
    | none =>
      if c = '\\' then
        match foldLine? cs with
        | some rest => readBasicLines fuel rest
        | none => do
          let (c, rest) ← readEscape cs
          let (more, rest) ← readBasicLines fuel rest
          return (c :: more, rest)
      else if startsForbidden (c :: cs) then none
      else (readBasicLines fuel cs).map fun p => (c :: p.1, p.2)

/-- The rest of a text of several lines without escapes. -/
def readLiteralLines : Nat → Reader (List Char)
  | 0, _ => none
  | _, [] => none
  | fuel + 1, c :: cs =>
    match closing? '\'' (c :: cs) with
    | some (quotes, rest) => some (quotes, rest)
    | none =>
      if startsForbidden (c :: cs) then none
      else (readLiteralLines fuel cs).map fun p => (c :: p.1, p.2)

/-- The text after its opening quotes, without a line break right after them. -/
def dropFirstBreak (cs : List Char) : List Char := (Text.dropLineBreak cs).getD cs

/-- A text on one line, from its quote on. -/
def readQuoted : Reader String
  | '"' :: cs => (readBasic (cs.length + 1) cs).map fun p => (String.ofList p.1, p.2)
  | '\'' :: cs => (readLiteral cs).map fun p => (String.ofList p.1, p.2)
  | _ => none

/-- A text in any of the four forms, from its quotes on. -/
def readText : Reader String
  | '"' :: '"' :: '"' :: cs =>
    (readBasicLines (cs.length + 1) (dropFirstBreak cs)).map fun p => (String.ofList p.1, p.2)
  | '\'' :: '\'' :: '\'' :: cs =>
    (readLiteralLines (cs.length + 1) (dropFirstBreak cs)).map fun p =>
      (String.ofList p.1, p.2)
  | cs => readQuoted cs

/-! ## Numbers -/

/-- Digits with single underscores between them, as digits alone. -/
def separated? (isDigit : Char → Bool) : List Char → Option (List Char)
  | [] => none
  | [c] => if isDigit c then some [c] else none
  | c :: '_' :: cs => if isDigit c then (separated? isDigit cs).map (c :: ·) else none
  | c :: cs => if isDigit c then (separated? isDigit cs).map (c :: ·) else none

/-- Decimal digits without a needless zero in front. -/
def wholeDigits? (cs : List Char) : Option (List Char) :=
  (separated? Char.isDigit cs).filter fun digits =>
    digits.length == 1 || digits.head? != some '0'

/-- The whole number that a word spells. -/
def integer? : List Char → Option Int
  | '0' :: 'x' :: cs => ofBase? 16 cs
  | '0' :: 'o' :: cs => ofBase? 8 cs
  | '0' :: 'b' :: cs => ofBase? 2 cs
  | cs =>
    let (negative, digits) := Decimal.takeSign cs
    (wholeDigits? digits).map fun digits =>
      if negative then -(Decimal.value digits : Int) else Decimal.value digits
where
  /-- A whole number in digits of another base. -/
  ofBase? (base : Nat) (cs : List Char) : Option Int := do
    let digits ← separated? (fun c => (Text.digitOfBase? base c).isSome) cs
    return ← Text.numberOfBase? base digits

/-- The digits after a point, or none where there is no point. -/
def fraction? : List Char → Option (List Char)
  | [] => some []
  | '.' :: cs => separated? Char.isDigit cs
  | _ => none

/-- The exponent after its letter, or zero where there is none. -/
def exponent? : List Char → Option Int
  | [] => some 0
  | _ :: cs =>
    let (negative, digits) := Decimal.takeSign cs
    (separated? Char.isDigit digits).map fun digits =>
      if negative then -(Decimal.value digits : Int) else Decimal.value digits

/-- The double next to the number that a word with a point or an exponent spells. It is an
infinity where the number is too great. -/
def pointed? (negative : Bool) (cs : List Char) : Option Float := do
  let isMark (c : Char) : Bool := c == 'e' || c == 'E'
  if !(cs.any fun c => c == '.' || isMark c) then none
  let number := cs.takeWhile (!isMark ·)
  let whole ← wholeDigits? (number.takeWhile (· != '.'))
  let places ← fraction? (number.dropWhile (· != '.'))
  let exponent ← exponent? (cs.dropWhile (!isMark ·))
  return Decimal.ofDecimal negative (Decimal.value (whole ++ places))
    (exponent - places.length)

/-- The float that a word spells : an infinity or no number by name, or a number. -/
def float? (word : List Char) : Option Value :=
  let (negative, cs) := Decimal.takeSign word
  if cs = "inf".toList || cs = "nan".toList then
    (Decimal.float? (String.ofList word)).map .float
  else (pointed? negative cs).map .ofFloat

/-! ## Dates and times -/

/-- The number that exactly `n` digits at the beginning spell. -/
def readFixed (n : Nat) : Reader Nat := fun cs =>
  let digits := cs.take n
  if digits.length = n && digits.all Char.isDigit then some (Decimal.value digits, cs.drop n)
  else none

/-- Whether a year has a 29 February. -/
def isLeapYear (year : Nat) : Bool :=
  year % 4 == 0 && (year % 100 != 0 || year % 400 == 0)

/-- How many days a month has. -/
def daysOfMonth (year month : Nat) : Nat :=
  if month = 2 then (if isLeapYear year then 29 else 28)
  else if month = 4 || month = 6 || month = 9 || month = 11 then 30
  else 31

/-- A number of at least `n` digits. -/
def padded (n value : Nat) : String :=
  let digits := Nat.toDigits 10 value
  String.ofList (List.replicate (n - digits.length) '0' ++ digits)

/-- A date, in its written form. -/
def readDate : Reader String := fun cs => do
  let (year, cs) ← readFixed 4 cs
  let cs ← expect '-' cs
  let (month, cs) ← readFixed 2 cs
  let cs ← expect '-' cs
  let (day, cs) ← readFixed 2 cs
  if 1 ≤ month && month ≤ 12 && 1 ≤ day && day ≤ daysOfMonth year month then
    some (padded 4 year ++ "-" ++ padded 2 month ++ "-" ++ padded 2 day, cs)
  else none
where
  /-- The text after a character. -/
  expect (c : Char) : List Char → Option (List Char)
    | d :: cs => if c = d then some cs else none
    | [] => none

/-- The digits of a part of a second, to nine places and without zeros at the end. -/
def secondPart (digits : List Char) : String :=
  let kept := ((digits.take 9).reverse.dropWhile (· == '0')).reverse
  if kept.isEmpty then "" else "." ++ String.ofList kept

/-- The part of a second, if there is one. -/
def readSecondPart : Reader String
  | '.' :: cs =>
    let (digits, rest) := Decimal.spanDigits cs
    if digits.isEmpty then none else some (secondPart digits, rest)
  | cs => some ("", cs)

/-- The seconds of a time, which may be left out. -/
def readSeconds : Reader String
  | ':' :: cs => do
    let (second, cs) ← readFixed 2 cs
    let (part, cs) ← readSecondPart cs
    if second ≤ 60 then some (":" ++ padded 2 second ++ part, cs) else none
  | cs => some (":00", cs)

/-- A time of day, in its written form. -/
def readTime : Reader String := fun cs => do
  let (hour, cs) ← readFixed 2 cs
  let cs ← readDate.expect ':' cs
  let (minute, cs) ← readFixed 2 cs
  let (seconds, cs) ← readSeconds cs
  if hour ≤ 23 && minute ≤ 59 then
    some (padded 2 hour ++ ":" ++ padded 2 minute ++ seconds, cs)
  else none

/-- The distance from universal time, in its written form. No distance at all has a plus. -/
def readOffset : Reader String
  | [] => some ("", [])
  | 'Z' :: cs => some ("Z", cs)
  | 'z' :: cs => some ("Z", cs)
  | sign :: cs =>
    if sign = '+' || sign = '-' then do
      let (hour, cs) ← readFixed 2 cs
      let cs ← readDate.expect ':' cs
      let (minute, cs) ← readFixed 2 cs
      let sign := if hour = 0 && minute = 0 then "+" else sign.toString
      if hour ≤ 23 && minute ≤ 59 then some (sign ++ padded 2 hour ++ ":" ++ padded 2 minute, cs)
      else none
    else none

/-- A date with a time, in its written form. -/
def dateTime? (cs : List Char) : Option String := do
  let (date, cs) ← readDate cs
  match cs with
  | [] => some date
  | c :: cs =>
    if c = 'T' || c = 't' || c = ' ' then
      let (time, cs) ← readTime cs
      let (offset, cs) ← readOffset cs
      if cs.isEmpty then some (date ++ "T" ++ time ++ offset) else none
    else none

/-- A time of day alone, in its written form. -/
def time? (cs : List Char) : Option String := do
  let (time, cs) ← readTime cs
  if cs.isEmpty then some time else none

/-! ## Words -/

/-- Whether a character ends a scalar that is no text. -/
def endsWord (c : Char) : Bool :=
  c == ' ' || c == '\t' || c == '\n' || c == '\r' || c == ',' || c == ']' || c == '}' ||
    c == '#' || c == '='

/-- The value that a word is. -/
def scalar? (word : List Char) : Option Value :=
  match String.ofList word with
  | "true" => some (.bool true)
  | "false" => some (.bool false)
  | _ =>
    ((integer? word).map Value.ofInt).or
      ((float? word).or (((dateTime? word).or (time? word)).map .moment))

/-- A scalar that is no text. A date and a time may have one space between them. -/
def readScalar : Reader Value := fun cs =>
  let word := cs.takeWhile (!endsWord ·)
  let rest := cs.dropWhile (!endsWord ·)
  match rest with
  | ' ' :: d :: more =>
    if d.isDigit && (readDate word).any (·.2.isEmpty) then
      let joined := word ++ ' ' :: (d :: more).takeWhile (!endsWord ·)
      (scalar? joined).map fun v => (v, (d :: more).dropWhile (!endsWord ·))
    else (scalar? word).map fun v => (v, rest)
  | _ => (scalar? word).map fun v => (v, rest)

end SurfaceDrift.Toml
