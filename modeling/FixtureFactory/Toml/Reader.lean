import FixtureFactory.Toml.Document
import FixtureFactory.Toml.Number

/-!
# Reading TOML

The reader of TOML 1.0.  It goes over the characters once; every alternative is chosen by the
characters at hand, and a text is either read to its end or refused.

Loops are bounded by the number of characters left, of which each round takes at least one.  Arrays
and inline tables may be nested only so deep, and that depth bounds the recursion of values; the
same limit holds for the number of segments of a key.
-/

namespace FixtureFactory
namespace Toml

/-- A reader of characters. -/
abbrev Reader := StateT (List Char) Option

namespace Reader

/-- The depth from which nesting is refused. -/
def depthLimit : Nat := 80

/-- The next character, if there is one, without taking it. -/
def peek : Reader (Option Char) := return (← get).head?

/-- Takes the next character. -/
def next : Reader Char := fun cs =>
  match cs with
  | c :: rest => some (c, rest)
  | [] => none

/-- Takes a given text. -/
def expect (text : List Char) : Reader Unit := fun cs =>
  if text.isPrefixOf cs then some ((), cs.drop text.length) else none

/-- Takes a given text if it is there. -/
def accept (text : List Char) : Reader Bool := fun cs =>
  if text.isPrefixOf cs then some (true, cs.drop text.length) else some (false, cs)

/-- Takes the characters that satisfy a test, as many as there are. -/
def takeWhile (test : Char → Bool) : Reader (List Char) := fun cs =>
  some (cs.takeWhile test, cs.dropWhile test)

/-- Takes the characters that satisfy a test, at least one. -/
def takeSome (test : Char → Bool) : Reader (List Char) := do
  let cs ← takeWhile test
  if cs.isEmpty then failure else return cs

/-- Repeats a step until it says that it is the last one, at most `fuel` times. -/
def loop {α : Type} (step : α → Reader (α × Bool)) : Nat → α → Reader α
  | 0, _ => failure
  | fuel + 1, state => do
      let (state, done) ← step state
      if done then return state else loop step fuel state

/-- Repeats a step, as often as there are characters left, and once more for the end. -/
def repeating {α : Type} (start : α) (step : α → Reader (α × Bool)) : Reader α := do
  loop step ((← get).length + 1) start

/-! ## Blanks, comments and line ends -/

/-- Whether a character is a blank inside a line. -/
def isSpace (c : Char) : Bool := c == ' ' || c == '\t'

/-- Whether a character may stand in a comment. -/
def isCommentChar (c : Char) : Bool := c == '\t' || (32 ≤ c.toNat && c.toNat != 127)

/-- Takes the blanks of a line. -/
def spaces : Reader Unit := do let _ ← takeWhile isSpace

/-- Takes a line end. -/
def newline : Reader Unit := do
  if ← accept ['\n'] then return () else expect ['\r', '\n']

/-- Takes a comment if there is one. -/
def comment : Reader Unit := do
  if ← accept ['#'] then let _ ← takeWhile isCommentChar

/-- Takes what may follow at the end of a line. -/
def lineEnd : Reader Unit := do
  spaces
  comment
  if (← get).isEmpty then return () else newline

/-- Takes blanks, comments and line ends. -/
def blankLines : Reader Unit :=
  repeating () fun _ => do
    spaces
    comment
    match ← peek with
    | some '\n' => newline; return ((), false)
    | some '\r' => newline; return ((), false)
    | _ => return ((), true)

/-! ## Texts -/

/-- The value of a hexadecimal digit. -/
def hexValue (c : Char) : Nat :=
  if c.isDigit then c.toNat - 48 else if c.isLower then c.toNat - 87 else c.toNat - 55

/-- Whether a character is a hexadecimal digit. -/
def isHexDigit (c : Char) : Bool :=
  c.isDigit || ('a' ≤ c && c ≤ 'f') || ('A' ≤ c && c ≤ 'F')

/-- The character of `count` hexadecimal digits. -/
def hexChar (count : Nat) : Reader Char := do
  let digits := (← get).take count
  if digits.length != count || !digits.all isHexDigit then failure
  modify (·.drop count)
  let code := digitsIn 16 (digits.map hexValue)
  if code < 0xD800 || (0xDFFF < code && code < 0x110000) then return Char.ofNat code
  else failure

/-- The character after a backslash. -/
def escaped : Reader Char := do
  match ← next with
  | 'b' => return '\x08'
  | 't' => return '\t'
  | 'n' => return '\n'
  | 'f' => return '\x0c'
  | 'r' => return '\r'
  | '"' => return '"'
  | '\\' => return '\\'
  | 'u' => hexChar 4
  | 'U' => hexChar 8
  | _ => failure

/-- Whether a character may stand in a text as it is, line ends and quotes aside. -/
def isTextChar (c : Char) : Bool := c == '\t' || (32 ≤ c.toNat && c.toNat != 127)

/-- The rest of a text in double quotes. -/
def basicText : Reader (List Char) := do
  let cs ← repeating [] fun cs => do
    match ← next with
    | '"' => return (cs, true)
    | '\\' => return ((← escaped) :: cs, false)
    | c => if isTextChar c then return (c :: cs, false) else failure
  return cs.reverse

/-- The rest of a text in single quotes. -/
def literalText : Reader (List Char) := do
  let cs ← takeWhile fun c => isTextChar c && c != '\x27'
  expect ['\x27']
  return cs

/-- A run of quotes inside a text in triple quotes: from three on it ends the text, and up to two
of them belong to the text. -/
def closingQuotes (quote : Char) (cs : List Char) : Reader (List Char × Bool) := do
  let run := (← takeWhile (· == quote)).length
  if run < 3 then return (List.replicate run quote ++ cs, false)
  else if run ≤ 5 then return (List.replicate (run - 3) quote ++ cs, true)
  else failure

/-- A line end inside a text in triple quotes. -/
def textNewline (cs : List Char) : Reader (List Char × Bool) := do
  newline
  return ('\n' :: cs, false)

/-- Whether a backslash stands at the end of its line. -/
def isLineContinuation (rest : List Char) : Bool :=
  match rest.dropWhile isSpace with
  | '\n' :: _ => true
  | '\r' :: '\n' :: _ => true
  | _ => false

/-- Takes blanks and line ends. -/
def blanks : Reader Unit :=
  repeating () fun _ => do
    spaces
    match ← peek with
    | some '\n' => newline; return ((), false)
    | some '\r' => newline; return ((), false)
    | _ => return ((), true)

/-- The rest of a text in triple double quotes. -/
def basicLines : Reader (List Char) := do
  if (← peek) == some '\n' || ['\r', '\n'].isPrefixOf (← get) then newline
  let cs ← repeating [] fun cs => do
    match ← peek with
    | some '"' => closingQuotes '"' cs
    | some '\\' =>
        let _ ← next
        if isLineContinuation (← get) then
          blanks
          return (cs, false)
        else return ((← escaped) :: cs, false)
    | some '\n' => textNewline cs
    | some '\r' => textNewline cs
    | some c =>
        let _ ← next
        if isTextChar c then return (c :: cs, false) else failure
    | none => failure
  return cs.reverse

/-- The rest of a text in triple single quotes. -/
def literalLines : Reader (List Char) := do
  if (← peek) == some '\n' || ['\r', '\n'].isPrefixOf (← get) then newline
  let cs ← repeating [] fun cs => do
    match ← peek with
    | some '\x27' => closingQuotes '\x27' cs
    | some '\n' => textNewline cs
    | some '\r' => textNewline cs
    | some c =>
        let _ ← next
        if isTextChar c then return (c :: cs, false) else failure
    | none => failure
  return cs.reverse

/-- A text of any kind. -/
def text : Reader String := do
  let cs ←
    if ← accept ['"', '"', '"'] then basicLines
    else if ← accept ['"'] then basicText
    else if ← accept ['\x27', '\x27', '\x27'] then literalLines
    else
      expect ['\x27']
      literalText
  return String.ofList cs

/-! ## Dates and times -/

/-- A number of exactly `count` decimal digits, within bounds. -/
def fixedDigits (count low high : Nat) : Reader Nat := do
  let digits := (← get).take count
  if digits.length != count || !digits.all Char.isDigit then failure
  modify (·.drop count)
  let n := digitsIn 10 (digits.map hexValue)
  if low ≤ n && n ≤ high then return n else failure

/-- A number with at least `width` digits. -/
def padded (width n : Nat) : String :=
  let digits := Nat.toDigits 10 n
  String.ofList (List.replicate (width - digits.length) '0' ++ digits)

/-- The number of days of a month. -/
def daysIn (year month : Nat) : Nat :=
  if month == 2 then
    if year % 4 == 0 && (year % 100 != 0 || year % 400 == 0) then 29 else 28
  else if [4, 6, 9, 11].contains month then 30 else 31

/-- A date. -/
def date : Reader String := do
  let year ← fixedDigits 4 0 9999
  expect ['-']
  let month ← fixedDigits 2 1 12
  expect ['-']
  let day ← fixedDigits 2 1 31
  if day ≤ daysIn year month then
    return padded 4 year ++ "-" ++ padded 2 month ++ "-" ++ padded 2 day
  else failure

/-- The fraction of a second, to nine places and without the zeros at its end. -/
def secondFraction : Reader String := do
  if ← accept ['.'] then
    let digits ← takeSome Char.isDigit
    let places := (digits.take 9 ++ List.replicate (9 - digits.length) '0').reverse
    let shown := (places.dropWhile (· == '0')).reverse
    return if shown.isEmpty then "" else "." ++ String.ofList shown
  else return ""

/-- A time of day. -/
def time : Reader String := do
  let hour ← fixedDigits 2 0 23
  expect [':']
  let minute ← fixedDigits 2 0 59
  expect [':']
  let second ← fixedDigits 2 0 60
  return padded 2 hour ++ ":" ++ padded 2 minute ++ ":" ++ padded 2 second ++ (← secondFraction)

/-- The offset of a time of day, if there is one. -/
def timeOffset : Reader String := do
  match ← peek with
  | some 'Z' => let _ ← next; return "Z"
  | some 'z' => let _ ← next; return "Z"
  | some c =>
      if c == '+' || c == '-' then
        let _ ← next
        let hour ← fixedDigits 2 0 23
        expect [':']
        let minute ← fixedDigits 2 0 59
        let sign := if c == '-' && hour + minute != 0 then "-" else "+"
        return sign ++ padded 2 hour ++ ":" ++ padded 2 minute
      else return ""
  | none => return ""

/-- The time of day after a date, if there is one. -/
def timeAfterDate : Reader String := do
  match ← next with
  | 'T' => return "T" ++ (← time) ++ (← timeOffset)
  | 't' => return "T" ++ (← time) ++ (← timeOffset)
  | ' ' => return "T" ++ (← time) ++ (← timeOffset)
  | _ => failure

/-- A date, a time of day, or both. -/
def moment : Reader String :=
  (do
    let day ← date
    return day ++ (← timeAfterDate <|> pure "")) <|> time

/-! ## Numbers -/

/-- Digits of a base, between which single underscores may stand. -/
def groupedDigits (isDigitChar : Char → Bool) : Reader (List Char) := do
  let cs ← takeSome fun c => isDigitChar c || c == '_'
  let groups := cs.splitOn '_'
  if groups.any List.isEmpty then failure else return cs.filter (· != '_')

/-- The sign of a number; the flag says whether it is negative. -/
def sign : Reader Bool := do
  if ← accept ['-'] then return true
  else
    let _ ← accept ['+']
    return false

/-- The digits of a decimal integer, which has no needless zero at its front. -/
def decimalDigits : Reader (List Char) := do
  let cs ← groupedDigits Char.isDigit
  if cs.head? == some '0' && cs.length != 1 then failure else return cs

/-- An integer of 64 bits. -/
def boundedInteger (negative : Bool) (n : Nat) : Reader Int :=
  let number : Int := if negative then -n else n
  if Int64.minValue.toInt ≤ number && number ≤ Int64.maxValue.toInt then pure number else failure

/-- An integer of any base. -/
def integer : Reader Int := do
  if ← accept ['0', 'x'] then
    boundedInteger false (digitsIn 16 ((← groupedDigits isHexDigit).map hexValue))
  else if ← accept ['0', 'o'] then
    boundedInteger false
      (digitsIn 8 ((← groupedDigits fun c => '0' ≤ c && c ≤ '7').map hexValue))
  else if ← accept ['0', 'b'] then
    boundedInteger false
      (digitsIn 2 ((← groupedDigits fun c => c == '0' || c == '1').map hexValue))
  else do
    let negative ← sign
    boundedInteger negative (digitsIn 10 ((← decimalDigits).map hexValue))

/-- The exponent of a number, if there is one. -/
def exponent? : Reader (Option Int) := do
  match ← peek with
  | some c =>
      if c == 'e' || c == 'E' then
        let _ ← next
        let negative ← sign
        let n := digitsIn 10 ((← groupedDigits Char.isDigit).map hexValue)
        return some (if negative then -(n : Int) else n)
      else return none
  | none => return none

/-- A number with a fraction, an exponent or both. -/
def decimalFloat : Reader FloatValue := do
  let negative ← sign
  let whole ← decimalDigits
  let fraction ← if ← accept ['.'] then groupedDigits Char.isDigit else pure []
  let exponent ← exponent?
  if fraction.isEmpty && exponent.isNone then failure
  let number := FloatValue.ofDecimal negative ((whole ++ fraction).map hexValue)
    (exponent.getD 0 - fraction.length)
  if number = .infinite false then failure else return number

/-- A number that is no number, or infinite. -/
def specialFloat : Reader FloatValue := do
  let negative ← sign
  if ← accept ['i', 'n', 'f'] then return .infinite negative
  else
    expect ['n', 'a', 'n']
    return .nan negative

/-- A value that starts like a number. -/
def numeric : Reader Value :=
  (Value.moment <$> moment) <|> (Value.float <$> decimalFloat)
    <|> (Value.float <$> specialFloat) <|> (Value.integer <$> integer)

/-! ## Keys and values -/

/-- One segment of a key. -/
def keySegment : Reader String := do
  match ← peek with
  | some '"' => let _ ← next; return String.ofList (← basicText)
  | some '\x27' => let _ ← next; return String.ofList (← literalText)
  | _ => return String.ofList (← takeSome fun c => c.isAlphanum || c == '_' || c == '-')

/-- A key: the segments before the last one, and the last one. -/
def key : Reader (List String × String) := do
  let segments ← repeating [] fun segments => do
    spaces
    let segment ← keySegment
    spaces
    return (segment :: segments, !(← accept ['.']))
  match segments with
  | [] => failure
  | last :: path =>
      if segments.length < depthLimit then return (path.reverse, last) else failure

/-- The items of an array after its opening bracket, latest first. -/
def arrayItems (value : Reader Value) : Reader (List Value) :=
  repeating [] fun items => do
    blankLines
    if ← accept [']'] then return (items, true)
    else
      let item ← value
      blankLines
      if ← accept [','] then return (item :: items, false)
      else
        expect [']']
        return (item :: items, true)

/-- A key with its value. -/
def keyValue (value : Reader Value) : Reader (List String × String × Value) := do
  let (path, last) ← key
  expect ['=']
  spaces
  return (path, last, ← value)

/-- The entries of an inline table after its opening brace, latest first. -/
def inlineEntries (value : Reader Value) : Reader (List (List String × String × Value)) := do
  spaces
  if ← accept ['\x7d'] then return []
  else repeating [] fun entries => do
    let entry ← keyValue value
    spaces
    if ← accept [','] then return (entry :: entries, false)
    else
      expect ['\x7d']
      return (entry :: entries, true)

/-- A value, in which arrays and inline tables may be nested `depth` times. -/
def valueWithin : Nat → Reader Value
  | 0 => failure
  | depth + 1 => do
      match ← peek with
      | none => failure
      | some c =>
          if c == '"' || c == '\x27' then return .string (← text)
          else if c == '[' && depth != 0 then
            let _ ← next
            return .array (← arrayItems (valueWithin depth)).reverse
          else if c == '\x7b' && depth != 0 then
            let _ ← next
            let entries ← inlineEntries (valueWithin depth)
            inlineTableValue entries.reverse
          else if c == 't' then
            expect "true".toList
            return .boolean true
          else if c == 'f' then
            expect "false".toList
            return .boolean false
          else numeric

/-- A value. -/
def value : Reader Value := valueWithin depthLimit

/-! ## Documents -/

/-- A line with content. -/
def line : Reader Line := do
  if ← accept ['[', '['] then
    let (path, last) ← key
    expect [']', ']']
    return .arrayHeader path last
  else if ← accept ['['] then
    let (path, last) ← key
    expect [']']
    return .header path last
  else
    let (path, last, v) ← keyValue value
    return .keyValue path last v

/-- The lines of a document. -/
def document : Reader (List Line) := do
  let _ ← accept ['\ufeff']
  let lines ← repeating [] fun lines => do
    blankLines
    if (← get).isEmpty then return (lines, true)
    else
      let content ← line
      lineEnd
      return (content :: lines, false)
  return lines.reverse

end Reader

/-- The value of a document, if the text is one. -/
def parse (text : String) : Option Value := do
  let (lines, _) ← Reader.document.run text.toList
  documentValue lines

end Toml
end FixtureFactory
