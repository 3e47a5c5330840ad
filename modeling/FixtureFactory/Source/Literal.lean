import FixtureFactory.Source.Word

/-!
# Literals

Where a literal ends.  Each reader takes the characters from the start of the thing and gives those
after it, or nothing if there is no such thing here.

Strings and characters share one account of escapes, an automaton over the characters after the
backslash.  The four kinds of text differ in what they let through, and that is one record.
-/

namespace FixtureFactory
namespace Source

/-- Whether a test holds of the first character. -/
def firstIs (test : Char → Bool) : List Char → Bool
  | c :: _ => test c
  | [] => false

/-! ## Escapes -/

/-- The value of a hexadecimal digit. -/
def hexDigit? (c : Char) : Option Nat :=
  if c.isDigit then some (c.toNat - '0'.toNat)
  else if 'a' ≤ c && c ≤ 'f' then some (c.toNat - 'a'.toNat + 10)
  else if 'A' ≤ c && c ≤ 'F' then some (c.toNat - 'A'.toNat + 10)
  else none

/-- What a text may hold. -/
structure TextRules where
  /-- Characters past ASCII, and escapes by code point. -/
  unicode : Bool
  /-- Escapes by two digits above 7F. -/
  highBytes : Bool
  /-- The character with code zero. -/
  zero : Bool
  /-- Escaped line ends. -/
  lines : Bool

/-- Strings. -/
def TextRules.string : TextRules := ⟨true, false, true, true⟩
/-- Strings of bytes. -/
def TextRules.bytes : TextRules := ⟨false, true, true, true⟩
/-- Strings that end with a zero of their own. -/
def TextRules.terminated : TextRules := ⟨true, true, false, true⟩
/-- Characters. -/
def TextRules.character : TextRules := ⟨true, false, true, false⟩
/-- Bytes. -/
def TextRules.byte : TextRules := ⟨false, true, true, false⟩

/-- Where a reader stands inside a text. -/
inductive TextState where
  /-- Between two characters of the text. -/
  | plain
  /-- After a carriage return, which a line feed must follow. -/
  | returned
  | backslash
  | firstDigit
  | secondDigit (zero : Bool)
  | openBrace
  /-- After some digits of a code point. -/
  | code (digits value : Nat)
  deriving Inhabited, DecidableEq, Repr

/-- Whether a number is the code of a character. -/
def isScalar (n : Nat) : Bool := n < 0xD800 || (0xE000 ≤ n && n ≤ 0x10FFFF)

/-- The state after one more character of an escape. -/
def TextRules.escape (r : TextRules) : TextState → Char → Option TextState
  | .plain, _ => none
  | .returned, c => if c == '\n' then some .plain else none
  | .backslash, c =>
      if c == 'x' then some .firstDigit
      else if c == 'u' then if r.unicode then some .openBrace else none
      else if c == '0' then if r.zero then some .plain else none
      else if c == '\n' then if r.lines then some .plain else none
      else if c == '\r' then if r.lines then some .returned else none
      else if ['n', 'r', 't', '\\', '\x27', '"'].contains c then some .plain else none
  | .firstDigit, c => do
      let digit ← hexDigit? c
      if r.highBytes || digit < 8 then some (.secondDigit (digit == 0)) else none
  | .secondDigit zero, c => do
      let digit ← hexDigit? c
      if zero && digit == 0 && !r.zero then none else some .plain
  | .openBrace, c => if c == '\x7b' then some (.code 0 0) else none
  | .code digits value, c =>
      if c == '_' && digits > 0 then some (.code digits value)
      else if c == '\x7d' && digits > 0 then
        if isScalar value && (r.zero || value != 0) then some .plain else none
      else do
        let digit ← hexDigit? c
        if digits < 6 then some (.code (digits + 1) (16 * value + digit)) else none

/-- Whether a character may stand in a text as it is. -/
def TextRules.allows (r : TextRules) (c : Char) : Bool :=
  (r.unicode || c.toNat < 128) && (r.zero || c.toNat != 0)

/-- What follows the closing quote of a text. -/
def TextRules.afterText (r : TextRules) : TextState → List Char → Option (List Char)
  | _, [] => none
  | .plain, c :: rest =>
      if c == '"' then some rest
      else if c == '\r' then r.afterText .returned rest
      else if c == '\\' then r.afterText .backslash rest
      else if r.allows c then r.afterText .plain rest
      else none
  | state, c :: rest =>
      match r.escape state c with
      | some next => r.afterText next rest
      | none => none

/-- What follows an escape that has begun. -/
def TextRules.afterEscape (r : TextRules) : TextState → List Char → Option (List Char)
  | .plain, rest => some rest
  | _, [] => none
  | state, c :: rest =>
      match r.escape state c with
      | some next => r.afterEscape next rest
      | none => none

/-- What follows one character and its closing quote. -/
def TextRules.afterSingle (r : TextRules) : List Char → Option (List Char)
  | [] => none
  | c :: rest => do
      let after ←
        if c == '\\' then r.afterEscape .backslash rest
        else if r.unicode || c.toNat < 128 then some rest
        else none
      match after with
      | '\x27' :: last => some last
      | _ => none

/-- What follows the closing quote of a raw text with a number of hash signs. -/
def TextRules.afterRawText (r : TextRules) (hashes : Nat) : List Char → Option (List Char)
  | [] => none
  | '"' :: rest =>
      if (rest.take hashes).length == hashes && (rest.take hashes).all (· == '#')
      then some (rest.drop hashes)
      else r.afterRawText hashes rest
  | '\r' :: '\n' :: rest => r.afterRawText hashes rest
  | '\r' :: _ => none
  | c :: rest => if r.allows c then r.afterRawText hashes rest else none

/-- What follows a raw text, from its hash signs on. -/
def TextRules.afterRaw (r : TextRules) (cs : List Char) : Option (List Char) :=
  let hashes := (cs.takeWhile (· == '#')).length
  match cs.drop hashes with
  | '"' :: rest => if hashes ≤ 255 then r.afterRawText hashes rest else none
  | _ => none

/-- What follows the suffix of a text, if it has one. -/
def afterSuffix (cs : List Char) : List Char := (afterWord cs).getD cs

/-! ## Numbers -/

/-- Whether a character may stand among decimal digits. -/
def isDigitOrGap (c : Char) : Bool := c.isDigit || c == '_'

/-- What follows the exponent of a number, from the character after its letter on. -/
def afterExponent (cs : List Char) : Option (List Char) :=
  let signed := cs.dropWhile (· == '_')
  let digits := (if firstIs (fun c => c == '+' || c == '-') signed then signed.drop 1 else signed)
  let digits := digits.dropWhile (· == '_')
  if firstIs Char.isDigit digits then some (digits.dropWhile isDigitOrGap) else none

/-- What follows a number with a fraction or an exponent, without its suffix. -/
def afterFraction (cs : List Char) : Option (List Char) :=
  if !firstIs Char.isDigit cs then none
  else
    match cs.dropWhile isDigitOrGap with
    | '.' :: rest =>
        if firstIs (fun c => c == '.' || isWordStart c) rest then none
        else
          let rest := rest.dropWhile isDigitOrGap
          if firstIs (fun c => c == 'e' || c == 'E') rest
          then some ((afterExponent (rest.drop 1)).getD rest)
          else some rest
    | c :: rest => if c == 'e' || c == 'E' then afterExponent rest else none
    | [] => none

/-- What follows the digits of an integer; `none` where a digit is too large for the base, where
there are none, or where a decimal number starts with a gap. -/
def afterDigits (base : Nat) (empty : Bool) : List Char → Option (List Char)
  | [] => if empty then none else some []
  | c :: rest =>
      if c == '_' then if empty && base == 10 then none else afterDigits base empty rest
      else
        match hexDigit? c with
        | some digit =>
            if digit < base then afterDigits base false rest
            else if c.isDigit then none
            else if empty then none
            else some (c :: rest)
        | none => if empty then none else some (c :: rest)

/-- What follows an integer, without its suffix. -/
def afterInteger : List Char → Option (List Char)
  | '0' :: 'x' :: rest => afterDigits 16 true rest
  | '0' :: 'o' :: rest => afterDigits 8 true rest
  | '0' :: 'b' :: rest => afterDigits 2 true rest
  | cs => afterDigits 10 true cs

/-- What follows the suffix of a number; no digit of any script may come after it. -/
def afterNumberSuffix (cs : List Char) : Option (List Char) :=
  match afterWord cs with
  | some rest => some rest
  | none => if firstIs isWordContinue cs then none else some cs

end Source
end FixtureFactory
