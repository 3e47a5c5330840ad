import FixtureFactory.Toml.Number

/-!
# Values in one line

How a value is written inside a line of TOML.  A text takes the plainest quotes that need no
escapes: double quotes, then single quotes, then the triple forms of both; only if none of them
can hold it is it escaped.  A date or time is written as a table with one reserved key.
-/

namespace FixtureFactory
namespace Toml

/-- The longest run of a character. -/
def longestRun (quote : Char) (cs : List Char) : Nat :=
  let step (state : Nat × Nat) (c : Char) : Nat × Nat :=
    if c = quote then (state.1 + 1, max state.2 (state.1 + 1)) else (0, state.2)
  (cs.foldl step (0, 0)).2

/-- Whether a character can only be written by an escape. -/
def needsEscape (c : Char) : Bool :=
  (c.toNat < 32 && c != '\t' && c != '\n') || c.toNat == 127

/-- A character inside double quotes. -/
def escapeChar (c : Char) : List Char :=
  if c = '\x08' then ['\\', 'b']
  else if c = '\t' then ['\\', 't']
  else if c = '\n' then ['\\', 'n']
  else if c = '\x0c' then ['\\', 'f']
  else if c = '\r' then ['\\', 'r']
  else if c = '"' || c = '\\' then ['\\', c]
  else if c.toNat < 32 || c.toNat = 127 then
    let hex := (Nat.toDigits 16 c.toNat).map Char.toUpper
    ['\\', 'u'] ++ List.replicate (4 - hex.length) '0' ++ hex
  else [c]

/-- The characters inside triple double quotes, of which at most two quotes stand in a row. -/
def escapeLines (quotes : Nat) : List Char → List Char
  | [] => []
  | c :: rest =>
      if c = '"' then
        if quotes < 2 then '"' :: escapeLines (quotes + 1) rest
        else '\\' :: '"' :: escapeLines 0 rest
      else if c = '\n' then '\n' :: escapeLines 0 rest
      else escapeChar c ++ escapeLines 0 rest

/-- A text in the plainest quotes that can hold it. -/
def quoteText (cs : List Char) : List Char :=
  let escapes := cs.any needsEscape
  let lines := cs.contains '\n'
  let backslash := cs.contains '\\'
  let opening := if lines then ['\n'] else []
  if !escapes && !backslash && longestRun '"' cs == 0 && !lines then
    ['"'] ++ cs.flatMap escapeChar ++ ['"']
  else if !escapes && longestRun '\x27' cs == 0 && !lines then ['\x27'] ++ cs ++ ['\x27']
  else if !escapes && !backslash && longestRun '"' cs ≤ 2 then
    ['"', '"', '"'] ++ opening ++ escapeLines 0 cs ++ ['"', '"', '"']
  else if !escapes && longestRun '\x27' cs ≤ 2 then
    ['\x27', '\x27', '\x27'] ++ opening ++ cs ++ ['\x27', '\x27', '\x27']
  else if lines then ['"', '"', '"'] ++ opening ++ escapeLines 0 cs ++ ['"', '"', '"']
  else ['"'] ++ cs.flatMap escapeChar ++ ['"']

/-- Whether a character may stand in a key without quotes. -/
def isBareKeyChar (c : Char) : Bool := c.isAlphanum || c == '_' || c == '-'

/-- A key, bare if it can be. -/
def quoteKey (cs : List Char) : List Char :=
  let escapes := cs.any needsEscape || cs.contains '\n'
  if !cs.isEmpty && cs.all isBareKeyChar then cs
  else if !escapes && (cs.contains '\\' || cs.contains '"') && longestRun '\x27' cs == 0 then
    ['\x27'] ++ cs ++ ['\x27']
  else ['"'] ++ cs.flatMap escapeChar ++ ['"']

/-- A table from the texts of its entries. -/
def tableText (entries : List String) : String :=
  if entries.isEmpty then "\x7b\x7d"
  else "\x7b " ++ ", ".intercalate entries ++ " \x7d"

/-- An entry of a table. -/
def entryText (key value : String) : String :=
  String.ofList (quoteKey key.toList) ++ " = " ++ value

mutual

/-- The text of a value in one line. -/
def inline : Value → String
  | .string text => String.ofList (quoteText text.toList)
  | .integer number => toString number
  | .float number => number.text
  | .boolean flag => if flag then "true" else "false"
  | .moment text => tableText [entryText "$__toml_private_datetime" ("\"" ++ text ++ "\"")]
  | .array items => "[" ++ ", ".intercalate (inlineItems items) ++ "]"
  | .table entries => tableText (inlineEntries entries)

/-- The texts of the items of an array. -/
def inlineItems : List Value → List String
  | [] => []
  | v :: vs => inline v :: inlineItems vs

/-- The texts of the entries of a table. -/
def inlineEntries : List (String × Value) → List String
  | [] => []
  | (key, v) :: rest => entryText key (inline v) :: inlineEntries rest

end

end Toml
end FixtureFactory
