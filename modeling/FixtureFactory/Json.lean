/-!
# JSON documents

Documents with their keys in the order in which they are written, and the layout in which
responses are printed: one item a line, two spaces of indentation, and an empty array or object
on one line.
-/

namespace FixtureFactory

/-- A JSON document. -/
inductive Json where
  | null
  | bool (flag : Bool)
  | number (n : Nat)
  | string (text : String)
  | array (items : List Json)
  | object (members : List (String × Json))
  deriving Inhabited, Repr

namespace Json

/-- A character of a string: quotes, backslashes and control characters are escaped. -/
def escapeChar (c : Char) : List Char :=
  if c = '"' || c = '\\' then ['\\', c]
  else if c = '\x08' then ['\\', 'b']
  else if c = '\t' then ['\\', 't']
  else if c = '\n' then ['\\', 'n']
  else if c = '\x0c' then ['\\', 'f']
  else if c = '\r' then ['\\', 'r']
  else if c.toNat < 32 then
    ['\\', 'u', '0', '0'] ++ (if c.toNat < 16 then ['0'] else []) ++ Nat.toDigits 16 c.toNat
  else [c]

/-- A string with its quotes. -/
def stringText (text : String) : String :=
  String.ofList ('"' :: text.toList.flatMap escapeChar ++ ['"'])

/-- The indentation of a nesting depth. -/
def indent (depth : Nat) : String := String.ofList (List.replicate (2 * depth) ' ')

/-- Lines between two brackets, each indented one step further than the brackets. -/
def block (opening closing : String) (depth : Nat) (lines : List String) : String :=
  if lines.isEmpty then opening ++ closing
  else opening ++ "\n" ++
    ",\n".intercalate (lines.map fun line => indent (depth + 1) ++ line) ++
    "\n" ++ indent depth ++ closing

mutual

/-- The text of a document at a nesting depth. -/
def prettyAt (depth : Nat) : Json → String
  | null => "null"
  | bool flag => if flag then "true" else "false"
  | number n => toString n
  | string text => stringText text
  | array items => block "[" "]" depth (prettyItems (depth + 1) items)
  | object members => block "\x7b" "\x7d" depth (prettyMembers (depth + 1) members)

/-- The texts of the items of an array. -/
def prettyItems (depth : Nat) : List Json → List String
  | [] => []
  | item :: items => prettyAt depth item :: prettyItems depth items

/-- The texts of the members of an object. -/
def prettyMembers (depth : Nat) : List (String × Json) → List String
  | [] => []
  | (key, value) :: members =>
      (stringText key ++ ": " ++ prettyAt depth value) :: prettyMembers depth members

end

/-- The text of a document. -/
def pretty (j : Json) : String := prettyAt 0 j

/-- An array of strings. -/
def strings (texts : List String) : Json := array (texts.map string)

/-- A member that is left out if it has no value. -/
def optional (key : String) (value : Option Json) : List (String × Json) :=
  match value with
  | some v => [(key, v)]
  | none => []

end Json
end FixtureFactory
