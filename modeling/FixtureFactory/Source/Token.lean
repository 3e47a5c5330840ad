import FixtureFactory.Source.Word

/-!
# Tokens of a source

A source is read as a list of token trees: words, operator characters, lifetimes, literals and
groups between brackets.  Every tree knows where it starts, and a group also knows where it ends,
since that is the place to report when something is missing before its closing bracket.
-/

namespace FixtureFactory
namespace Source

/-- A place in a source text, counted from one. -/
structure Position where
  line : Nat
  column : Nat
  deriving Inhabited, DecidableEq, Repr

namespace Position

/-- The place of the first character. -/
def start : Position := ⟨1, 1⟩

/-- The place after a character. -/
def after (p : Position) (c : Char) : Position :=
  if c == '\n' then ⟨p.line + 1, 1⟩ else ⟨p.line, p.column + 1⟩

/-- The place after a list of characters. -/
def afterAll (p : Position) (cs : List Char) : Position := cs.foldl after p

end Position

/-- The three kinds of brackets. -/
inductive Delimiter where
  | parenthesis
  | bracket
  | brace
  deriving Inhabited, DecidableEq, Repr

namespace Delimiter

/-- The kind of an opening bracket. -/
def opening? : Char → Option Delimiter
  | '(' => some parenthesis
  | '[' => some bracket
  | '\x7b' => some brace
  | _ => none

/-- The kind of a closing bracket. -/
def closing? : Char → Option Delimiter
  | ')' => some parenthesis
  | ']' => some bracket
  | '\x7d' => some brace
  | _ => none

/-- A text between brackets.  Curly brackets keep a space on both sides. -/
def enclose (inner : String) : Delimiter → String
  | parenthesis => "(" ++ inner ++ ")"
  | bracket => "[" ++ inner ++ "]"
  | brace => if inner.isEmpty then "\x7b \x7d" else "\x7b " ++ inner ++ " \x7d"

end Delimiter

/-- What a literal denotes, as far as the grammar asks. -/
inductive LiteralKind where
  /-- A string, plain or raw. -/
  | string
  | integer
  /-- A number with a fraction or an exponent. -/
  | fraction
  /-- A character, a byte, or a string of bytes. -/
  | other
  deriving Inhabited, DecidableEq, Repr

/-- A token that is not a bracket. -/
inductive Token where
  | word (w : Word)
  /-- One operator character; it is joined when another one follows at once. -/
  | operator (symbol : Char) (joined : Bool)
  | lifetime (text : String)
  | literal (kind : LiteralKind) (text : String)
  deriving Inhabited, DecidableEq, Repr

/-- The text of a token. -/
def Token.text : Token → String
  | word w => w.text
  | operator symbol _ => symbol.toString
  | lifetime text => text
  | literal _ text => text

/-- A token, or a group of trees between brackets. -/
inductive TokenTree where
  | leaf (start : Position) (token : Token)
  | group (start : Position) (delimiter : Delimiter) (close : Position) (trees : List TokenTree)
  deriving Inhabited, Repr

namespace TokenTree

/-- Where a tree starts. -/
def start : TokenTree → Position
  | leaf p _ => p
  | group p _ _ _ => p

/-- Whether no space follows the tree when it is shown. -/
def isJoined : TokenTree → Bool
  | leaf _ (.operator _ joined) => joined
  | leaf _ (.lifetime _) => false
  | _ => false

mutual

/-- The number of tokens in a tree. -/
def size : TokenTree → Nat
  | leaf _ _ => 1
  | group _ _ _ trees => sizeAll trees + 1

/-- The number of tokens in a list of trees. -/
def sizeAll : List TokenTree → Nat
  | [] => 0
  | tree :: trees => size tree + sizeAll trees

end

mutual

/-- The text of a tree. -/
def text : TokenTree → String
  | leaf _ token => token.text
  | group _ delimiter _ trees => delimiter.enclose (textAll trees)

/-- The text of a list of trees: one space between two of them, unless the first is joined to the
second. -/
def textAll : List TokenTree → String
  | [] => ""
  | [tree] => text tree
  | tree :: next :: trees =>
      text tree ++ (if tree.isJoined then "" else " ") ++ textAll (next :: trees)

end

end TokenTree
end Source
end FixtureFactory
