import FixtureFactory.Source.Lexeme

/-!
# Trees of brackets

Pairs the brackets of a list of lexemes.  The list is read from the left and the first fault wins:
a place where nothing can be read, or a closing bracket that does not fit the innermost open one.
When the list ends with brackets open, the innermost of them is the fault.
-/

namespace FixtureFactory
namespace Source

/-- A bracket that is open, with the trees before it, latest first. -/
structure OpenGroup where
  start : Position
  delimiter : Delimiter
  before : List TokenTree

/-- What has been read: the open groups, innermost first, and the trees of the innermost one,
latest first. -/
structure Nesting where
  pending : List OpenGroup
  trees : List TokenTree

/-- Reads one lexeme. -/
def Nesting.add (n : Nesting) : Position × Lexeme → Except Position Nesting
  | (p, .token t) => .ok { n with trees := .leaf p t :: n.trees }
  | (p, .opening d) => .ok ⟨⟨p, d, n.trees⟩ :: n.pending, []⟩
  | (p, .closing d) =>
      match n.pending with
      | [] => .error p
      | group :: outer =>
          if group.delimiter == d then
            .ok ⟨outer, .group group.start d p n.trees.reverse :: group.before⟩
          else .error p
  | (p, .unreadable) => .error p

/-- The trees of a list of lexemes, or the place of the first fault. -/
def treesOf (ls : List (Position × Lexeme)) : Except Position (List TokenTree) := do
  let n ← ls.foldlM Nesting.add ⟨[], []⟩
  match n.pending with
  | [] => .ok n.trees.reverse
  | group :: _ => .error group.start

/-- The mark that may open a text. -/
def byteOrderMark : Char := '\uFEFF'

/-- The trees of a text that starts at a position.  A byte-order mark at the start takes up a
column and is not a token. -/
def readTrees (p : Position) : List Char → Except Position (List TokenTree)
  | [] => .ok []
  | c :: cs =>
      if c == byteOrderMark then treesOf (lexemes (p.after c) cs)
      else treesOf (lexemes p (c :: cs))

/-- Drops the first line, if it names an interpreter.  An attribute of the whole file starts with
the same two characters, and it is the bracket that tells the two apart.  The line keeps its end, so
the lines below keep their numbers. -/
def dropInterpreterLine (cs : List Char) : List Char :=
  if opensWith "#!" cs then
    match lexemes .start (cs.drop 2) with
    | (_, .opening .bracket) :: _ => cs
    | _ => cs.dropWhile (· != '\n')
  else cs

/-- The trees of a file. -/
def readFile (content : String) : Except Position (List TokenTree) :=
  let cs := content.toList
  let cs := if firstIs (· == byteOrderMark) cs then cs.drop 1 else cs
  readTrees .start (dropInterpreterLine cs)

end Source
end FixtureFactory
