import FixtureFactory.Source.Token

/-!
# Looking ahead

Questions about the trees that come next.  They are plain predicates on lists of trees, so that
the rules of the grammar can ask them of the trees after the next one as well.
-/

namespace FixtureFactory
namespace Source

/-- A question about the trees that come next. -/
abbrev Lookahead := List TokenTree → Bool

namespace Lookahead

/-- The same question about the trees after the first. -/
def next (ask : Lookahead) : Lookahead := fun trees => ask (trees.drop 1)

/-- Whether nothing is left. -/
def atEnd : Lookahead := List.isEmpty

/-- Whether the characters of an operator come next, each joined to the one after it.  A longer
operator counts as well. -/
def operatorChars : List Char → Lookahead
  | [], _ => true
  | [c], .leaf _ (.operator symbol _) :: _ => symbol == c
  | c :: cs, .leaf _ (.operator symbol joined) :: rest =>
      symbol == c && joined && operatorChars cs rest
  | _, _ => false

/-- Whether an operator comes next. -/
def operator (text : String) : Lookahead := operatorChars text.toList

/-- Whether a certain word comes next. -/
def word (text : String) : Lookahead
  | .leaf _ (.word w) :: _ => w.text == text
  | _ => false

/-- The words that are no names. -/
def keywords : List String :=
  ["_", "abstract", "as", "async", "await", "become", "box", "break", "const", "continue", "crate",
   "do", "dyn", "else", "enum", "extern", "false", "final", "fn", "for", "if", "impl", "in", "let",
   "loop", "macro", "match", "mod", "move", "mut", "override", "priv", "pub", "ref", "return",
   "Self", "self", "static", "struct", "super", "trait", "true", "try", "type", "typeof", "unsafe",
   "unsized", "use", "virtual", "where", "while", "yield"]

/-- Whether a name comes next. -/
def name : Lookahead
  | .leaf _ (.word w) :: _ => !keywords.contains w.text
  | _ => false

/-- Whether any word comes next. -/
def anyWord : Lookahead
  | .leaf _ (.word _) :: _ => true
  | _ => false

/-- Whether a lifetime comes next. -/
def lifetime : Lookahead
  | .leaf _ (.lifetime _) :: _ => true
  | _ => false

/-- Whether a group with certain brackets comes next. -/
def group (d : Delimiter) : Lookahead
  | .group _ delimiter _ _ :: _ => delimiter == d
  | _ => false

/-- Whether a group comes next. -/
def anyGroup : Lookahead
  | .group _ _ _ _ :: _ => true
  | _ => false

/-- Whether a literal of a certain kind comes next. -/
def literalOf (kind : LiteralKind) : Lookahead
  | .leaf _ (.literal k _) :: _ => k == kind
  | _ => false

/-- Whether a literal comes next: a token, a truth value, or a number with a minus sign. -/
def literal : Lookahead
  | .leaf _ (.literal _ _) :: _ => true
  | .leaf _ (.word w) :: _ => w.text == "true" || w.text == "false"
  | .leaf _ (.operator '-' _) :: .leaf _ (.literal kind _) :: _ =>
      kind == .integer || kind == .fraction
  | _ => false

/-- Whether one of two questions is answered yes. -/
def or (a b : Lookahead) : Lookahead := fun trees => a trees || b trees

/-- Whether both questions are answered yes. -/
def and (a b : Lookahead) : Lookahead := fun trees => a trees && b trees

/-- Whether a question is answered no. -/
def not (a : Lookahead) : Lookahead := fun trees => !a trees

/-- Whether one of the given words comes next. -/
def oneOf (words : List String) : Lookahead
  | .leaf _ (.word w) :: _ => words.contains w.text
  | _ => false

/-- Whether one of the given operators comes next. -/
def oneOfOperators (texts : List String) : Lookahead := fun trees =>
  texts.any fun text => operator text trees

/-- An operator, and not a longer one. -/
def operatorOnly (text longer : String) : Lookahead := (operator text).and (operator longer).not

/-- Whether a path may start here. -/
def pathStart : Lookahead :=
  name.or ((oneOf ["self", "super", "crate"]).or (operator "::"))

end Lookahead

end Source
end FixtureFactory
