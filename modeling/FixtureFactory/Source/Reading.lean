import FixtureFactory.Source.Grammar.Items
import FixtureFactory.Source.Tree

/-!
# Reading sources

Ties the rules of the grammar together and reads whole texts: a file, a type, an import, an item.
A text is well formed when the rules take all of its tokens.
-/

namespace FixtureFactory
namespace Source

/-- The grammar whose entry points follow the rules over another grammar. -/
def Grammar.deeper (g : Grammar) : Grammar where
  type := Grammar.anyType g
  bound := Grammar.anyBound g
  expression := Grammar.anyExpression g
  operand := Grammar.anyOperand g
  continued := Grammar.operatorsFrom g
  early := Grammar.earlyExpression g
  pattern := Grammar.anyPattern g
  statements := Grammar.allStatements g
  fields := Grammar.namedFields g
  item := Grammar.anyItem g
  useTree := Grammar.anyUseTree g

/-- The number of entry points, which bounds how many of them are passed before a token is
read. -/
def Grammar.entryPoints : Nat := 11

/-- The grammar of a depth. -/
def Grammar.ofDepth (depth : Nat) : Grammar := depth.repeat Grammar.deeper Grammar.empty

/-- A grammar deep enough for some trees. -/
def Grammar.forTrees (trees : List TokenTree) : Grammar :=
  Grammar.ofDepth (Grammar.entryPoints * (TokenTree.sizeAll trees + 2))

/-- Reads all of a text by a rule. -/
def readText {α : Type} (rule : Grammar → Reader α) (text : String) : Except Position α := do
  let trees ← readTrees .start text.toList
  (rule (Grammar.forTrees trees)).runAll trees

/-- The items of a file, or the place of the first error.  An error between the brackets of the
file comes before all others. -/
def readItems (content : String) : Except Position (List Item) := do
  let trees ← readFile content
  let g := Grammar.forTrees trees
  Reader.runAll
    (do
      let _ ← Grammar.innerAttributes g
      Reader.manyUntil .atEnd do
        let attributes ← Grammar.outerAttributes g
        g.item attributes)
    trees

/-- A type that is all of a text. -/
def readType (text : String) : Option TypeTerm :=
  (readText (fun g => g.type true) text).toOption

/-- An import that is all of a text. -/
def readUse (text : String) : Option UseTree :=
  let rule (g : Grammar) : Reader (Option UseTree) := do
    let _ ← Grammar.outerAttributes g
    let _ ← Grammar.visibility
    Grammar.useItem g false
  (readText rule text).toOption.join

/-- An item that is all of a text. -/
def readItem (text : String) : Option Item :=
  let rule (g : Grammar) : Reader Item := do
    let attributes ← Grammar.outerAttributes g
    g.item attributes
  (readText rule text).toOption

end Source
end FixtureFactory
