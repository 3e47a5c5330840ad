import FixtureFactory.Source.Grammar.Expressions

/-!
# Statements

A statement is a binding, an item, a macro call in curly brackets, or an expression.  An item and
a record literal, a call and an expression may start alike, so the kind is settled by looking
ahead, and only then is anything taken.  An expression needs a semicolon after it unless it ends
the group or is of block form.
-/

namespace FixtureFactory
namespace Source
namespace Grammar

open Lookahead (operatorOnly oneOf oneOfOperators)

/-- A binding. -/
def binding (g : Grammar) : Reader Unit := do
  Reader.word "let"
  let _ ← g.pattern
  if ← Reader.operator? ":" then do let _ ← g.type true
  if ← Reader.operator? "=" then
    let _ ← g.expression true
    if !(← get).endsInBrace then
      if ← Reader.word? "else" then block g
  Reader.operator ";"

/-- Whether an item comes next, apart from a macro call that declares a name. -/
def itemAhead : Lookahead := fun trees =>
  let one := fun text => Lookahead.word text trees
  let two := fun text => (Lookahead.word text).next trees
  let function := oneOf ["unsafe", "extern", "fn"]
  oneOf ["pub", "extern", "use", "fn", "mod", "type", "struct", "enum", "trait", "impl", "macro"]
      trees ||
    (one "crate" && !(Lookahead.operator "::").next trees) ||
    (one "static" && (two "mut" || Lookahead.name.next trees)) ||
    (one "const" && !((Lookahead.group .brace).next trees || two "static" ||
      (two "async" && !function.next.next trees) || two "move" ||
      (Lookahead.operator "|").next trees)) ||
    (one "unsafe" && !(Lookahead.group .brace).next trees) ||
    (one "async" && function.next trees) ||
    (one "union" && Lookahead.name.next trees) ||
    (one "auto" && two "trait") ||
    (one "default" && (two "unsafe" || two "impl"))

/-- What a path at the start of a statement turned out to be. -/
inductive CallAhead where
  /-- A macro call that declares a name. -/
  | item
  /-- A macro call in curly brackets that is a statement of its own. -/
  | statement
  | neither
  deriving DecidableEq

/-- Looks for a macro call. -/
def callAhead : Reader CallAhead := do
  let before ← get
  match ← Reader.attempt plainPath with
  | none => return .neither
  | some _ =>
      let trees := (← get).rest
      set before
      if !Lookahead.operator "!" trees then return .neither
      else if (Lookahead.or .name (.word "try")).next trees then return .item
      else if (Lookahead.group .brace).next trees &&
          !(Lookahead.or (operatorOnly "." "..") (.operator "?")).next.next trees then
        return .statement
      else return .neither

/-- A macro call that is a statement of its own. -/
def callStatement : Reader Unit := do
  let _ ← plainPath
  Reader.operator "!"
  let _ ← Reader.anyGroup
  let _ ← Reader.operator? ";"

/-- A statement; whether something must separate it from the next one. -/
def statement (g : Grammar) : Reader Bool := do
  let attributes ← outerAttributes g
  let call ← callAhead
  if call == .statement then
    callStatement
    return false
  else if ← Reader.ahead (.word "let") then
    binding g
    return false
  else if call == .item || (← Reader.ahead itemAhead) then
    let _ ← g.item attributes
    return false
  else
    let e ← g.early
    let ended ← Reader.operator? ";"
    return !ended && e != .blockLike && e != .braceCall

/-- The statements that fill the present group. -/
def allStatements (g : Grammar) : Reader Unit :=
  Reader.repeating () fun _ => do
    if ← Reader.operator? ";" then return .inl ()
    else if ← Reader.done then return .inr ()
    else
      let unfinished ← statement g
      if ← Reader.done then return .inr ()
      else if unfinished then Reader.fail
      else return .inl ()

end Grammar
end Source
end FixtureFactory
