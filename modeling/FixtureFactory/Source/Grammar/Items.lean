import FixtureFactory.Source.Grammar.Functions

/-!
# Items

What may be declared.  Attributes come before the visibility, so the reader of an item is handed
those that have been read.  The name of the thing is what the word after the visibility says it
is; where no item can start, that word is the place of the error.
-/

namespace FixtureFactory
namespace Source
namespace Grammar

open Lookahead (operatorOnly oneOf oneOfOperators)

/-! ## Types -/

/-- A field with a name.  A field that has none may hold fields of its own. -/
def namedField (g : Grammar) : Reader (String × TypeTerm) := do
  let _ ← outerAttributes g
  let _ ← visibility
  let blank ← Reader.ahead (.word "_")
  let name ← Reader.nameOrBlank
  Reader.operator ":"
  if blank && (← Reader.ahead
      (.or (.word "struct") (.and (.word "union") (.next (.group .brace))))) then
    let (_, text) ← Reader.withText do
      let _ ← Reader.anyWord
      g.fields
    return (name, .other text)
  else return (name, ← g.type true)

/-- Fields with names. -/
def namedFields (g : Grammar) : Reader (List (String × TypeTerm)) :=
  Reader.group .brace (Reader.listed (namedField g))

/-- A field without a name. -/
def unnamedField (g : Grammar) : Reader TypeTerm := do
  let _ ← outerAttributes g
  let _ ← visibility
  g.type true

/-- Fields without names. -/
def unnamedFields (g : Grammar) : Reader (List TypeTerm) :=
  Reader.group .parenthesis (Reader.listed (unnamedField g))

/-- The body of a struct, from its conditions on. -/
def structBody (g : Grammar) : Reader Fields := do
  let conditioned ← conditions? g
  if !conditioned && (← Reader.ahead (.group .parenthesis)) then
    let types ← unnamedFields g
    let _ ← conditions? g
    Reader.operator ";"
    return .unnamed types
  else if ← Reader.ahead (.group .brace) then return .named (← namedFields g)
  else
    Reader.operator ";"
    return .unit

/-- A case of an enumeration. -/
def variant (g : Grammar) : Reader Variant := do
  let _ ← outerAttributes g
  let _ ← visibility
  let name ← Reader.name
  let fields ←
    if ← Reader.ahead (.group .brace) then pure (Fields.named (← namedFields g))
    else if ← Reader.ahead (.group .parenthesis) then pure (Fields.unnamed (← unnamedFields g))
    else pure .unit
  if ← Reader.operator? "=" then do let _ ← g.expression true
  return ⟨name, fields⟩

/-- Where the conditions of a type may stand. -/
structure ConditionPlace where
  before : Bool
  after : Bool

/-- A type with a definition, with bounds, or with both: its name, if it has a definition alone. -/
def typeDefinition (g : Grammar) (place : ConditionPlace) : Reader (Option String) := do
  Reader.word "type"
  let name ← Reader.name
  parameters g
  let bounded ← Reader.operator? ":"
  if bounded then do
    let _ ← Reader.separated (.or (.word "where") (oneOfOperators ["=", ";"])) "+"
      (g.bound ⟨false, true⟩)
  let conditioned ← if place.before then conditions? g else pure false
  let defined ← Reader.operator? "="
  if defined then do let _ ← g.type true
  if place.after && !conditioned then do let _ ← conditions? g
  Reader.operator ";"
  return if defined && !bounded then some name else none

/-! ## Values -/

/-- A constant, from its keyword on. -/
def constant (g : Grammar) : Reader Unit := do
  Reader.word "const"
  let _ ← Reader.nameOrBlank
  parameters g
  Reader.operator ":"
  let _ ← g.type true
  if ← Reader.operator? "=" then do let _ ← g.expression true
  let _ ← conditions? g
  Reader.operator ";"

/-- A variable of the program, from its keyword on. -/
def staticItem (g : Grammar) : Reader Unit := do
  Reader.word "static"
  let _ ← Reader.word? "mut"
  let _ ← Reader.name
  if ← Reader.operator? "=" then
    let _ ← g.expression true
    Reader.operator ";"
  else
    Reader.operator ":"
    let _ ← g.type true
    if !(← Reader.operator? ";") then
      Reader.operator "="
      let _ ← g.expression true
      Reader.operator ";"

/-! ## Macro calls and imports -/

/-- A macro call; outside curly brackets it ends with a semicolon. -/
def macroCall (named : Bool) : Reader Unit := do
  let _ ← plainPath
  Reader.operator "!"
  if named then do
    if ← Reader.ahead (.or .name (.word "try")) then do let _ ← Reader.anyWord
  let d ← Reader.anyGroup
  if d != .brace then Reader.operator ";"

/-- The definition of a macro. -/
def macroDefinition : Reader Unit := do
  Reader.word "macro"
  let _ ← Reader.name
  if ← Reader.ahead (.group .parenthesis) then do let _ ← Reader.anyGroup
  if ← Reader.ahead (.group .brace) then do let _ ← Reader.anyGroup
  else Reader.fail

/-- The trees of a group of an import. -/
def useTrees (g : Grammar) (atRoot : Bool) : Reader (Option (List UseTree)) := do
  let trees ← Reader.listed do
    let rooted ← if atRoot then Reader.operator? "::" else pure false
    let tree ← g.useTree (atRoot && !rooted)
    return if rooted then none else tree
  return trees.mapM id

/-- The tree of an import; `none` if a path in a group starts at the root. -/
def anyUseTree (g : Grammar) (atRoot : Bool) : Reader (Option UseTree) := do
  if ← Reader.ahead (.or .name (oneOf ["self", "super", "crate", "try"])) then
    let segment ← Reader.anyWord
    if ← Reader.operator? "::" then return (← g.useTree false).map (.path segment)
    else if ← Reader.word? "as" then return some (.rename segment (← Reader.nameOrBlank))
    else return some (.name segment)
  else if ← Reader.operator? "*" then return some .glob
  else return (← Reader.group .brace (useTrees g atRoot)).map .group

/-- An import, from its keyword on. -/
def useItem (g : Grammar) (atRoot : Bool) : Reader (Option UseTree) := do
  Reader.word "use"
  let rooted ← Reader.operator? "::"
  let tree ← g.useTree (atRoot && !rooted)
  Reader.operator ";"
  return tree

/-- An import by the name of its package. -/
def packageImport : Reader Unit := do
  Reader.word "extern"
  Reader.word "crate"
  if !(← Reader.word? "self") then do let _ ← Reader.name
  if ← Reader.word? "as" then do let _ ← Reader.nameOrBlank
  Reader.operator ";"

/-! ## Members -/

/-- Whether a macro call may start here. -/
def memberCallAhead (plain : Bool) : Lookahead := fun trees =>
  plain && Lookahead.pathStart trees

/-- A member of an implementation: the function, if it is one. -/
def implementationMember (g : Grammar) : Reader (Option Function) := do
  let attributes ← outerAttributes g
  let isPublic ← visibility
  let preset ← Reader.ahead (.and (.word "default") (.not (.next (.operator "!"))))
  if preset then Reader.word "default"
  if ← Reader.ahead (functionAhead false) then
    let f ← signature g false
    if ← Reader.operator? ";" then return none
    else
      let inner ← functionBody g
      return some { f with attributes := attributes ++ inner }
  else
    if ← Reader.ahead (.word "const") then constant g
    else if ← Reader.ahead (.word "type") then do
      let _ ← typeDefinition g ⟨false, true⟩
    else if ← Reader.ahead (memberCallAhead (!isPublic && !preset)) then macroCall false
    else Reader.fail
    return none

/-- A member of a trait. -/
def traitMember (g : Grammar) : Reader Unit := do
  let _ ← outerAttributes g
  let isPublic ← visibility
  let preset ← Reader.word? "default"
  if ← Reader.ahead (functionAhead false) then
    let _ ← signature g false
    if !(← Reader.operator? ";") then do let _ ← functionBody g
  else if ← Reader.ahead (.word "const") then constant g
  else if ← Reader.ahead (.word "type") then do
    let _ ← typeDefinition g ⟨false, true⟩
  else if ← Reader.ahead (memberCallAhead (!isPublic && !preset)) then macroCall false
  else Reader.fail

/-- A member of a foreign interface. -/
def foreignMember (g : Grammar) : Reader Unit := do
  let _ ← outerAttributes g
  let isPublic ← visibility
  if ← Reader.ahead (functionAhead true) then
    let _ ← signature g true
    if !(← Reader.operator? ";") then do let _ ← functionBody g
  else if ← Reader.ahead (.or (.word "static")
      (.and (oneOf ["unsafe", "safe"]) (.next (.word "static")))) then
    if !(← Reader.word? "unsafe") then do let _ ← Reader.word? "safe"
    Reader.word "static"
    let _ ← Reader.word? "mut"
    let _ ← Reader.name
    Reader.operator ":"
    let _ ← g.type true
    if ← Reader.operator? "=" then do let _ ← g.expression true
    Reader.operator ";"
  else if ← Reader.ahead (.word "type") then do
    let _ ← typeDefinition g ⟨true, true⟩
  else if ← Reader.ahead (memberCallAhead (!isPublic)) then macroCall false
  else Reader.fail

/-! ## Groups of members -/

/-- A foreign interface. -/
def foreignInterface (g : Grammar) : Reader Unit := do
  let _ ← Reader.word? "unsafe"
  if !(← interface?) then Reader.fail
  Reader.group .brace do
    let _ ← innerAttributes g
    let _ ← Reader.manyUntil .atEnd (foreignMember g)

/-- A trait, from its first keyword on. -/
def traitItem (g : Grammar) : Reader Unit := do
  let isUnsafe ← Reader.word? "unsafe"
  let automatic ← Reader.word? "auto"
  Reader.word "trait"
  let _ ← Reader.name
  parameters g
  if !isUnsafe && !automatic && (← Reader.operator? "=") then
    let _ ← Reader.separated (.or (.word "where") (.operator ";")) "+" (g.bound ⟨false, true⟩)
    let _ ← conditions? g
    Reader.operator ";"
  else
    if ← Reader.operator? ":" then do
      let _ ← Reader.separated (.or (.word "where") (.group .brace)) "+" (g.bound ⟨false, true⟩)
    let _ ← conditions? g
    Reader.group .brace do
      let _ ← innerAttributes g
      let _ ← Reader.manyUntil .atEnd (traitMember g)

/-- Whether an opening angle bracket starts parameters, and not a type. -/
def parametersAhead : Lookahead := fun trees =>
  let second := trees.drop 1
  let third := trees.drop 2
  Lookahead.operator "<" trees &&
    (oneOfOperators [">", "#"] second || Lookahead.word "const" second ||
      ((Lookahead.lifetime second || Lookahead.name second) &&
        (oneOfOperators [">", ",", "="] third || operatorOnly ":" "::" third)))

/-- An implementation, from its visibility on.  One that only later versions of the language will
have is read and dropped. -/
def implementation (g : Grammar) : Reader Item := do
  let isPublic ← visibility
  let _ ← Reader.word? "default"
  let _ ← Reader.word? "unsafe"
  Reader.word "impl"
  if ← Reader.ahead parametersAhead then parameters g
  let isConst ← Reader.ahead
    (.or (.word "const") (.and (.operator "?") (.next (.word "const"))))
  if isConst then do
    let _ ← Reader.operator? "?"
    Reader.word "const"
  let negative ← Reader.ahead (.and (.operator "!") (.not (.next (.group .brace))))
  let (first, text) ← Reader.withText do
    if negative then Reader.operator "!"
    g.type true
  let ofTrait ← Reader.word? "for"
  let selfType ←
    if ofTrait then g.type true
    else pure (if negative then .other text else first)
  let _ ← conditions? g
  let functions ← Reader.group .brace do
    let _ ← innerAttributes g
    Reader.manyUntil .atEnd (implementationMember g)
  if isPublic || isConst || (ofTrait && !first.isPath) then return .other
  else return .implementation selfType (functions.filterMap id)

/-- A module, from its visibility on. -/
def moduleItem (g : Grammar) : Reader Item := do
  let _ ← Reader.word? "unsafe"
  Reader.word "mod"
  let name ←
    if ← Reader.ahead (.word "try") then Reader.anyWord else Reader.name
  if ← Reader.operator? ";" then return .module name []
  else
    let items ← Reader.group .brace do
      let _ ← innerAttributes g
      Reader.manyUntil .atEnd do
        let attributes ← outerAttributes g
        g.item attributes
    return .module name items

/-- A function, from its first keyword on. -/
def functionItem (g : Grammar) (attributes : List Attribute) : Reader Item := do
  let f ← signature g false
  if ← Reader.operator? ";" then return .other
  else
    let inner ← functionBody g
    return .function { f with attributes := attributes ++ inner }

/-- What an item that starts with `extern` is. -/
def externItem (g : Grammar) : Reader Unit := do
  if ← Reader.ahead (.next (.word "crate")) then packageImport
  else if ← Reader.ahead (.next (.or (.group .brace)
      (.and (.literalOf .string) (.next (.group .brace))))) then foreignInterface g
  else
    Reader.word "extern"
    let _ ← Reader.literalOf? .string
    Reader.fail

/-- What an item that starts with `unsafe` is. -/
def unsafeItem (g : Grammar) : Reader Item := do
  let next (ask : Lookahead) : Reader Bool := Reader.ahead (.next ask)
  if ← next (.or (.word "trait") (.and (.word "auto") (.next (.word "trait")))) then
    traitItem g
    return .other
  else if ← next (.word "impl") then implementation g
  else if ← next (.word "extern") then
    foreignInterface g
    return .other
  else if ← next (.word "mod") then moduleItem g
  else
    Reader.word "unsafe"
    Reader.fail

/-- An item after its visibility, which was read from a cursor. -/
def itemAfter (g : Grammar) (attributes : List Attribute) (before : Cursor) (isPublic : Bool) :
    Reader Item := do
  let ahead := Reader.ahead
  let other (r : Reader Unit) : Reader Item := do r; return .other
  if ← ahead (functionAhead false) then functionItem g attributes
  else if ← ahead (.word "extern") then
    if isPublic && !(← ahead (.next (.word "crate"))) &&
        (← ahead (.next (.or (.group .brace)
          (.and (.literalOf .string) (.next (.group .brace)))))) then
      Reader.failAt before.here
    else other (externItem g)
  else if ← ahead (.word "use") then
    match ← useItem g true with
    | some tree => return .use tree
    | none => return .other
  else if ← ahead (.word "static") then other (staticItem g)
  else if ← ahead (.word "const") then other (constant g)
  else if ← ahead (.word "unsafe") then
    if isPublic && (← ahead (.next (.word "extern"))) then Reader.failAt before.here
    else if ← ahead (.next (.word "impl")) then
      set before
      implementation g
    else unsafeItem g
  else if ← ahead (.word "mod") then moduleItem g
  else if ← ahead (.word "type") then
    match ← typeDefinition g ⟨true, false⟩ with
    | some name => return .typeAlias name
    | none => return .other
  else if ← Reader.word? "struct" then
    let name ← declaredName
    parameters g
    return .record attributes name (← structBody g)
  else if ← Reader.word? "enum" then
    let name ← declaredName
    parameters g
    let _ ← conditions? g
    return .enumeration attributes name (← Reader.group .brace (Reader.listed (variant g)))
  else if ← ahead (.and (.word "union") (.next .name)) then
    Reader.word "union"
    let name ← declaredName
    parameters g
    let _ ← conditions? g
    let _ ← namedFields g
    return .union attributes name
  else if ← ahead (.or (.word "trait") (.and (.word "auto") (.next (.word "trait")))) then
    other (traitItem g)
  else if ← ahead (.or (.word "impl") (.and (.word "default") (.not (.next (.operator "!"))))) then
    set before
    implementation g
  else if ← ahead (.word "macro") then other macroDefinition
  else if !isPublic && (← ahead .pathStart) then other (macroCall true)
  else Reader.fail

/-- An item, from its visibility on. -/
def anyItem (g : Grammar) (attributes : List Attribute) : Reader Item := do
  let before ← get
  let isPublic ← visibility
  itemAfter g attributes before isPublic

end Grammar
end Source
end FixtureFactory
