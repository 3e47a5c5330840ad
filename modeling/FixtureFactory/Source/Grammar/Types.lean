import FixtureFactory.Source.Grammar.Paths

/-!
# Types

Only paths, slices and parenthesized types keep their structure.  Every other form is read for
its text: the reader of a form says that it has no structure, and the text of what it has read is
its value.
-/

namespace FixtureFactory
namespace Source
namespace Grammar

open Lookahead (operatorOnly oneOf)

/-- Where bounds of an object type may stand. -/
def objectRules : BoundRules := ⟨false, true⟩

/-- Bounds that must have a trait among them; `start` is where to report that they have not. -/
def boundsWithTrait (g : Grammar) (allowSum : Bool) (rules : BoundRules) (start : Position) :
    Reader Unit := do
  let found ← bounds g allowSum rules
  if !found.contains .trait then Reader.failAt start

/-- The bounds after the first of a sum, each after a plus sign. -/
def furtherBounds (g : Grammar) : Reader Unit := do
  let _ ← Reader.manyUntil (.not (.operator "+")) do
    Reader.operator "+"
    g.bound ⟨false, false⟩

/-- The interface that a function declares. -/
def interface? : Reader Bool := do
  if !(← Reader.word? "extern") then return false
  else
    let _ ← Reader.literalOf? .string
    return true

/-- A parameter of a function type. -/
def functionTypeParameter (g : Grammar) (first : Bool) : Reader Unit := do
  let ahead := Reader.ahead
  let mutableSelf ← if first then ahead (.and (.word "mut") (.next (.word "self"))) else pure false
  if mutableSelf then Reader.word "mut"
  let named ← ahead (.and
    (.or .name (.or (.word "_") (if first then .word "self" else fun _ => false)))
    (.next (operatorOnly ":" "::")))
  if named then do
    let _ ← Reader.anyWord
    Reader.operator ":"
  if mutableSelf && !named then Reader.word "self"
  else do let _ ← g.type true

/-- A parameter that stands for any further ones. -/
def restAhead : Lookahead :=
  .or (.operator "...")
    (.and (.or .name (.word "_")) (.and (.next (.operator ":")) (.next (.next (.operator "...")))))

/-- The parameters of a function type. -/
def functionTypeParameters (g : Grammar) : Reader Unit :=
  Reader.repeating true fun first => do
    if ← Reader.done then return .inr ()
    else
      let _ ← outerAttributes g
      if ← Reader.ahead restAhead then
        if !(← Reader.ahead (.operator "...")) then do
          let _ ← Reader.anyWord
          Reader.operator ":"
        Reader.operator "..."
        let _ ← Reader.operator? ","
        return .inr ()
      else
        functionTypeParameter g first
        if ← Reader.done then return .inr ()
        else
          Reader.operator ","
          return .inl false

/-- A function type. -/
def functionType (g : Grammar) : Reader Unit := do
  let _ ← Reader.word? "unsafe"
  let _ ← interface?
  Reader.word "fn"
  Reader.group .parenthesis (functionTypeParameters g)
  let _ ← result? g false

/-- What a group in parentheses turned out to be. -/
inductive ParenthesizedType where
  | unit
  | tuple
  | single (inner : TypeTerm)
  /-- A bound, which further ones may follow. -/
  | bound

/-- What a group in parentheses holds, where a type is expected. -/
def parenthesizedContent (g : Grammar) : Reader ParenthesizedType := do
  if ← Reader.done then return .unit
  else if ← Reader.ahead .lifetime then
    let start ← Reader.here
    let (_, text) ← Reader.withText (boundsWithTrait g true objectRules start)
    return .single (.other text)
  else if ← Reader.ahead (.operator "?") then
    traitBound g objectRules
    return .bound
  else
    let inner ← g.type true
    if ← Reader.operator? "," then
      let _ ← Reader.listed (g.type true)
      return .tuple
    else return .single inner

/-- A type in parentheses, or a tuple. -/
def parenthesizedType (g : Grammar) (allowSum : Bool) : Reader (Option TypeTerm) := do
  match ← Reader.group .parenthesis (parenthesizedContent g) with
  | .unit => return some .unit
  | .tuple => return none
  | .bound => furtherBounds g; return none
  | .single inner =>
      if allowSum && (← Reader.ahead (.operator "+")) && inner.isPath then
        furtherBounds g
        return none
      else return some (.parenthesized inner)

/-- A path, a macro call, or a sum that starts with a path. -/
def pathType (g : Grammar) (allowSum bound : Bool) : Reader (Option TypeTerm) := do
  let p ← qualifiedPath g false
  if p.qualified then return none
  else if p.plain && (← Reader.ahead (operatorOnly "!" "!=")) then
    Reader.operator "!"
    let _ ← Reader.anyGroup
    return none
  else if bound || (allowSum && (← Reader.ahead (.operator "+"))) then
    if allowSum then
      Reader.repeating () fun _ => do
        if !(← Reader.operator? "+") then return .inr ()
        else if ← Reader.ahead (boundAhead false) then
          let _ ← g.bound ⟨false, false⟩
          return .inl ()
        else return .inr ()
    return none
  else return some (.path p.rooted p.segments p.before p.args)

/-- A slice or an array. -/
def bracketType (g : Grammar) : Reader (Option TypeTerm) :=
  Reader.group .bracket do
    let element ← g.type true
    if ← Reader.operator? ";" then
      let _ ← g.expression true
      return none
    else return some (.slice element)

/-- A pointer. -/
def pointerType (g : Grammar) : Reader Unit := do
  Reader.operator "*"
  if !(← Reader.word? "const") then Reader.word "mut"
  let _ ← g.type false

/-- A reference. -/
def referenceType (g : Grammar) : Reader Unit := do
  Reader.operator "&"
  let _ ← Reader.lifetime?
  let _ ← Reader.word? "mut"
  let _ ← g.type false

/-- The start of a type that is a path. -/
def typePathStart : Lookahead :=
  .or .name (.or (oneOf ["super", "self", "Self", "crate"]) (Lookahead.oneOfOperators ["::", "<"]))

/-- A type that no parameters of its own precede. -/
def unboundType (g : Grammar) (allowSum : Bool) : Reader (Option TypeTerm) := do
  let ahead := Reader.ahead
  if ← ahead (.word "dyn") then
    let start ← Reader.here
    Reader.word "dyn"
    let _ ← Reader.operator? "*"
    boundsWithTrait g allowSum objectRules start
    return none
  else if ← ahead (.group .bracket) then bracketType g
  else if ← ahead (.operator "*") then pointerType g; return none
  else if ← ahead (.operator "&") then referenceType g; return none
  else if ← ahead (.and (.operator "!") (.not (.operator "="))) then
    Reader.operator "!"
    return none
  else if ← ahead (.word "impl") then
    let start ← Reader.here
    Reader.word "impl"
    boundsWithTrait g allowSum ⟨true, true⟩ start
    return none
  else if ← ahead (.word "_") then Reader.word "_"; return none
  else if ← ahead .lifetime then
    boundsWithTrait g true objectRules (← Reader.here)
    return none
  else Reader.fail

/-- A type: its structure, if it keeps one. -/
def typeForm (g : Grammar) (allowSum : Bool) : Reader (Option TypeTerm) := do
  let bound ← binder? g
  let ahead := Reader.ahead
  if bound && !(← ahead (.or .name (oneOf ["fn", "unsafe", "extern", "super", "self", "Self",
      "crate"]))) then Reader.fail
  else if ← ahead (.group .parenthesis) then parenthesizedType g allowSum
  else if ← ahead (oneOf ["fn", "unsafe", "extern"]) then functionType g; return none
  else if ← ahead typePathStart then pathType g allowSum bound
  else unboundType g allowSum

/-- A type. -/
def anyType (g : Grammar) (allowSum : Bool) : Reader TypeTerm := do
  let (form, text) ← Reader.withText (typeForm g allowSum)
  return form.getD (.other text)

end Grammar
end Source
end FixtureFactory
