import FixtureFactory.Source.Grammar.Attributes

/-!
# Paths, arguments and bounds

A path is a list of segments, each with or without arguments.  In an expression the arguments
must follow a double colon, since an opening angle bracket alone would be a comparison there.
-/

namespace FixtureFactory
namespace Source
namespace Grammar

open Lookahead (operatorOnly oneOf)

/-- A path as it was read. -/
structure PathForm where
  /-- Whether it starts with a type in angle brackets. -/
  qualified : Bool
  rooted : Bool
  segments : List String
  /-- The arguments of the segments before the last. -/
  before : List Argument
  /-- The arguments of the last segment. -/
  args : List Argument
  /-- Whether no segment has arguments. -/
  plain : Bool
  /-- Whether the last segment has none. -/
  bare : Bool

/-- A block that is an argument or an operand. -/
def block (g : Grammar) : Reader Unit := Reader.group .brace g.statements

/-- The value of an argument that is a constant. -/
def constantArgument (g : Grammar) : Reader Unit := do
  if ← Reader.ahead .literal then do let _ ← Reader.literal
  else if ← Reader.ahead .name then do let _ ← Reader.name
  else if ← Reader.ahead (.group .brace) then block g
  else Reader.fail

/-- What an argument in angle brackets turned out to be. -/
inductive ArgumentForm where
  | lifetime
  | type (t : TypeTerm)
  /-- A constant, or something about an associated item. -/
  | other

/-- The argument of a form and a text. -/
def ArgumentForm.toArgument (text : String) : ArgumentForm → Argument
  | .type t => .type t
  | _ => .other text

/-- Whether an argument is a lifetime. -/
def ArgumentForm.isLifetime : ArgumentForm → Bool
  | .lifetime => true
  | _ => false

/-- An argument. -/
def argument (g : Grammar) : Reader ArgumentForm := do
  if ← Reader.ahead (.and .lifetime (.not (.next (.operator "+")))) then
    Reader.lifetime
    return .lifetime
  else if ← Reader.ahead (.or .literal (.group .brace)) then
    constantArgument g
    return .other
  else
    let t ← g.type true
    if !t.isName then return .type t
    else if ← Reader.operator? "=" then
      if ← Reader.ahead (.or .literal (.group .brace)) then constantArgument g
      else do let _ ← g.type true
      return .other
    else if ← Reader.operator? ":" then
      let _ ← Reader.chained (Lookahead.oneOfOperators [",", ">"]) "+" (g.bound ⟨false, true⟩)
      return .other
    else return .type t

/-- The text of arguments, each with the comma after it, if one follows. -/
def argumentPieces (trailing : Bool) :
    List (ArgumentForm × String) → List (ArgumentForm × List String)
  | [] => []
  | [(a, text)] => [(a, if trailing then [text, ","] else [text])]
  | (a, text) :: rest => (a, [text, ","]) :: argumentPieces trailing rest

/-- The text of arguments with the lifetimes first, wherever they stand.  An argument that is
moved keeps the comma after it, and one is added where none is left between two of them. -/
def arrangedPieces (found : List (ArgumentForm × List String)) : List String :=
  let (lifetimes, others) := found.partition fun a => a.1.isLifetime
  let first := lifetimes.flatMap (·.2)
  let second := others.flatMap (·.2)
  if first.isEmpty || second.isEmpty || first.getLast? == some "," then first ++ second
  else first ++ "," :: second

/-- Arguments in angle brackets. -/
def arguments (g : Grammar) : Reader (List Argument) := do
  let _ ← Reader.operator? "::"
  Reader.operator "<"
  let outer := (← get).pieces
  modify fun c => { c with pieces := [] }
  let found ← Reader.separated (.operator ">") "," (Reader.withText (argument g))
  let trailing := (← get).pieces.head? == some ","
  let text := arrangedPieces (argumentPieces trailing found)
  modify fun c => { c with pieces := text.reverse ++ outer }
  Reader.operator ">"
  return found.map fun (form, text) => form.toArgument text

/-- A segment: its name, and its arguments if it has some. -/
def segment (g : Grammar) (inExpression : Bool) : Reader (String × Option (List Argument)) := do
  if ← Reader.ahead (oneOf ["super", "self", "crate", "try"]) then return (← Reader.anyWord, none)
  else
    let name ← if ← Reader.ahead (.word "Self") then Reader.anyWord else Reader.name
    let direct ← Reader.ahead (operatorOnly "<" "<=")
    let marked ← Reader.ahead (.and (.operator "::") (.next (.next (.operator "<"))))
    if (!inExpression && direct) || marked then return (name, some (← arguments g))
    else return (name, none)

/-- The path with one more segment. -/
def PathForm.add (p : PathForm) : String × Option (List Argument) → PathForm
  | (name, args) =>
      { p with
        segments := p.segments ++ [name], before := p.before ++ p.args, args := args.getD []
        plain := p.plain && args.isNone, bare := args.isNone }

/-- A path that does not start with a type. -/
def path (g : Grammar) (inExpression : Bool) : Reader PathForm := do
  let rooted ← Reader.operator? "::"
  let first ← segment g inExpression
  let start : PathForm := ⟨false, rooted, [], [], [], true, true⟩
  Reader.repeating (start.add first) fun p => do
    let continues ← Reader.ahead
      (.and (.operator "::") (.not (.next (.next (.group .parenthesis)))))
    if continues then
      Reader.operator "::"
      return .inl (p.add (← segment g inExpression))
    else return .inr p

/-- A path that may start with a type in angle brackets. -/
def qualifiedPath (g : Grammar) (inExpression : Bool) : Reader PathForm := do
  if !(← Reader.operator? "<") then path g inExpression
  else
    let _ ← g.type true
    if ← Reader.word? "as" then do let _ ← path g false
    Reader.operator ">"
    Reader.operator "::"
    let start : PathForm := ⟨true, false, [], [], [], true, true⟩
    Reader.repeating (start.add (← segment g inExpression)) fun p => do
      if ← Reader.operator? "::" then return .inl (p.add (← segment g inExpression))
      else return .inr p

/-- A result after an arrow. -/
def result? (g : Grammar) (allowSum : Bool) : Reader (Option TypeTerm) := do
  if ← Reader.operator? "->" then return some (← g.type allowSum)
  else return none

/-! ## Bounds -/

/-- A parameter that stands for a lifetime. -/
def lifetimeParameter : Reader Unit := do
  Reader.lifetime
  if ← Reader.operator? ":" then do
    let _ ← Reader.chained (.or .atEnd (Lookahead.oneOfOperators [",", ">"])) "+" Reader.lifetime

/-- The bounds of a parameter, up to where a question is answered yes. -/
def boundsUntil (g : Grammar) (stop : Lookahead) : Reader Unit := do
  let _ ← Reader.chained (.or .atEnd stop) "+" (g.bound ⟨false, true⟩)

/-- A parameter that stands for a type, after its name. -/
def typeParameter (g : Grammar) : Reader Unit := do
  if ← Reader.operator? ":" then boundsUntil g (Lookahead.oneOfOperators [",", ">", "="])
  if ← Reader.operator? "=" then do let _ ← g.type true

/-- A parameter that stands for a constant. -/
def constantParameter (g : Grammar) : Reader Unit := do
  Reader.word "const"
  let _ ← Reader.name
  Reader.operator ":"
  let _ ← g.type true
  if ← Reader.operator? "=" then constantArgument g

/-- A parameter of a declaration. -/
def parameter (g : Grammar) (allowBlank : Bool) : Reader Unit := do
  let _ ← outerAttributes g
  if ← Reader.ahead .lifetime then lifetimeParameter
  else if ← Reader.ahead (if allowBlank then .or .name (.word "_") else .name) then
    let _ ← Reader.anyWord
    typeParameter g
  else constantParameter g

/-- The parameters of a declaration, if it has some. -/
def parameters (g : Grammar) : Reader Unit := do
  if ← Reader.operator? "<" then
    let _ ← Reader.separated (.operator ">") "," (parameter g true)
    Reader.operator ">"

/-- The parameters that a type or a bound introduces; whether there are some. -/
def binder? (g : Grammar) : Reader Bool := do
  if !(← Reader.word? "for") then return false
  else
    Reader.operator "<"
    let _ ← Reader.separated (.operator ">") "," (parameter g false)
    Reader.operator ">"
    return true

/-- The arguments of a function in a bound. -/
def callArguments (g : Grammar) : Reader Unit := do
  let _ ← Reader.operator? "::"
  let _ ← Reader.group .parenthesis (Reader.listed (g.type true))
  let _ ← result? g false

/-- The list of captured names. -/
def capture (rules : BoundRules) : Reader Bound := do
  let start ← Reader.here
  Reader.word "use"
  Reader.operator "<"
  let _ ← Reader.separated (.operator ">") "," do
    if ← Reader.ahead .lifetime then Reader.lifetime
    else if ← Reader.ahead (.or .name (.word "Self")) then do let _ ← Reader.anyWord
    else Reader.fail
  Reader.operator ">"
  if rules.capture then return .capture else Reader.failAt start

/-- A trait with what may stand before and after its path. -/
def traitBound (g : Grammar) (rules : BoundRules) : Reader Unit := do
  let bound ← binder? g
  let start ← Reader.here
  if ← Reader.ahead (.group .bracket) then
    Reader.group .bracket (Reader.word "const")
    if !rules.const then Reader.failAt start
  else if ← Reader.word? "const" then
    if !rules.const then Reader.failAt start
  let mark ← Reader.here
  let relaxed ← Reader.operator? "?"
  let boundAfter ← if !bound && relaxed then binder? g else pure false
  let p ← path g false
  if p.bare then
    if ← Reader.ahead (.or (.group .parenthesis)
        (.and (.operator "::") (.next (.next (.group .parenthesis))))) then
      callArguments g
  if (bound || boundAfter) && relaxed then Reader.failAt mark

/-- A bound. -/
def anyBound (g : Grammar) (rules : BoundRules) : Reader Bound := do
  if ← Reader.ahead .lifetime then
    Reader.lifetime
    return .lifetime
  else if ← Reader.ahead (.word "use") then capture rules
  else
    if ← Reader.ahead (.group .parenthesis) then
      Reader.group .parenthesis (traitBound g rules)
    else traitBound g rules
    return .trait

/-- What may follow a plus sign between bounds. -/
def boundAhead (allowConst : Bool) : Lookahead := fun trees =>
  Lookahead.anyWord trees || Lookahead.oneOfOperators ["::", "?"] trees ||
    Lookahead.lifetime trees || Lookahead.group .parenthesis trees ||
    (allowConst && (Lookahead.group .bracket trees || Lookahead.word "const" trees))

/-- One bound, or a sum of them where that is allowed. -/
def bounds (g : Grammar) (allowSum : Bool) (rules : BoundRules) : Reader (List Bound) :=
  Reader.repeating [] fun found => do
    let found := (← g.bound rules) :: found
    if !allowSum then return .inr found.reverse
    else if !(← Reader.operator? "+") then return .inr found.reverse
    else if ← Reader.ahead (boundAhead rules.const) then return .inl found
    else return .inr found.reverse

/-- A condition on a type or a lifetime. -/
def condition (g : Grammar) : Reader Unit := do
  let stop : Lookahead := .or .atEnd
    (.or (.group .brace)
      (.or (Lookahead.oneOfOperators [",", ";", "="]) (operatorOnly ":" "::")))
  if ← Reader.ahead (.and .lifetime (.next (.operator ":"))) then
    Reader.lifetime
    Reader.operator ":"
    let _ ← Reader.chained (.or stop (.operator ":")) "+" Reader.lifetime
  else
    let _ ← binder? g
    let _ ← g.type true
    Reader.operator ":"
    boundsUntil g stop

/-- The conditions of a declaration; whether there is a place for them. -/
def conditions? (g : Grammar) : Reader Bool := do
  if !(← Reader.word? "where") then return false
  else
    let stop : Lookahead := .or .atEnd
      (.or (.group .brace)
        (.or (Lookahead.oneOfOperators [",", ";", "="]) (operatorOnly ":" "::")))
    let _ ← Reader.chained stop "," (condition g)
    return true

end Grammar
end Source
end FixtureFactory
