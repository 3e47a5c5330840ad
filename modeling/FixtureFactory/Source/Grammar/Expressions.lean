import FixtureFactory.Source.Grammar.Operators

/-!
# Expressions

Operands and what may follow them.  Where a record literal would be ambiguous, as in the
condition of a control structure, the flag `records` is off.
-/

namespace FixtureFactory
namespace Source
namespace Grammar

open Lookahead (operatorOnly oneOf oneOfOperators)

/-- What may start an expression. -/
def expressionAhead : Lookahead := fun trees =>
  (Lookahead.anyWord trees && !Lookahead.word "as" trees) || Lookahead.anyGroup trees ||
    Lookahead.literal trees || operatorOnly "!" "!=" trees ||
    (Lookahead.operator "-" trees && !oneOfOperators ["-=", "->"] trees) ||
    operatorOnly "*" "*=" trees || operatorOnly "|" "|=" trees || operatorOnly "&" "&=" trees ||
    oneOfOperators ["..", "::", "#"] trees ||
    (Lookahead.operator "<" trees && !oneOfOperators ["<=", "<<="] trees) ||
    Lookahead.lifetime trees

/-! ## Control structures -/

/-- A block with attributes of its own. -/
def bodyBlock (g : Grammar) : Reader Unit :=
  Reader.group .brace do
    let _ ← innerAttributes g
    g.statements

/-- A chain of conditions. -/
def conditional (g : Grammar) : Reader Unit :=
  Reader.repeating () fun _ => do
    Reader.word "if"
    let _ ← g.expression false
    block g
    if !(← Reader.word? "else") then return .inr ()
    else if ← Reader.ahead (.word "if") then return .inl ()
    else
      block g
      return .inr ()

/-- A case of a match. -/
def matchCase (g : Grammar) : Reader Unit := do
  let _ ← outerAttributes g
  let _ ← alternatives g
  if ← Reader.word? "if" then do let _ ← g.expression true
  Reader.operator "=>"
  let body ← g.early
  if body != .blockLike && !(← Reader.done) then Reader.operator ","
  else do let _ ← Reader.operator? ","

/-- A match over its cases. -/
def matching (g : Grammar) : Reader Unit := do
  Reader.word "match"
  let _ ← g.expression false
  Reader.group .brace do
    let _ ← innerAttributes g
    let _ ← Reader.manyUntil .atEnd (matchCase g)

/-- A loop over a condition. -/
def whileLoop (g : Grammar) : Reader Unit := do
  Reader.word "while"
  let _ ← g.expression false
  bodyBlock g

/-- A loop over the elements of something. -/
def forLoop (g : Grammar) : Reader Unit := do
  Reader.word "for"
  let _ ← alternatives g
  Reader.word "in"
  let _ ← g.expression false
  bodyBlock g

/-- A loop without an end. -/
def endlessLoop (g : Grammar) : Reader Unit := do
  Reader.word "loop"
  bodyBlock g

/-- A loop or a block with a label. -/
def labelled (g : Grammar) : Reader Unit := do
  Reader.lifetime
  Reader.operator ":"
  if ← Reader.ahead (.word "while") then whileLoop g
  else if ← Reader.ahead (.word "for") then forLoop g
  else if ← Reader.ahead (.word "loop") then endlessLoop g
  else bodyBlock g

/-- Whether a loop over elements comes next, and not a function with parameters of its own. -/
def binderAhead : Lookahead :=
  .and (.word "for") (.and (.next (.operator "<"))
    (.next (.next (.or .lifetime (.operator ">")))))

/-- A control structure or a block, if one comes next. -/
def blockLike? (g : Grammar) : Reader Bool := do
  let ahead := Reader.ahead
  let found (r : Reader Unit) : Reader Bool := do r; return true
  if ← ahead (.word "if") then found (conditional g)
  else if ← ahead (.word "while") then found (whileLoop g)
  else if ← ahead (.and (.word "for") (.not binderAhead)) then found (forLoop g)
  else if ← ahead (.word "loop") then found (endlessLoop g)
  else if ← ahead (.word "match") then found (matching g)
  else if ← ahead (.and (.word "try") (.next (.group .brace))) then
    found do
      Reader.word "try"
      block g
  else if ← ahead (.word "unsafe") then
    found do
      Reader.word "unsafe"
      bodyBlock g
  else if ← ahead (.and (.word "const") (.next (.group .brace))) then found (constantBlock g)
  else if ← ahead (.group .brace) then found (bodyBlock g)
  else if ← ahead .lifetime then found (labelled g)
  else return false

/-! ## Operands -/

/-- A parameter of a closure. -/
def closureParameter (g : Grammar) : Reader Unit := do
  let _ ← outerAttributes g
  let _ ← g.pattern
  if ← Reader.operator? ":" then do let _ ← g.type true

/-- A closure. -/
def closure (g : Grammar) (records : Bool) : Reader Unit := do
  let _ ← binder? g
  let _ ← Reader.word? "const"
  let _ ← Reader.word? "static"
  let _ ← Reader.word? "async"
  let _ ← Reader.word? "move"
  Reader.operator "|"
  let _ ← Reader.separated (.operator "|") "," (closureParameter g)
  Reader.operator "|"
  if ← Reader.operator? "->" then
    let _ ← g.type true
    block g
  else do let _ ← g.expression records

/-- Whether a closure comes next. -/
def closureAhead : Lookahead := fun trees =>
  Lookahead.operator "|" trees || oneOf ["move", "static"] trees || binderAhead trees ||
    (Lookahead.word "const" trees && !(Lookahead.group .brace).next trees) ||
    (Lookahead.word "async" trees &&
      (Lookahead.or (.operator "|") (.word "move")).next trees)

/-- Whether an asynchronous block comes next. -/
def asyncBlockAhead : Lookahead :=
  .and (.word "async") (.next (.or (.group .brace)
    (.and (.word "move") (.next (.group .brace)))))

/-- The fields of a record literal. -/
def recordFields (g : Grammar) : Reader Unit :=
  Reader.repeating () fun _ => do
    if ← Reader.done then return .inr ()
    else if ← Reader.operator? ".." then
      if !(← Reader.done) then do let _ ← g.expression true
      return .inr ()
    else
      let _ ← outerAttributes g
      let named ← member
      if !named || (← Reader.ahead (.operator ":")) then
        Reader.operator ":"
        let _ ← g.expression true
      if ← Reader.done then return .inr ()
      else
        Reader.operator ","
        return .inl ()

/-- An operand that starts with a path. -/
def pathOperand (g : Grammar) (records : Bool) : Reader Expression := do
  let p ← qualifiedPath g true
  if !p.qualified && p.plain && (← Reader.ahead (operatorOnly "!" "!=")) then
    Reader.operator "!"
    let d ← Reader.anyGroup
    return if d == .brace then .braceCall else .other
  else
    if records && (← Reader.ahead (.group .brace)) then
      Reader.group .brace (recordFields g)
    return .other

/-- An array, by its elements or by one element and its length. -/
def arrayOperand (g : Grammar) : Reader Unit :=
  Reader.group .bracket do
    if !(← Reader.done) then
      let _ ← g.expression true
      if ← Reader.operator? ";" then do let _ ← g.expression true
      else if !(← Reader.done) then
        Reader.operator ","
        let _ ← Reader.listed (g.expression true)

/-- A group in parentheses, or a tuple. -/
def groupOperand (g : Grammar) : Reader Unit := do
  let _ ← Reader.group .parenthesis (Reader.listed (g.expression true))

/-- The end of a loop, with a label and a value if there are some. -/
def breakOperand (g : Grammar) (records : Bool) : Reader Unit := do
  Reader.word "break"
  let start ← Reader.here
  if ← Reader.ahead (.and .lifetime (.next (.operator ":"))) then
    let _ ← g.expression true
    Reader.failAt start
  else
    let _ ← Reader.lifetime?
    if (← Reader.ahead expressionAhead) && (records || !(← Reader.ahead (.group .brace))) then
      let _ ← g.expression true

/-- A keyword with a value if there is one. -/
def leaving (g : Grammar) (keyword : String) : Reader Unit := do
  Reader.word keyword
  if ← Reader.ahead expressionAhead then do let _ ← g.expression true

/-- A condition that matches a pattern. -/
def letOperand (g : Grammar) (records : Bool) : Reader Unit := do
  Reader.word "let"
  let _ ← alternatives g
  Reader.operator "="
  let first ← g.operand records
  let _ ← g.continued records Strength.comparison first

/-- What may start a path in an expression. -/
def operandPathStart : Lookahead :=
  .or typePathStart (.and (.word "try") (.next (oneOfOperators ["!", "::"])))

/-- An operand without operators. -/
def atom (g : Grammar) (records : Bool) : Reader Expression := do
  let ahead := Reader.ahead
  let other (r : Reader Unit) : Reader Expression := do r; return .other
  if ← ahead .literal then other do let _ ← Reader.literal
  else if ← ahead asyncBlockAhead then
    other do
      Reader.word "async"
      let _ ← Reader.word? "move"
      block g
  else if ← ahead closureAhead then other (closure g records)
  else if ← ahead (.and (.word "builtin") (.next (.operator "#"))) then
    other do
      Reader.word "builtin"
      Reader.operator "#"
      let _ ← Reader.name
      let _ ← Reader.anyGroup
  else if ← ahead operandPathStart then pathOperand g records
  else if ← ahead (.group .parenthesis) then other (groupOperand g)
  else if ← ahead (.word "break") then other (breakOperand g records)
  else if ← Reader.word? "continue" then other do let _ ← Reader.lifetime?
  else if ← ahead (.word "return") then other (leaving g "return")
  else if ← Reader.word? "become" then other do let _ ← g.expression true
  else if ← ahead (.group .bracket) then other (arrayOperand g)
  else if ← ahead (.word "let") then other (letOperand g records)
  else if ← ahead (.word "yield") then other (leaving g "yield")
  else if ← ahead (.operator "..") then
    rangeTail g records
    return .range
  else if ← Reader.word? "_" then return .other
  else if ← blockLike? g then return .blockLike
  else Reader.fail

/-- Whether the text of a number with a fraction is two field numbers, the second of which may be
missing. -/
def fieldNumbers (text : String) : Option Bool :=
  let whole := text.toList.all fun c => c.isDigit || c == '_' || c == '.'
  if !whole then none
  else
    match (text.toList.dropWhile (· != '.')).drop 1 with
    | [] => some false
    | c :: _ => if c.isDigit then some true else none

/-- The name and the arguments of a field or a method, after the dot. -/
def memberAccess (g : Grammar) : Reader Unit := do
  if ← Reader.word? "await" then return ()
  else
    let named ← member
    let typed ← if named then Reader.ahead (.operator "::") else pure false
    if typed then do let _ ← arguments g
    if typed || (named && (← Reader.ahead (.group .parenthesis))) then groupOperand g

/-- What follows a dot. -/
def afterDot (g : Grammar) : Reader Unit := do
  let start ← Reader.here
  match ← Reader.literalOf? .fraction with
  | some text =>
      match fieldNumbers text with
      | some true => return ()
      | some false => memberAccess g
      | none => Reader.failAt start
  | none => memberAccess g

/-- What may follow an operand without an operator: calls, fields, indices and question marks. -/
def trailers (g : Grammar) (first : Expression) : Reader Expression :=
  Reader.repeating first fun e => do
    if ← Reader.ahead (.group .parenthesis) then
      groupOperand g
      return .inl .other
    else if e != .range && (← Reader.ahead (operatorOnly "." "..")) then
      Reader.operator "."
      afterDot g
      return .inl .other
    else if ← Reader.ahead (.group .bracket) then
      Reader.group .bracket do let _ ← g.expression true
      return .inl .other
    else if e != .range && (← Reader.operator? "?") then return .inl .other
    else return .inr e

/-- An operand, with the operators before it. -/
def anyOperand (g : Grammar) (records : Bool) : Reader Expression := do
  let _ ← outerAttributes g
  if ← Reader.operator? "&" then
    if ← Reader.ahead (.and (.word "raw") (.next (oneOf ["mut", "const"]))) then
      Reader.word "raw"
      let _ ← Reader.anyWord
    else do let _ ← Reader.word? "mut"
    let _ ← g.operand records
    return .other
  else if ← Reader.ahead (oneOfOperators ["*", "!", "-"]) then
    if !(← Reader.operator? "*") && !(← Reader.operator? "!") then Reader.operator "-"
    let _ ← g.operand records
    return .other
  else trailers g (← atom g records)

/-- An expression. -/
def anyExpression (g : Grammar) (records : Bool) : Reader Expression := do
  let first ← anyOperand g records
  operatorsFrom g records Strength.least first

/-- An expression that ends with its block if it starts with one. -/
def earlyExpression (g : Grammar) : Reader Expression := do
  let _ ← outerAttributes g
  if ← blockLike? g then
    if ← Reader.ahead (.or (operatorOnly "." "..") (.operator "?")) then
      operatorsFrom g true Strength.least (← trailers g .blockLike)
    else return .blockLike
  else anyExpression g true

end Grammar
end Source
end FixtureFactory
