import FixtureFactory.Source.Lookahead

/-!
# Readers

A reader takes trees off the front of a list and fails at a place.  Besides the trees that are
left it keeps three things: the bracket that ends the present group, which is where an error is
reported when nothing is left; the text of what has been read, from which the types without a path
take theirs; and the first tree that a finished group left unread, which is an error only if the
whole reading succeeds otherwise.
-/

namespace FixtureFactory
namespace Source

/-- The state of a reader. -/
structure Cursor where
  rest : List TokenTree
  /-- Where to report that something is missing at the end. -/
  limit : Position
  /-- The texts of what has been read, latest first. -/
  pieces : List String
  /-- The first tree that a finished group left unread. -/
  unread : Option Position
  /-- Whether the last tree was a group in curly brackets. -/
  endsInBrace : Bool
  deriving Inhabited

/-- A cursor before the first of some trees. -/
def Cursor.ofTrees (trees : List TokenTree) (limit : Position) : Cursor :=
  ⟨trees, limit, [], none, false⟩

/-- The place of the next tree, or of the end. -/
def Cursor.here (c : Cursor) : Position :=
  match c.rest with
  | tree :: _ => tree.start
  | [] => c.limit

/-- A reader of token trees. -/
abbrev Reader := StateT Cursor (Except Position)

namespace Reader

/-- Fails at a place. -/
def failAt {α : Type} (p : Position) : Reader α := throw p

/-- The place of the next tree. -/
def here : Reader Position := return (← get).here

/-- Fails at the next tree. -/
def fail {α : Type} : Reader α := do failAt (← here)

/-- The answer to a question about what comes next. -/
def ahead (ask : Lookahead) : Reader Bool := return ask (← get).rest

/-- Whether nothing is left. -/
def done : Reader Bool := ahead .atEnd

/-- Takes the trees of one token and notes its text. -/
def takeTrees (count : Nat) (text : String) : Reader Unit :=
  modify fun c =>
    { c with rest := c.rest.drop count, pieces := text :: c.pieces, endsInBrace := false }

/-- Takes an operator if it comes next. -/
def operator? (text : String) : Reader Bool := do
  if ← ahead (.operator text) then takeTrees text.length text; return true
  else return false

/-- Takes an operator. -/
def operator (text : String) : Reader Unit := do
  if !(← operator? text) then fail

/-- Takes a word if it comes next. -/
def word? (text : String) : Reader Bool := do
  if ← ahead (.word text) then takeTrees 1 text; return true
  else return false

/-- Takes a word. -/
def word (text : String) : Reader Unit := do
  if !(← word? text) then fail

/-- Takes any word. -/
def anyWord : Reader String := do
  match (← get).rest with
  | .leaf _ (.word word) :: _ => takeTrees 1 word.text; return word.text
  | _ => fail

/-- Takes a name. -/
def name : Reader String := do
  if ← ahead .name then anyWord else fail

/-- Takes a name or the underscore. -/
def nameOrBlank : Reader String := do
  if ← ahead (.or .name (.word "_")) then anyWord else fail

/-- Takes a lifetime. -/
def lifetime : Reader Unit := do
  match (← get).rest with
  | .leaf _ (.lifetime text) :: _ => takeTrees 1 text
  | _ => fail

/-- Takes a lifetime if it comes next. -/
def lifetime? : Reader Bool := do
  if ← ahead .lifetime then lifetime; return true
  else return false

/-- Takes a literal and gives its text.  A number keeps the minus sign before it. -/
def literal : Reader String := do
  if !(← ahead .literal) then fail
  else
    match (← get).rest with
    | .leaf _ (.operator _ _) :: .leaf _ token :: _ =>
        takeTrees 2 ("-" ++ token.text); return "-" ++ token.text
    | .leaf _ token :: _ => takeTrees 1 token.text; return token.text
    | _ => fail

/-- Takes a literal of a certain kind if it comes next. -/
def literalOf? (kind : LiteralKind) : Reader (Option String) := do
  if ← ahead (.literalOf kind) then return some (← literal)
  else return none

/-- Reads what a group holds.  Trees that the reader leaves are noted as unread. -/
def group {α : Type} (d : Delimiter) (inside : Reader α) : Reader α := do
  let c ← get
  match c.rest with
  | .group _ delimiter close trees :: rest =>
      if delimiter == d then do
        let (a, inner) ← (inside.run { c with rest := trees, limit := close, pieces := [] } :)
        let text := d.enclose (" ".intercalate inner.pieces.reverse)
        let unread := inner.unread <|> inner.rest.head?.map TokenTree.start
        set { c with
          rest := rest, pieces := text :: c.pieces, unread := unread,
          endsInBrace := d == .brace : Cursor }
        return a
      else fail
  | _ => fail

/-- Takes a group whatever it holds, and gives its brackets. -/
def anyGroup : Reader Delimiter := do
  match (← get).rest with
  | .group start d close trees :: _ =>
      takeTrees 1 (TokenTree.group start d close trees).text
      modify fun c => { c with endsInBrace := d == .brace }
      return d
  | _ => fail

/-- Runs a reader; where it fails, nothing has been read. -/
def attempt {α : Type} (r : Reader α) : Reader (Option α) := fun c =>
  match r.run c with
  | .ok (a, c') => .ok (some a, c')
  | .error _ => .ok (none, c)

/-- Runs a reader and gives the text of what it has read as well. -/
def withText {α : Type} (r : Reader α) : Reader (α × String) := do
  let outer := (← get).pieces
  modify fun c => { c with pieces := [] }
  let a ← r
  let inner := (← get).pieces
  modify fun c => { c with pieces := inner ++ outer }
  return (a, " ".intercalate inner.reverse)

/-! ## Repetition -/

/-- Repeats a step until it gives a result; the first argument bounds the number of steps. -/
def iterate {σ α : Type} (step : σ → Reader (σ ⊕ α)) : Nat → σ → Reader α
  | 0, _ => fail
  | fuel + 1, s => do
      match ← step s with
      | .inl s => iterate step fuel s
      | .inr a => return a

/-- Repeats a step until it gives a result.  Every step but the last takes a tree, so the number
of trees bounds the steps. -/
def repeating {σ α : Type} (s : σ) (step : σ → Reader (σ ⊕ α)) : Reader α := do
  iterate step ((← get).rest.length + 1) s

/-- Reads items until a question is answered yes. -/
def manyUntil {α : Type} (stop : Lookahead) (item : Reader α) : Reader (List α) :=
  repeating [] fun found => do
    if ← ahead stop then return .inr found.reverse
    else return .inl ((← item) :: found)

/-- Reads items, each but the last followed by a separator, up to where a question is answered
yes; the last one may have a separator too. -/
def separated {α : Type} (stop : Lookahead) (separator : String) (item : Reader α) :
    Reader (List α) :=
  repeating [] fun found => do
    if ← ahead stop then return .inr found.reverse
    else do
      let found := (← item) :: found
      if ← ahead stop then return .inr found.reverse
      else do
        operator separator
        return .inl found

/-- Reads items as long as a separator follows, or up to where a question is answered yes. -/
def chained {α : Type} (stop : Lookahead) (separator : String) (item : Reader α) :
    Reader (List α) :=
  repeating [] fun found => do
    if ← ahead stop then return .inr found.reverse
    else do
      let found := (← item) :: found
      if ← operator? separator then return .inl found
      else return .inr found.reverse

/-- The items of a list that fills the present group, with commas between them. -/
def listed {α : Type} (item : Reader α) : Reader (List α) := separated .atEnd "," item

end Reader

/-- Runs a reader over all of some trees.  Trees that it leaves, in a group or at the end, are an
error. -/
def Reader.runAll {α : Type} (r : Reader α) (trees : List TokenTree) : Except Position α := do
  let (a, c) ← r.run (.ofTrees trees .start)
  match c.unread, c.rest with
  | some p, _ => .error p
  | none, tree :: _ => .error tree.start
  | none, [] => .ok a

end Source
end FixtureFactory
