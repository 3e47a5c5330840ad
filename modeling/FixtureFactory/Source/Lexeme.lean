import FixtureFactory.Source.Literal
import FixtureFactory.Source.Token
import FixtureFactory.Text.Blank
import FixtureFactory.Text.Quoted

/-!
# Lexemes

The flat list of tokens and brackets of a source text.  Blanks and comments fall away, but a
documentation comment stands for the attribute that it abbreviates.  Where no token can be read,
the list ends with a lexeme that marks the place; whether that is the first fault of the text is
for the reader of the brackets to say, since an unmatched bracket may come before it.
-/

namespace FixtureFactory
namespace Source

/-- A token, a bracket, or a place where neither can be read. -/
inductive Lexeme where
  | token (t : Token)
  | opening (d : Delimiter)
  | closing (d : Delimiter)
  | unreadable
  deriving Inhabited, DecidableEq, Repr

/-- Whether a text starts with a pattern. -/
def opensWith (pattern : String) (cs : List Char) : Bool := pattern.toList.isPrefixOf cs

/-! ## Comments -/

/-- Splits before the end of the line. -/
def splitLine : List Char → List Char × List Char
  | [] => ([], [])
  | '\n' :: rest => ([], '\n' :: rest)
  | '\r' :: '\n' :: rest => ([], '\n' :: rest)
  | c :: rest => let (line, after) := splitLine rest; (c :: line, after)

/-- What follows a block comment, with the number of comments that are open. -/
def afterBlock : Nat → List Char → Option (List Char)
  | depth, '/' :: '*' :: rest => afterBlock (depth + 1) rest
  | depth, '*' :: '/' :: rest => if depth ≤ 1 then some rest else afterBlock (depth - 1) rest
  | depth, _ :: rest => afterBlock depth rest
  | _, [] => none

/-- What follows a comment that is no documentation. -/
def afterComment (cs : List Char) : Option (List Char) :=
  if opensWith "//" cs && (!opensWith "///" cs || opensWith "////" cs) && !opensWith "//!" cs then
    some (splitLine cs).2
  else if opensWith "/**/" cs then some (cs.drop 4)
  else if opensWith "/*" cs && (!opensWith "/**" cs || opensWith "/***" cs) &&
      !opensWith "/*!" cs then
    afterBlock 0 cs
  else none

/-- Whether no carriage return stands alone. -/
def cleanReturns : List Char → Bool
  | '\r' :: '\n' :: rest => cleanReturns rest
  | '\r' :: _ => false
  | _ :: rest => cleanReturns rest
  | [] => true

/-- A documentation comment: whether it belongs to what surrounds it, its text, and what
follows. -/
def documentation (cs : List Char) : Option (Bool × List Char × List Char) := do
  let (inner, text, rest) ←
    if opensWith "//!" cs then
      let (line, rest) := splitLine (cs.drop 3)
      some (true, line, rest)
    else if opensWith "/*!" cs then do
      let rest ← afterBlock 0 cs
      some (true, ((upTo cs rest).drop 3).dropLast.dropLast, rest)
    else if opensWith "///" cs && !opensWith "////" cs then
      let (line, rest) := splitLine (cs.drop 3)
      some (false, line, rest)
    else if opensWith "/**" cs && !opensWith "/***" cs then do
      let rest ← afterBlock 0 cs
      some (false, ((upTo cs rest).drop 3).dropLast.dropLast, rest)
    else none
  if cleanReturns text then some (inner, text, rest) else none

/-- The attribute that a documentation comment stands for. -/
def documentationLexemes (inner : Bool) (text : List Char) : List Lexeme :=
  [.token (.operator '#' false)] ++ (if inner then [.token (.operator '!' false)] else []) ++
    [.opening .bracket, .token (.word .doc), .token (.operator '=' false),
      .token (.literal .string (quoted (String.ofList text))), .closing .bracket]

/-! ## Tokens -/

/-- The kind of the literal at the start of a text, and what follows it. -/
def literal? (cs : List Char) : Option (LiteralKind × List Char) :=
  let text (kind : LiteralKind) (rest : Option (List Char)) :=
    rest.map fun rest => (kind, afterSuffix rest)
  match cs with
  | '"' :: rest => text .string (TextRules.string.afterText .plain rest)
  | 'r' :: rest => text .string (TextRules.string.afterRaw rest)
  | 'b' :: '"' :: rest => text .other (TextRules.bytes.afterText .plain rest)
  | 'b' :: 'r' :: rest => text .other (TextRules.bytes.afterRaw rest)
  | 'c' :: '"' :: rest => text .other (TextRules.terminated.afterText .plain rest)
  | 'c' :: 'r' :: rest => text .other (TextRules.terminated.afterRaw rest)
  | 'b' :: '\x27' :: rest => text .other (TextRules.byte.afterSingle rest)
  | '\x27' :: rest => text .other (TextRules.character.afterSingle rest)
  | _ =>
      match afterFraction cs >>= afterNumberSuffix with
      | some rest => some (.fraction, rest)
      | none => (afterInteger cs >>= afterNumberSuffix).map fun rest => (.integer, rest)

/-- The characters that make up operators. -/
def operatorCharacters : List Char := "~!@#$%^&*-=+|;:,<.>/?".toList

/-- Whether an operator character stands at the start, and not a comment.  A quote counts, as far
as the character before it is concerned. -/
def operatorAhead (cs : List Char) : Bool :=
  firstIs (fun c => c == '\x27' || operatorCharacters.contains c) cs &&
    !opensWith "//" cs && !opensWith "/*" cs

/-- The openings that a word must not have, because they promise a literal. -/
def literalOpenings : List String :=
  ["r\"", "r#\"", "r##", "b\"", "b'", "br\"", "br#", "c\"", "cr\"", "cr#"]

/-- The lifetime at the start of a text: what follows it. -/
def afterLifetime : List Char → Option (List Char)
  | '\x27' :: rest => do
      let after ← afterName rest
      if opensWith "'" after || (opensWith "#" after && !opensWith "r#" rest) then none
      else some after
  | _ => none

/-- The token at the start of a text, and what follows it. -/
def token? (cs : List Char) : Option (Token × List Char) :=
  match literal? cs with
  | some (kind, rest) => some (.literal kind (String.ofList (upTo cs rest)), rest)
  | none =>
      match afterLifetime cs with
      | some rest => some (.lifetime (String.ofList (upTo cs rest)), rest)
      | none =>
          if literalOpenings.any (opensWith · cs) then none
          else
            match cs with
            | [] => none
            | c :: rest =>
                if c != '\x27' && operatorAhead cs then
                  some (.operator c (operatorAhead rest), rest)
                else
                  match h : afterName cs with
                  | some rest => some (.word (.ofAfterName h), rest)
                  | none => none

/-! ## The list -/

/-- Whether a character separates tokens: the blanks, and the two marks of writing direction. -/
def isSeparator (c : Char) : Bool :=
  Text.isBlank c || c.toNat == 0x200E || c.toNat == 0x200F

/-- What the start of a text contributes, and what follows. -/
def lexeme? (cs : List Char) : Option (List Lexeme × List Char) :=
  match cs with
  | [] => none
  | c :: rest =>
      if isSeparator c then some ([], rest)
      else
        match afterComment cs with
        | some rest => some ([], rest)
        | none =>
            match documentation cs with
            | some (inner, text, rest) => some (documentationLexemes inner text, rest)
            | none =>
                match Delimiter.opening? c, Delimiter.closing? c with
                | some d, _ => some ([.opening d], rest)
                | none, some d => some ([.closing d], rest)
                | none, none => (token? cs).map fun (t, rest) => ([.token t], rest)

/-- The lexemes of a text that starts at a position; the first argument bounds their number. -/
def lexemesFrom : Nat → Position → List Char → List (Position × Lexeme)
  | 0, _, _ => []
  | _, _, [] => []
  | fuel + 1, p, c :: cs =>
      match lexeme? (c :: cs) with
      | none => [(p, .unreadable)]
      | some (found, rest) =>
          found.map (p, ·) ++ lexemesFrom fuel (p.afterAll (upTo (c :: cs) rest)) rest

/-- The lexemes of a text that starts at a position.  Each takes at least one character, so the
length of the text bounds their number. -/
def lexemes (p : Position) (cs : List Char) : List (Position × Lexeme) :=
  lexemesFrom (cs.length + 1) p cs

end Source
end FixtureFactory
