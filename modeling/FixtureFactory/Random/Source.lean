/-!
# Random sources

A random source is an infinite table of 32-bit words and a position in it.  Every draw reads words
from the position on and moves it forward, so a run with a given table is an ordinary function,
and a statement about all random runs is a statement about all tables.

A draw from a range multiplies a word by the size of the range and keeps the high half.  The low
half says how far the word is from the next multiple; only when it is so large that a second word
could carry into the high half is a second word drawn.
-/

namespace FixtureFactory

/-- A table of words and a position in it. -/
structure RandomSource where
  word : Nat → UInt32
  position : Nat

/-- A computation that draws from a random source. -/
abbrev Draw (α : Type) := StateM RandomSource α

namespace Draw

/-- The next word. -/
def word : Draw Nat := fun s => ((s.word s.position).toNat, { s with position := s.position + 1 })

/-- The next two words, the low half first. -/
def doubleWord : Draw Nat := do
  let low ← word
  let high ← word
  return high * UInt32.size + low

/-- A fair coin. -/
def coin : Draw Bool := do
  let w ← doubleWord
  return 2 * w < UInt64.size

/-- A number below `n`. -/
def below (n : Nat) : Draw Nat := do
  let product := (← word) * n
  let high := product / UInt32.size
  let low := product % UInt32.size
  if low > UInt32.size - n then
    let second := (← word) * n
    return if low + second / UInt32.size ≥ UInt32.size then high + 1 else high
  else return high

/-- An element of a list; an empty list draws nothing. -/
def choose {α : Type} (xs : List α) : Draw (Option α) :=
  if xs.isEmpty then pure none
  else do
    let i ← below xs.length
    return xs[i]?

/-- `n` draws, one after another. -/
def times {α : Type} (draw : Draw α) : Nat → Draw (List α)
  | 0 => pure []
  | n + 1 => do
      let x ← draw
      let xs ← times draw n
      return x :: xs

end Draw
end FixtureFactory
