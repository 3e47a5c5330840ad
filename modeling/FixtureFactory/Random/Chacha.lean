import FixtureFactory.Random.Source

/-!
# The seeded word table

A seed of 64 bits is stretched to a key of eight words by a permuted congruential generator, and
the table is the key stream of the ChaCha cipher with twelve rounds, a block counter of 64 bits
from zero and a zero nonce.
-/

namespace FixtureFactory
namespace Chacha

/-- A word turned left by `k` bits. -/
def rotateLeft (x : UInt32) (k : UInt32) : UInt32 := (x <<< k) ||| (x >>> (32 - k))

/-- The sixteen words of a block. -/
abbrev Block := Vector UInt32 16

/-- The quarter round on four words of a block. -/
def quarterRound (v : Block) (a b c d : Fin 16) : Block :=
  let v := v.set a (v[a] + v[b])
  let v := v.set d (rotateLeft (v[d] ^^^ v[a]) 16)
  let v := v.set c (v[c] + v[d])
  let v := v.set b (rotateLeft (v[b] ^^^ v[c]) 12)
  let v := v.set a (v[a] + v[b])
  let v := v.set d (rotateLeft (v[d] ^^^ v[a]) 8)
  let v := v.set c (v[c] + v[d])
  v.set b (rotateLeft (v[b] ^^^ v[c]) 7)

/-- Two rounds: the columns, then the diagonals. -/
def doubleRound (v : Block) : Block :=
  let v := quarterRound v 0 4 8 12
  let v := quarterRound v 1 5 9 13
  let v := quarterRound v 2 6 10 14
  let v := quarterRound v 3 7 11 15
  let v := quarterRound v 0 5 10 15
  let v := quarterRound v 1 6 11 12
  let v := quarterRound v 2 7 8 13
  quarterRound v 3 4 9 14

/-- The block before the rounds: four constant words, the key, the counter and the nonce. -/
def initialBlock (key : Vector UInt32 8) (counter : Nat) : Block :=
  #v[0x61707865, 0x3320646e, 0x79622d32, 0x6b206574,
     key[0], key[1], key[2], key[3], key[4], key[5], key[6], key[7],
     UInt32.ofNat counter, UInt32.ofNat (counter / UInt32.size), 0, 0]

/-- The block of a counter. -/
def block (key : Vector UInt32 8) (counter : Nat) : Block :=
  let start := initialBlock key counter
  let mixed := (List.range 6).foldl (fun v _ => doubleRound v) start
  Vector.ofFn fun i => mixed[i] + start[i]

/-- One step of the congruential generator. -/
def seedStep (state : UInt64) : UInt64 := state * 6364136223846793005 + 11634580027462260723

/-- The output of a state of the congruential generator: its high bits, folded and turned right
by an amount that the state itself gives. -/
def seedWord (state : UInt64) : UInt32 :=
  let x := (((state >>> 18) ^^^ state) >>> 27).toUInt32
  let k := (state >>> 59).toUInt32
  (x >>> k) ||| (x <<< ((32 - k) % 32))

/-- The state after `n + 1` steps from a seed. -/
def seedState (seed : UInt64) : Nat → UInt64
  | 0 => seedStep seed
  | n + 1 => seedStep (seedState seed n)

/-- The key of a seed. -/
def key (seed : UInt64) : Vector UInt32 8 := Vector.ofFn fun i => seedWord (seedState seed i)

end Chacha

namespace RandomSource

/-- The source of a seed, at its start. -/
def ofSeed (seed : UInt64) : RandomSource :=
  let key := Chacha.key seed
  ⟨fun n => (Chacha.block key (n / 16)).get ⟨n % 16, Nat.mod_lt _ (by decide)⟩, 0⟩

end RandomSource
end FixtureFactory
