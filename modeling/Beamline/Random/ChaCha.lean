import Beamline.Powers

/-!
ChaCha with eight rounds as a source of random words. The words of a seed are numbered, and each
is a function of the seed and its number alone.
-/

namespace Beamline.Random

/-- Sixteen words: four constants, the key, a block counter, and zeros. -/
abbrev Block := Vector UInt32 16

def rotate (x : UInt32) (n : UInt32) : UInt32 := (x <<< n) ||| (x >>> (32 - n))

/-- Add word `b` to word `a`, and turn the difference of words `d` and `a` by `n` bits. -/
def mix (a b d : Fin 16) (n : UInt32) (v : Block) : Block :=
  let v := v.set a (v[a] + v[b])
  v.set d (rotate (v[d] ^^^ v[a]) n)

def quarterRound (v : Block) (q : Fin 16 × Fin 16 × Fin 16 × Fin 16) : Block :=
  let (a, b, c, d) := q
  mix c d b 7 (mix a b d 8 (mix c d b 12 (mix a b d 16 v)))

/-- The columns of the block and then its diagonals. -/
def lanes : List (Fin 16 × Fin 16 × Fin 16 × Fin 16) :=
  [(0, 4, 8, 12), (1, 5, 9, 13), (2, 6, 10, 14), (3, 7, 11, 15),
   (0, 5, 10, 15), (1, 6, 11, 12), (2, 7, 8, 13), (3, 4, 9, 14)]

def doubleRound (v : Block) : Block := lanes.foldl quarterRound v

def scramble (v : Block) : Block :=
  let w := doubleRound (doubleRound (doubleRound (doubleRound v)))
  w.zipWith (· + ·) v

/-- One step of the sequence that spreads a seed over the words of a key. -/
def spread (state : UInt64) : UInt64 := state * 6364136223846793005 + 11634580027462260723

/-- The key word that a state of the sequence stands for. -/
def keyWord (state : UInt64) : UInt32 :=
  let x := (((state >>> 18) ^^^ state) >>> 27).toUInt32
  let n := (state >>> 59).toUInt32
  (x >>> n) ||| (x <<< ((32 - n) % 32))

/-- The first `n` key words after `state`. -/
def keyWords : Nat → UInt64 → List UInt32
  | 0, _ => []
  | n + 1, state =>
    let state := spread state
    keyWord state :: keyWords n state

def block (seed : UInt64) (counter : UInt64) : Block :=
  let k := fun i => (keyWords 8 seed).getD i 0
  scramble #v[0x61707865, 0x3320646e, 0x79622d32, 0x6b206574,
    k 0, k 1, k 2, k 3, k 4, k 5, k 6, k 7,
    counter.toUInt32, (counter >>> 32).toUInt32, 0, 0]

/-- Draw number `index` of a seed, out of `2 ^ 53`: the upper bits of two neighbouring words. -/
def draw (seed : UInt64) (index : Nat) : Nat :=
  let words := block seed (UInt64.ofNat (index / 8))
  let low := words.get ⟨2 * (index % 8), by omega⟩
  let high := words.get ⟨2 * (index % 8) + 1, by omega⟩
  (high.toNat * twoTo 32 + low.toNat) / twoTo 11

end Beamline.Random
