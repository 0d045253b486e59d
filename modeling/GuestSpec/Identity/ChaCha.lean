/-!
# ChaCha

The stream of words of the ChaCha cipher with twelve rounds and a counter of 64 bits, and the key
that a seed of 64 bits is spread to.
-/

namespace GuestSpec.ChaCha

/-- Sixteen words. -/
abbrev Block := Vector UInt32 16

def rotateLeft (x : UInt32) (n : UInt32) : UInt32 := x <<< n ||| x >>> (32 - n)

/-- Adds one word to another and mixes the sum into a third. -/
def mix (x y z : Fin 16) (n : UInt32) (s : Block) : Block :=
  let s := s.set x (s[x] + s[y])
  s.set z (rotateLeft (s[z] ^^^ s[x]) n)

/-- The quarter of a round, on four words. -/
def quarterRound (s : Block) : Fin 16 × Fin 16 × Fin 16 × Fin 16 → Block
  | (a, b, c, d) => mix c d b 7 (mix a b d 8 (mix c d b 12 (mix a b d 16 s)))

/-- The words of the quarters of two rounds: first the columns, then the diagonals. -/
def quarters : List (Fin 16 × Fin 16 × Fin 16 × Fin 16) :=
  [(0, 4, 8, 12), (1, 5, 9, 13), (2, 6, 10, 14), (3, 7, 11, 15),
   (0, 5, 10, 15), (1, 6, 11, 12), (2, 7, 8, 13), (3, 4, 9, 14)]

def doubleRound (s : Block) : Block := quarters.foldl quarterRound s

def rounds : Nat → Block → Block
  | 0, s => s
  | n + 1, s => rounds n (doubleRound s)

abbrev Key := Vector UInt32 8

/-- The words that a block starts from. -/
def initial (key : Key) (counter : UInt64) : Block :=
  #v[0x61707865, 0x3320646e, 0x79622d32, 0x6b206574,
    key[0], key[1], key[2], key[3], key[4], key[5], key[6], key[7],
    counter.toUInt32, (counter >>> 32).toUInt32, 0, 0]

def block (key : Key) (counter : UInt64) : Block :=
  let s := initial key counter
  Vector.zipWith (· + ·) (rounds 6 s) s

def word (key : Key) (position : Nat) : UInt32 :=
  (block key (UInt64.ofNat (position / 16)))[Fin.ofNat 16 position]

/-- The next state of the generator that spreads a seed. -/
def step (state : UInt64) : UInt64 := state * 6364136223846793005 + 11634580027462260723

def output (state : UInt64) : UInt32 :=
  let x := (((state >>> 18) ^^^ state) >>> 27).toUInt32
  let n := (state >>> 59).toUInt32
  x >>> n ||| x <<< ((32 - n) % 32)

def states : Nat → UInt64 → List UInt64
  | 0, _ => []
  | n + 1, state => step state :: states n (step state)

def keyOfSeed (seed : UInt64) : Key := Vector.ofFn fun i => output ((states 8 seed)[i]?.getD 0)

end GuestSpec.ChaCha
