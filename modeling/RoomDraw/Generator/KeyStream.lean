import RoomDraw.Generator.Basic

/-!
# The ChaCha key stream

The generator behind every seeded draw: the key stream of the ChaCha cipher with eight rounds, in
its first layout, with a 64-bit block counter that starts at zero and no nonce. The words of the
blocks form one continuous sequence; a 64-bit word is two words of it, the low half first.
-/

namespace RoomDraw

namespace ChaCha

/-- A key: eight words. -/
abbrev Key := Vector UInt32 8

abbrev Block := Vector UInt32 16

def rotateLeft (x : UInt32) (n : UInt32) : UInt32 := (x <<< n) ||| (x >>> (32 - n))

/-- Mixes four words of a block. -/
def quarterRound (s : Block) (a b c d : Fin 16) : Block :=
  let s := s.set a (s[a] + s[b])
  let s := s.set d (rotateLeft (s[d] ^^^ s[a]) 16)
  let s := s.set c (s[c] + s[d])
  let s := s.set b (rotateLeft (s[b] ^^^ s[c]) 12)
  let s := s.set a (s[a] + s[b])
  let s := s.set d (rotateLeft (s[d] ^^^ s[a]) 8)
  let s := s.set c (s[c] + s[d])
  s.set b (rotateLeft (s[b] ^^^ s[c]) 7)

/-- A round over the columns and a round over the diagonals. -/
def doubleRound (s : Block) : Block :=
  let s := quarterRound s 0 4 8 12
  let s := quarterRound s 1 5 9 13
  let s := quarterRound s 2 6 10 14
  let s := quarterRound s 3 7 11 15
  let s := quarterRound s 0 5 10 15
  let s := quarterRound s 1 6 11 12
  let s := quarterRound s 2 7 8 13
  quarterRound s 3 4 9 14

/-- The block before mixing: the constant `expand 32-byte k`, the key, the counter and zeros. -/
def start (key : Key) (counter : UInt64) : Block :=
  #v[0x61707865, 0x3320646e, 0x79622d32, 0x6b206574,
     key[0], key[1], key[2], key[3], key[4], key[5], key[6], key[7],
     counter.toUInt32, (counter >>> 32).toUInt32, 0, 0]

/-- A block of the key stream: four double rounds, added to the block they began with. -/
def block (key : Key) (counter : UInt64) : Block :=
  let s := start key counter
  (doubleRound (doubleRound (doubleRound (doubleRound s)))).zipWith (· + ·) s

/-! ### Keys from seeds -/

/-- The next state of the sequence that spreads a seed over a key. -/
def spread (state : UInt64) : UInt64 := state * 6364136223846793005 + 11634580027462260723

/-- The key word of a state: a shifted mixture of its bits, rotated by its five highest. -/
def keyWord (state : UInt64) : UInt32 :=
  let x := (((state >>> 18) ^^^ state) >>> 27).toUInt32
  let r := (state >>> 59).toUInt32
  (x >>> r) ||| (x <<< ((32 - r) % 32))

/-- The key of a seed: eight words, one for each of the next eight states. -/
def keyOfSeed (seed : UInt64) : Key :=
  let s1 := spread seed
  let s2 := spread s1
  let s3 := spread s2
  let s4 := spread s3
  let s5 := spread s4
  let s6 := spread s5
  let s7 := spread s6
  let s8 := spread s7
  #v[keyWord s1, keyWord s2, keyWord s3, keyWord s4, keyWord s5, keyWord s6, keyWord s7, keyWord s8]

end ChaCha

/-- A place in a key stream: the block it is in, kept ready, and the next word of that block. -/
structure KeyStream where
  key : ChaCha.Key
  counter : UInt64
  words : ChaCha.Block
  place : Fin 16

namespace KeyStream

/-- The place at the first word of a block. -/
def atBlock (key : ChaCha.Key) (counter : UInt64) : KeyStream :=
  ⟨key, counter, ChaCha.block key counter, 0⟩

def ofSeed (seed : UInt64) : KeyStream := atBlock (ChaCha.keyOfSeed seed) 0

def next (s : KeyStream) : UInt32 × KeyStream :=
  (s.words[s.place],
    if s.place = 15 then atBlock s.key (s.counter + 1) else { s with place := s.place + 1 })

instance : Generator KeyStream where
  next32 := next
  next64 s :=
    let (low, s) := s.next
    let (high, s) := s.next
    ((high.toUInt64 <<< 32) ||| low.toUInt64, s)

end KeyStream

end RoomDraw
