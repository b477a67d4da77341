/-!
# BLAKE3

The hash of a byte string: chunks of 1024 bytes are compressed block by block, and the chaining
values of the chunks are joined pairwise in a binary tree whose left subtrees are complete. The
digest is the first half of the output of the tree's root.
-/

namespace Rekindle.Checksum

abbrev Digest := Vector UInt8 32

namespace Blake3

/-- Eight words, the value that links one compression to the next. -/
abbrev Chain := Vector UInt32 8

/-- Sixteen words, the content of a block and the state of a compression. -/
abbrev Block := Vector UInt32 16

def initialChain : Chain :=
  #v[0x6a09e667, 0xbb67ae85, 0x3c6ef372, 0xa54ff53a, 0x510e527f, 0x9b05688c, 0x1f83d9ab, 0x5be0cd19]

def chunkStart : UInt32 := 1

def chunkEnd : UInt32 := 2

def parent : UInt32 := 4

def root : UInt32 := 8

def rotate (word amount : UInt32) : UInt32 :=
  (word >>> amount) ||| (word <<< (32 - amount))

/-- Mixes two message words into one column or diagonal of the state. -/
def mix (state : Block) (a b c d : Fin 16) (x y : UInt32) : Block :=
  let va := state[a] + state[b] + x
  let vd := rotate (state[d] ^^^ va) 16
  let vc := state[c] + vd
  let vb := rotate (state[b] ^^^ vc) 12
  let va := va + vb + y
  let vd := rotate (vd ^^^ va) 8
  let vc := vc + vd
  let vb := rotate (vb ^^^ vc) 7
  (((state.set a va).set b vb).set c vc).set d vd

def round (state message : Block) : Block :=
  let state := mix state 0 4 8 12 message[0] message[1]
  let state := mix state 1 5 9 13 message[2] message[3]
  let state := mix state 2 6 10 14 message[4] message[5]
  let state := mix state 3 7 11 15 message[6] message[7]
  let state := mix state 0 5 10 15 message[8] message[9]
  let state := mix state 1 6 11 12 message[10] message[11]
  let state := mix state 2 7 8 13 message[12] message[13]
  mix state 3 4 9 14 message[14] message[15]

/-- The order in which the next round reads the words of the message. -/
def permute (message : Block) : Block :=
  #v[message[2], message[6], message[3], message[10], message[7], message[0], message[4],
    message[13], message[1], message[11], message[12], message[5], message[9], message[14],
    message[15], message[8]]

def rounds : Nat → Block → Block → Block
  | 0, state, _ => state
  | count + 1, state, message => rounds count (round state message) (permute message)

def compress (chain : Chain) (message : Block) (counter : UInt64) (length flags : UInt32) :
    Chain :=
  let state : Block :=
    #v[chain[0], chain[1], chain[2], chain[3], chain[4], chain[5], chain[6], chain[7],
      0x6a09e667, 0xbb67ae85, 0x3c6ef372, 0xa54ff53a, counter.toUInt32,
      (counter >>> 32).toUInt32, length, flags]
  let final := rounds 7 state message
  Vector.ofFn fun (i : Fin 8) =>
    final.get (i.castLE (by decide)) ^^^ final.get (i.natAdd 8)

/-- The word of four bytes, least significant first; absent bytes are zero. -/
def word (bytes : Array UInt8) (start : Nat) : UInt32 :=
  let byte (i : Nat) : UInt32 := (bytes.getD (start + i) 0).toUInt32
  byte 0 ||| (byte 1 <<< 8) ||| (byte 2 <<< 16) ||| (byte 3 <<< 24)

/-- The block that starts at a position, filled up with zeros. -/
def blockAt (bytes : Array UInt8) (start : Nat) : Block :=
  Vector.ofFn fun (i : Fin 16) => word bytes (start + 4 * i.val)

/-- A compression that has everything but the flag of the root. -/
structure Pending where
  chain : Chain
  message : Block
  counter : UInt64
  length : UInt32
  flags : UInt32

def Pending.value (pending : Pending) : Chain :=
  compress pending.chain pending.message pending.counter pending.length pending.flags

def Pending.rootValue (pending : Pending) : Chain :=
  compress pending.chain pending.message pending.counter pending.length (pending.flags ||| root)

/-- Compresses the blocks of a chunk but the last, which stays pending. -/
def chunkBlocks (chunk : Array UInt8) (counter : UInt64) :
    (more : Nat) → (start : Nat) → (flags : UInt32) → Chain → Pending
  | 0, start, flags, chain =>
    ⟨chain, blockAt chunk start, counter, UInt32.ofNat (chunk.size - start), flags ||| chunkEnd⟩
  | more + 1, start, flags, chain =>
    chunkBlocks chunk counter more (start + 64) 0
      (compress chain (blockAt chunk start) counter 64 flags)

def chunkOutput (chunk : Array UInt8) (counter : UInt64) : Pending :=
  chunkBlocks chunk counter ((chunk.size - 1) / 64) 0 chunkStart initialChain

def joined (left right : Chain) : Pending where
  chain := initialChain
  message := (left ++ right).cast (by decide)
  counter := 0
  length := 64
  flags := parent

/-- The number of chunks of the left subtree: the greatest power of two below the whole. -/
def leftSize (count : Nat) : Nat := Nat.pow 2 (count - 1).log2

theorem leftSize_pos (count : Nat) : 0 < leftSize count :=
  Nat.two_pow_pos _

theorem leftSize_lt {count : Nat} (many : 2 ≤ count) : leftSize count < count := by
  have below : leftSize count ≤ count - 1 := Nat.log2_self_le (by omega)
  omega

def subtree (bytes : Array UInt8) (first count : Nat) : Pending :=
  if many : 2 ≤ count then
    joined (subtree bytes first (leftSize count)).value
      (subtree bytes (first + leftSize count) (count - leftSize count)).value
  else
    chunkOutput (bytes.extract (1024 * first) (1024 * (first + 1))) (UInt64.ofNat first)
termination_by count
decreasing_by
  · exact leftSize_lt many
  · exact Nat.sub_lt (by omega) (leftSize_pos count)

/-- The four bytes of a word, least significant first. -/
def wordByte (chain : Chain) (i : Fin 32) : UInt8 :=
  have inside : i.val / 4 < 8 := by omega
  (chain[i.val / 4] >>> UInt32.ofNat (8 * (i.val % 4))).toUInt8

def digest (bytes : List UInt8) : Digest :=
  let content := bytes.toArray
  let chain := (subtree content 0 (max 1 ((content.size + 1023) / 1024))).rootValue
  Vector.ofFn (wordByte chain)

end Blake3

end Rekindle.Checksum
