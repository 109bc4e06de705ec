/-! The BLAKE3 hash of a byte sequence. The bytes are cut into chunks of 1024, each chunk into
blocks of 64, and the blocks of a chunk are compressed one after another; the chaining values of the
chunks are then compressed in pairs along a binary tree whose left branches are complete. -/

namespace WireCodecs.Blake3

abbrev ChainingValue := Vector UInt32 8

abbrev Block := Vector UInt32 16

def initialValue : ChainingValue :=
  #v[0x6A09E667, 0xBB67AE85, 0x3C6EF372, 0xA54FF53A, 0x510E527F, 0x9B05688C, 0x1F83D9AB, 0x5BE0CD19]

section Compression

/-- The order in which a round takes the words that the round before took in order. -/
def wordOrder : Vector (Fin 16) 16 := #v[2, 6, 3, 10, 7, 0, 4, 13, 1, 11, 12, 5, 9, 14, 15, 8]

def permute (block : Block) : Block := wordOrder.map fun index => block[index]

/-- Rotates to the right by `count` bits, with `count` between 1 and 31. -/
def rotate (word count : UInt32) : UInt32 := (word >>> count) ||| (word <<< (32 - count))

/-- Mixes four words of the state with two words of the block. -/
def mix (state : Block) (a b c d : Fin 16) (x y : UInt32) : Block :=
  let a₁ := state[a] + state[b] + x
  let d₁ := rotate (state[d] ^^^ a₁) 16
  let c₁ := state[c] + d₁
  let b₁ := rotate (state[b] ^^^ c₁) 12
  let a₂ := a₁ + b₁ + y
  let d₂ := rotate (d₁ ^^^ a₂) 8
  let c₂ := c₁ + d₂
  let b₂ := rotate (b₁ ^^^ c₂) 7
  (((state.set a a₂).set b b₂).set c c₂).set d d₂

/-- Mixes the columns of the state, then its diagonals. -/
def mixRound (state block : Block) : Block :=
  let state := mix state 0 4 8 12 block[0] block[1]
  let state := mix state 1 5 9 13 block[2] block[3]
  let state := mix state 2 6 10 14 block[4] block[5]
  let state := mix state 3 7 11 15 block[6] block[7]
  let state := mix state 0 5 10 15 block[8] block[9]
  let state := mix state 1 6 11 12 block[10] block[11]
  let state := mix state 2 7 8 13 block[12] block[13]
  mix state 3 4 9 14 block[14] block[15]

def mixRounds : Nat → Block → Block → Block
  | 0, state, _ => state
  | count + 1, state, block => mixRounds count (mixRound state block) (permute block)

/-- What a block is: the flag values of the compression add up. -/
structure Flags where
  chunkStart : Bool
  chunkEnd : Bool
  parent : Bool
  root : Bool

def Flags.word (flags : Flags) : UInt32 :=
  (if flags.chunkStart then 1 else 0) + (if flags.chunkEnd then 2 else 0) +
    (if flags.parent then 4 else 0) + (if flags.root then 8 else 0)

def compress (value : ChainingValue) (block : Block) (counter length : Nat) (flags : Flags) :
    ChainingValue :=
  let state : Block :=
    #v[value[0], value[1], value[2], value[3], value[4], value[5], value[6], value[7],
      initialValue[0], initialValue[1], initialValue[2], initialValue[3],
      UInt32.ofNat counter, UInt32.ofNat (counter / Nat.pow 2 32), UInt32.ofNat length, flags.word]
  let mixed := mixRounds 7 state block
  Vector.ofFn fun index : Fin 8 => mixed[index.val] ^^^ mixed[index.val + 8]

end Compression

section Chunks

def blockSize : Nat := 64

def chunkSize : Nat := 1024

/-- The byte at a position; zeros fill up the last block. -/
def byteAt (bytes : ByteArray) (stop position : Nat) : UInt32 :=
  if position < stop then (bytes[position]?.getD 0).toUInt32 else 0

/-- The words of the block at `start` of the bytes before `stop`, least significant byte first. -/
def blockAt (bytes : ByteArray) (start stop : Nat) : Block :=
  Vector.ofFn fun index : Fin 16 =>
    let position := start + 4 * index.val
    byteAt bytes stop position + (byteAt bytes stop (position + 1) <<< 8) +
      (byteAt bytes stop (position + 2) <<< 16) + (byteAt bytes stop (position + 3) <<< 24)

/-- Compresses `count` blocks from `start` on, and a last one after them. -/
def compressBlocks (bytes : ByteArray) (chunk stop : Nat) (root : Bool) :
    (count : Nat) → (start : Nat) → (isFirst : Bool) → ChainingValue → ChainingValue
  | 0, start, isFirst, value =>
    compress value (blockAt bytes start stop) chunk (stop - start) ⟨isFirst, true, false, root⟩
  | count + 1, start, isFirst, value =>
    compressBlocks bytes chunk stop root count (start + blockSize) false
      (compress value (blockAt bytes start stop) chunk blockSize ⟨isFirst, false, false, false⟩)

/-- The chaining value of the chunk with the given number. -/
def chunkValue (bytes : ByteArray) (root : Bool) (chunk : Nat) : ChainingValue :=
  let start := chunk * chunkSize
  let stop := min bytes.size (start + chunkSize)
  compressBlocks bytes chunk stop root ((stop - start - 1) / blockSize) start true initialValue

end Chunks

section Tree

def parentValue (left right : ChainingValue) (root : Bool) : ChainingValue :=
  compress initialValue (left ++ right) 0 blockSize ⟨false, false, true, root⟩

/-- The number of chunks in the left branch over `count` chunks: the largest power of two below. -/
def leftCount (count : Nat) : Nat := Nat.pow 2 (Nat.log2 (count - 1))

theorem leftCount_lt {count : Nat} (h : 1 < count) : leftCount count < count := by
  have hle : Nat.pow 2 (Nat.log2 (count - 1)) ≤ count - 1 := Nat.log2_self_le (by omega)
  unfold leftCount
  omega

theorem leftCount_pos (count : Nat) : 0 < leftCount count := Nat.two_pow_pos _

theorem sub_leftCount_lt {count : Nat} (h : 1 < count) : count - leftCount count < count :=
  Nat.sub_lt (Nat.lt_trans Nat.zero_lt_one h) (leftCount_pos count)

/-- The chaining value over `count` chunks from the chunk `first` on. -/
def treeValue (bytes : ByteArray) (root : Bool) (first count : Nat) : ChainingValue :=
  if _ : 1 < count then
    parentValue (treeValue bytes false first (leftCount count))
      (treeValue bytes false (first + leftCount count) (count - leftCount count)) root
  else chunkValue bytes root first
  termination_by count
  decreasing_by
    · exact leftCount_lt ‹_›
    · exact sub_leftCount_lt ‹_›

end Tree

/-- The first 32 bytes of the hash, as eight words. -/
def hash (bytes : ByteArray) : ChainingValue :=
  treeValue bytes true 0 (max 1 ((bytes.size + chunkSize - 1) / chunkSize))

section Hexadecimal

def hexDigit (value : Nat) : Char := Nat.digitChar (value % 16)

def hexByte (byte : Nat) : List Char := [hexDigit (byte / 16), hexDigit byte]

/-- The four bytes of a word, least significant first. -/
def hexWord (word : UInt32) : List Char :=
  hexByte word.toNat ++ hexByte (word.toNat / Nat.pow 2 8) ++ hexByte (word.toNat / Nat.pow 2 16) ++
    hexByte (word.toNat / Nat.pow 2 24)

def hexChars (value : ChainingValue) : List Char := value.toList.flatMap hexWord

end Hexadecimal

end WireCodecs.Blake3
