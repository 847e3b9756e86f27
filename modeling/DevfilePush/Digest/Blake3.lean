import DevfilePush.Text.Integer
import DevfilePush.Text.Utf8

/-!
The BLAKE3 digest, unkeyed, of a sequence of bytes.

The input is cut into chunks of 1024 bytes and each chunk into blocks of 64; the
chunks are the leaves of a binary tree whose left subtrees are complete. A node of
the tree is kept as the last compression still to be run (`Node`), because the
root runs it with a flag of its own.
-/

namespace DevfilePush.Digest.Blake3

/-- Eight words that one compression hands to the next. -/
abbrev Chaining := Vector UInt32 8

/-- Sixteen words: a message block or the working state of a compression. -/
abbrev Block := Vector UInt32 16

def initial : Chaining :=
  #v[0x6A09E667, 0xBB67AE85, 0x3C6EF372, 0xA54FF53A, 0x510E527F, 0x9B05688C, 0x1F83D9AB,
    0x5BE0CD19]

/-- Where each message word comes from in the next round. -/
def schedule : Vector (Fin 16) 16 :=
  #v[2, 6, 3, 10, 7, 0, 4, 13, 1, 11, 12, 5, 9, 14, 15, 8]

def chunkStart : UInt32 := 1
def chunkEnd : UInt32 := 2
def parent : UInt32 := 4
def root : UInt32 := 8

/-- `w` rotated right by `n` bits, for `0 < n < 32`. -/
def rotateRight (w n : UInt32) : UInt32 :=
  (w >>> n) ||| (w <<< (32 - n))

/-- Mixes two message words into four words of the state. -/
def quarter (s : Block) (a b c d : Fin 16) (x y : UInt32) : Block :=
  let va := s[a] + s[b] + x
  let vd := rotateRight (s[d] ^^^ va) 16
  let vc := s[c] + vd
  let vb := rotateRight (s[b] ^^^ vc) 12
  let va := va + vb + y
  let vd := rotateRight (vd ^^^ va) 8
  let vc := vc + vd
  let vb := rotateRight (vb ^^^ vc) 7
  (((s.set a va).set b vb).set c vc).set d vd

/-- One round: the four columns, then the four diagonals. -/
def round (s m : Block) : Block :=
  let s := quarter s 0 4 8 12 m[0] m[1]
  let s := quarter s 1 5 9 13 m[2] m[3]
  let s := quarter s 2 6 10 14 m[4] m[5]
  let s := quarter s 3 7 11 15 m[6] m[7]
  let s := quarter s 0 5 10 15 m[8] m[9]
  let s := quarter s 1 6 11 12 m[10] m[11]
  let s := quarter s 2 7 8 13 m[12] m[13]
  quarter s 3 4 9 14 m[14] m[15]

/-- The given number of rounds, with the message words permuted between them. -/
def rounds : Nat → Block → Block → Block
  | 0, s, _ => s
  | n + 1, s, m => rounds n (round s m) (schedule.map fun i => m[i])

/-- A compression that has yet to be run. -/
structure Node where
  chaining : Chaining
  block : Block
  counter : Nat
  length : Nat
  flags : UInt32

/-- The first eight words that the compression gives. -/
def Node.value (node : Node) (extra : UInt32) : Chaining :=
  let h := node.chaining
  let s : Block :=
    #v[h[0], h[1], h[2], h[3], h[4], h[5], h[6], h[7],
      initial[0], initial[1], initial[2], initial[3],
      UInt32.ofNat node.counter, UInt32.ofNat (node.counter / 4294967296),
      UInt32.ofNat node.length, node.flags ||| extra]
  let s := rounds 7 s node.block
  #v[s[0] ^^^ s[8], s[1] ^^^ s[9], s[2] ^^^ s[10], s[3] ^^^ s[11],
    s[4] ^^^ s[12], s[5] ^^^ s[13], s[6] ^^^ s[14], s[7] ^^^ s[15]]

/-- The word made of the bytes of `block` from `i` on, lowest first; bytes past
the end are zero. -/
def wordAt (block : List UInt8) (i : Nat) : UInt32 :=
  let byte (k : Nat) : UInt32 := (block.getD (i + k) 0).toUInt32
  byte 0 ||| (byte 1 <<< 8) ||| (byte 2 <<< 16) ||| (byte 3 <<< 24)

/-- A message block from at most 64 bytes. -/
def blockOf (bytes : List UInt8) : Block :=
  Vector.ofFn fun i => wordAt bytes (4 * i.val)

/-- The last compression of a chunk, after the blocks that led to `chaining`. -/
def chunkFrom (counter : Nat) (chaining : Chaining) (start : UInt32) (bytes : List UInt8) : Node :=
  if bytes.length ≤ 64 then
    ⟨chaining, blockOf bytes, counter, bytes.length, start ||| chunkEnd⟩
  else
    let node : Node := ⟨chaining, blockOf (bytes.take 64), counter, 64, start⟩
    chunkFrom counter (node.value 0) 0 (bytes.drop 64)
  termination_by bytes.length
  decreasing_by simp only [List.length_drop]; omega

/-- The node of the chunk with the given number. -/
def chunk (counter : Nat) (bytes : List UInt8) : Node :=
  chunkFrom counter initial chunkStart bytes

/-- The node above two subtrees. -/
def join (left right : Node) : Node :=
  let l := left.value 0
  let r := right.value 0
  ⟨initial, l ++ r, 0, 64, parent⟩

/-- The number of chunks in the left subtree over `n > 1` chunks: the largest
power of two below `n`. -/
def leftChunks (n : Nat) : Nat :=
  Nat.pow 2 (n - 1).log2

theorem leftChunks_pos (n : Nat) : 0 < leftChunks n :=
  Nat.two_pow_pos _

theorem leftChunks_lt {n : Nat} (many : 1 < n) : leftChunks n < n := by
  have := Nat.log2_self_le (n := n - 1) (by omega)
  rw [leftChunks, Nat.pow_eq]
  omega

/-- The top node over the bytes of `n` chunks, the first of which has the given
number. -/
def subtree (first n : Nat) (bytes : List UInt8) : Node :=
  if many : 1 < n then
    let k := leftChunks n
    join (subtree first k (bytes.take (1024 * k)))
      (subtree (first + k) (n - k) (bytes.drop (1024 * k)))
  else chunk first bytes
  termination_by n
  decreasing_by
    · exact leftChunks_lt many
    · have := leftChunks_pos n
      omega

/-- The first 32 bytes of the digest, as words. -/
def digest (bytes : List UInt8) : Chaining :=
  (subtree 0 ((bytes.length + 1023) / 1024) bytes).value root

/-- The bytes of a word, lowest first. -/
def bytesOf (w : UInt32) : List UInt8 :=
  [w.toUInt8, (w >>> 8).toUInt8, (w >>> 16).toUInt8, (w >>> 24).toUInt8]

/-- The digest in hexadecimal. -/
def hexDigest (bytes : List UInt8) : List Char :=
  ((digest bytes).toList.flatMap bytesOf).flatMap Text.Integer.hexByte

end DevfilePush.Digest.Blake3
