import EmbeddingIndex.Text.Bytes
/-!
The BLAKE3 hash with its default output of 32 bytes.
-/

namespace EmbeddingIndex.Blake3

abbrev Words := Array UInt32

def start : Words :=
  #[0x6a09e667, 0xbb67ae85, 0x3c6ef372, 0xa54ff53a, 0x510e527f, 0x9b05688c, 0x1f83d9ab, 0x5be0cd19]

def schedule : List Nat := [2, 6, 3, 10, 7, 0, 4, 13, 1, 11, 12, 5, 9, 14, 15, 8]

def chunkStart : UInt32 := 1
def chunkEnd : UInt32 := 2
def parent : UInt32 := 4
def root : UInt32 := 8

def rotate (x : UInt32) (n : UInt32) : UInt32 := (x >>> n) ||| (x <<< (32 - n))

def word (w : Words) (i : Nat) : UInt32 := w.getD i 0

def stir (s : Words) (a b c d : Nat) (x y : UInt32) : Words :=
  let va := word s a + word s b + x
  let vd := rotate (word s d ^^^ va) 16
  let vc := word s c + vd
  let vb := rotate (word s b ^^^ vc) 12
  let va := va + vb + y
  let vd := rotate (vd ^^^ va) 8
  let vc := vc + vd
  let vb := rotate (vb ^^^ vc) 7
  (((s.setIfInBounds a va).setIfInBounds b vb).setIfInBounds c vc).setIfInBounds d vd

def round (s m : Words) : Words :=
  let s := stir s 0 4 8 12 (word m 0) (word m 1)
  let s := stir s 1 5 9 13 (word m 2) (word m 3)
  let s := stir s 2 6 10 14 (word m 4) (word m 5)
  let s := stir s 3 7 11 15 (word m 6) (word m 7)
  let s := stir s 0 5 10 15 (word m 8) (word m 9)
  let s := stir s 1 6 11 12 (word m 10) (word m 11)
  let s := stir s 2 7 8 13 (word m 12) (word m 13)
  stir s 3 4 9 14 (word m 14) (word m 15)

def permute (m : Words) : Words := (schedule.map (word m)).toArray

def rounds : Nat → Words → Words → Words
  | 0, s, _ => s
  | n + 1, s, m => rounds n (round s m) (permute m)

structure Block where
  chain : Words
  message : Words
  counter : UInt64
  size : UInt32
  flags : UInt32

def Block.compress (b : Block) (extra : UInt32) : Words :=
  let state := b.chain ++ start.extract 0 4 ++
    #[b.counter.toUInt32, (b.counter >>> 32).toUInt32, b.size, b.flags ||| extra]
  let s := rounds 7 state b.message
  ((List.range 8).map fun i => word s i ^^^ word s (i + 8)).toArray

def wordsOf : Bytes → List UInt32
  | a :: b :: c :: d :: rest =>
    (a.toUInt32 ||| (b.toUInt32 <<< 8) ||| (c.toUInt32 <<< 16) ||| (d.toUInt32 <<< 24)) ::
      wordsOf rest
  | _ => []

def messageOf (bytes : Bytes) : Words :=
  (wordsOf (bytes ++ List.replicate (64 - bytes.length) 0)).toArray

def chunkBlock (counter : UInt64) : Nat → Words → UInt32 → Bytes → Block
  | 0, chain, flags, bytes =>
    ⟨chain, messageOf bytes, counter, UInt32.ofNat bytes.length, flags ||| chunkEnd⟩
  | fuel + 1, chain, flags, bytes =>
    if bytes.length ≤ 64 then
      ⟨chain, messageOf bytes, counter, UInt32.ofNat bytes.length, flags ||| chunkEnd⟩
    else
      let block : Block := ⟨chain, messageOf (bytes.take 64), counter, 64, flags⟩
      chunkBlock counter fuel (block.compress 0) 0 (bytes.drop 64)

def chunks : Nat → Nat → Bytes → List Block
  | 0, _, _ => []
  | fuel + 1, counter, bytes =>
    let block := chunkBlock (UInt64.ofNat counter) 16 start chunkStart (bytes.take 1024)
    if bytes.length ≤ 1024 then [block]
    else block :: chunks fuel (counter + 1) (bytes.drop 1024)

def join (left right : Block) : Block :=
  ⟨start, left.compress 0 ++ right.compress 0, 0, 64, parent⟩

def joinPairs : List Block → List Block
  | left :: right :: rest => join left right :: joinPairs rest
  | rest => rest

def top : Nat → List Block → Option Block
  | _, [] => none
  | _, [block] => some block
  | 0, _ => none
  | fuel + 1, blocks => top fuel (joinPairs blocks)

def bytesOf (w : UInt32) : Bytes :=
  [w.toUInt8, (w >>> 8).toUInt8, (w >>> 16).toUInt8, (w >>> 24).toUInt8]

def hash (bytes : Bytes) : Bytes :=
  let blocks := chunks (bytes.length + 1) 0 bytes
  let block := (top bytes.length blocks).getD ⟨start, #[], 0, 0, 0⟩
  (block.compress root).toList.flatMap bytesOf

theorem size_compress (block : Block) (extra : UInt32) : (block.compress extra).size = 8 := by
  simp [Block.compress]

theorem length_flatMap_bytesOf (words : List UInt32) :
    (words.flatMap bytesOf).length = 4 * words.length := by
  induction words with
  | nil => rfl
  | cons w words ih => simp only [List.flatMap_cons, List.length_append, ih]; simp [bytesOf]; omega

theorem length_hash (bytes : Bytes) : (hash bytes).length = 32 := by
  simp only [hash, length_flatMap_bytesOf, Array.length_toList, size_compress]

end EmbeddingIndex.Blake3

namespace EmbeddingIndex

/-- A function from byte strings to fingerprints of 32 bytes. -/
structure Digest where
  run : Bytes → Bytes
  length_run : ∀ bytes, (run bytes).length = 32

def Digest.blake3 : Digest := ⟨Blake3.hash, Blake3.length_hash⟩

end EmbeddingIndex
