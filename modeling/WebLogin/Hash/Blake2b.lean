/-
The hash function BLAKE2b without a key, for hashes of 1 to 64 bytes.

The message is cut into blocks of 128 bytes, of which the last one is filled up with zeros; each
block is mixed into a state of eight words in twelve rounds.
-/
import WebLogin.Number.Limits

namespace WebLogin

/-- The bytes of a number, the least significant first. -/
def littleEndian : Nat → Nat → List UInt8
  | 0, _ => []
  | count + 1, n => (n % 256).toUInt8 :: littleEndian count (n / 256)

/-- The word of up to eight bytes, the least significant first. -/
def wordOfBytes (bytes : List UInt8) : UInt64 :=
  bytes.foldr (fun b w => (w <<< 8) ||| b.toUInt64) 0

/-- The bytes of a word, the least significant first. -/
def bytesOfWord (w : UInt64) : List UInt8 := littleEndian 8 w.toNat

/-- The words of a list of bytes. -/
def wordsOfBytes : List UInt8 → List UInt64
  | a :: b :: c :: d :: e :: f :: g :: h :: rest =>
    wordOfBytes [a, b, c, d, e, f, g, h] :: wordsOfBytes rest
  | _ => []

/-- Rotation of a word to the right. -/
@[inline] def rotateRight (x : UInt64) (n : UInt64) : UInt64 := (x >>> n) ||| (x <<< (64 - n))

namespace Blake2b

/-- The words that the state starts from. -/
def initial : List UInt64 :=
  [0x6a09e667f3bcc908, 0xbb67ae8584caa73b, 0x3c6ef372fe94f82b, 0xa54ff53a5f1d36f1,
    0x510e527fade682d1, 0x9b05688c2b3e6c1f, 0x1f83d9abfb41bd6b, 0x5be0cd19137e2179]

/-- The order in which each round takes the words of a block. -/
def orders : List (List Nat) :=
  [[0, 1, 2, 3, 4, 5, 6, 7, 8, 9, 10, 11, 12, 13, 14, 15],
    [14, 10, 4, 8, 9, 15, 13, 6, 1, 12, 0, 2, 11, 7, 5, 3],
    [11, 8, 12, 0, 5, 2, 15, 13, 10, 14, 3, 6, 7, 1, 9, 4],
    [7, 9, 3, 1, 13, 12, 11, 14, 2, 6, 5, 10, 4, 0, 15, 8],
    [9, 0, 5, 7, 2, 4, 10, 15, 14, 1, 11, 12, 6, 8, 3, 13],
    [2, 12, 6, 10, 0, 11, 8, 3, 4, 13, 7, 5, 15, 14, 1, 9],
    [12, 5, 1, 15, 14, 13, 4, 10, 0, 7, 6, 3, 9, 2, 8, 11],
    [13, 11, 7, 14, 12, 1, 3, 9, 5, 0, 15, 4, 8, 6, 2, 10],
    [6, 15, 14, 9, 11, 3, 0, 8, 12, 2, 13, 7, 1, 4, 10, 5],
    [10, 2, 8, 4, 7, 6, 1, 5, 15, 11, 9, 14, 3, 12, 13, 0],
    [0, 1, 2, 3, 4, 5, 6, 7, 8, 9, 10, 11, 12, 13, 14, 15],
    [14, 10, 4, 8, 9, 15, 13, 6, 1, 12, 0, 2, 11, 7, 5, 3]]

/-- The places of the words that the eight steps of a round mix: columns, then diagonals. -/
def places : List (Nat × Nat × Nat × Nat) :=
  [(0, 4, 8, 12), (1, 5, 9, 13), (2, 6, 10, 14), (3, 7, 11, 15),
    (0, 5, 10, 15), (1, 6, 11, 12), (2, 7, 8, 13), (3, 4, 9, 14)]

/-- Mixes two words of the block into four words of the state. -/
def mix (v : Array UInt64) (place : Nat × Nat × Nat × Nat) (x y : UInt64) : Array UInt64 :=
  let (i, j, k, l) := place
  let a := v.getD i 0 + v.getD j 0 + x
  let d := rotateRight (v.getD l 0 ^^^ a) 32
  let c := v.getD k 0 + d
  let b := rotateRight (v.getD j 0 ^^^ c) 24
  let a := a + b + y
  let d := rotateRight (d ^^^ a) 16
  let c := c + d
  let b := rotateRight (b ^^^ c) 63
  (((v.setIfInBounds i a).setIfInBounds j b).setIfInBounds k c).setIfInBounds l d

/-- The steps of a round over the places, with the words of the block in the given order. -/
def steps (m : Array UInt64) :
    List (Nat × Nat × Nat × Nat) → List Nat → Array UInt64 → Array UInt64
  | place :: rest, x :: y :: order, v =>
    steps m rest order (mix v place (m.getD x 0) (m.getD y 0))
  | _, _, v => v

/-- Mixes a block into the state, with the count of bytes up to its end. -/
def compress (h : List UInt64) (block : List UInt8) (count : Nat) (last : Bool) : List UInt64 :=
  let m := (wordsOfBytes block).toArray
  let v := (h ++ initial).toArray
  let v := v.modify 12 (· ^^^ count.toUInt64)
  let v := v.modify 13 (· ^^^ (count / limit64).toUInt64)
  let v := if last then v.modify 14 (~~~ ·) else v
  let v := orders.foldl (fun v order => steps m places order v) v
  (h.zip (List.range 8)).map fun (w, i) => w ^^^ v.getD i 0 ^^^ v.getD (i + 8) 0

/-- Mixes the blocks of a message into the state: so many whole ones, and what is left as the last
one. `count` is the number of bytes before them. -/
def absorb : Nat → List UInt64 → Nat → List UInt8 → List UInt64
  | 0, h, count, rest =>
    compress h (rest ++ List.replicate (128 - rest.length) 0) (count + rest.length) true
  | n + 1, h, count, message =>
    absorb n (compress h (message.take 128) (count + 128) false) (count + 128) (message.drop 128)

/-- The state before the first block, for a hash of so many bytes. -/
def start (size : Nat) : List UInt64 :=
  match initial with
  | [] => []
  | w :: rest => (w ^^^ 0x01010000 ^^^ size.toUInt64) :: rest

/-- The hash of a message, so many bytes of it. -/
def hash (size : Nat) (message : List UInt8) : List UInt8 :=
  ((absorb ((message.length - 1) / 128) (start size) 0 message).flatMap bytesOfWord).take size

end Blake2b

end WebLogin
