/-
The password hash Argon2, in its three variants and two versions.

A memory of blocks, laid out in lanes of four segments each, is filled pass by pass. Each new
block mixes the block before it in its lane with another one, which a number picks: the number
comes from the block before it, or, where the choice must not depend on the password, from a
counter. The last blocks of all lanes are combined and hashed to the wanted length.
-/
import WebLogin.Hash.Block
import WebLogin.Number.Limits

namespace WebLogin

namespace Argon2

/-- How the other block of a mix is picked. -/
inductive Variant where
  /-- By the memory itself. -/
  | d
  /-- By a counter. -/
  | i
  /-- By a counter in the first half of the first pass, then by the memory itself. -/
  | id
  deriving DecidableEq, Repr

namespace Variant

/-- The number of the variant. -/
def code : Variant → Nat
  | d => 0
  | i => 1
  | id => 2

end Variant

/-- The cost and kind of a hash. -/
structure Params where
  /-- How blocks are picked. -/
  variant : Variant
  /-- The version: 16, or 19, in which later passes keep what a block held before. -/
  version : Nat
  /-- The size of the memory in blocks of 1024 bytes. -/
  memory : Nat
  /-- How many times the memory is filled. -/
  passes : Nat
  /-- The number of lanes. -/
  lanes : Nat
  /-- Data that the hash depends on beside the password and the salt. -/
  data : List UInt8 := []

namespace Params

/-- The number of blocks in a segment of a lane. -/
def segmentLength (p : Params) : Nat := p.memory / (4 * p.lanes)

/-- The number of blocks in a lane. -/
def laneLength (p : Params) : Nat := 4 * p.segmentLength

/-- The number of blocks. -/
def blockCount (p : Params) : Nat := p.lanes * p.laneLength

end Params

/-- The bytes of a list with its length before them. -/
def withLength (bytes : List UInt8) : List UInt8 := littleEndian 4 bytes.length ++ bytes

/-- The hash that the memory grows from. -/
def seed (p : Params) (password salt : List UInt8) (size : Nat) : List UInt8 :=
  Blake2b.hash 64
    (littleEndian 4 p.lanes ++ littleEndian 4 size ++ littleEndian 4 p.memory ++
      littleEndian 4 p.passes ++ littleEndian 4 p.version ++ littleEndian 4 p.variant.code ++
      withLength password ++ withLength salt ++ withLength [] ++ withLength p.data)

/-- The links of a chain of hashes of 64 bytes: the first halves of so many of them, and then so
many bytes of one more. -/
def chain (last : Nat) : Nat → List UInt8 → List UInt8
  | 0, v => Blake2b.hash last v
  | n + 1, v =>
    v.take 32 ++ (if n = 0 then Blake2b.hash last v else chain last n (Blake2b.hash 64 v))

/-- A hash of any length. -/
def longHash (size : Nat) (bytes : List UInt8) : List UInt8 :=
  let input := littleEndian 4 size ++ bytes
  if size ≤ 64 then Blake2b.hash size input
  else
    let links := (size + 31) / 32 - 2
    chain (size - 32 * links) links (Blake2b.hash 64 input)

/-- A segment that is being filled. -/
structure Segment where
  /-- The pass. -/
  pass : Nat
  /-- The place of the segment in its lane. -/
  slice : Nat
  /-- The lane. -/
  lane : Nat

namespace Segment

/-- Whether the picks in the segment come from a counter. -/
def isIndependent (s : Segment) : Variant → Bool
  | .d => false
  | .i => true
  | .id => s.pass == 0 && s.slice < 2

/-- The numbers that pick blocks, 128 for each value of the counter. -/
def picks (s : Segment) (p : Params) (counter : Nat) : Array UInt64 :=
  let input := Block.ofList
    [s.pass.toUInt64, s.lane.toUInt64, s.slice.toUInt64, p.blockCount.toUInt64,
      p.passes.toUInt64, p.variant.code.toUInt64, counter.toUInt64]
  (Block.zero.compress (Block.zero.compress input)).toList.toArray

/-- The place in memory that a number picks for the block at an index of the segment. -/
def pickedPlace (s : Segment) (p : Params) (index : Nat) (number : UInt64) : Nat :=
  let low := number.toNat % limit32
  let high := number.toNat / limit32
  let lane := if s.pass = 0 && s.slice = 0 then s.lane else high % p.lanes
  let finished := if s.pass = 0 then s.slice * p.segmentLength
    else p.laneLength - p.segmentLength
  let area := if lane = s.lane then finished + index - 1
    else if index = 0 then finished - 1
    else finished
  let start := if s.pass = 0 then 0 else (s.slice + 1) % 4 * p.segmentLength
  let back := area * (low * low / limit32) / limit32
  lane * p.laneLength + (start + (area - 1 - back)) % p.laneLength

/-- Fills so many blocks of the segment from an index on. -/
def fill (s : Segment) (p : Params) : Nat → Nat → Array UInt64 → Array Block → Array Block
  | 0, _, _, memory => memory
  | n + 1, index, numbers, memory =>
    let independent := s.isIndependent p.variant
    let numbers := if independent && (index % 128 = 0 || numbers.isEmpty)
      then s.picks p (index / 128 + 1) else numbers
    let column := s.slice * p.segmentLength + index
    let before := s.lane * p.laneLength + (if column = 0 then p.laneLength else column) - 1
    let place := s.lane * p.laneLength + column
    let previous := memory.getD before .zero
    let number := if independent then numbers.getD (index % 128) 0 else previous.r0.w0
    let other := memory.getD (s.pickedPlace p index number) .zero
    let mixed := previous.compress other
    let block := if s.pass ≠ 0 && p.version ≠ 16 then mixed.xor (memory.getD place .zero)
      else mixed
    fill s p n (index + 1) numbers (memory.setIfInBounds place block)

/-- Fills the segment; the first two blocks of a lane are there before the first pass. -/
def fillAll (s : Segment) (p : Params) (memory : Array Block) : Array Block :=
  let first := if s.pass = 0 && s.slice = 0 then 2 else 0
  s.fill p (p.segmentLength - first) first #[] memory

end Segment

/-- The segments in the order in which they are filled. -/
def segments (p : Params) : List Segment :=
  (List.range p.passes).flatMap fun pass =>
    (List.range 4).flatMap fun slice =>
      (List.range p.lanes).map fun lane => ⟨pass, slice, lane⟩

/-- The memory with the first two blocks of each lane. -/
def firstBlocks (p : Params) (seed : List UInt8) : Array Block :=
  (List.range p.lanes).foldl
    (fun memory lane => (List.range 2).foldl
      (fun memory column => memory.setIfInBounds (lane * p.laneLength + column)
        (Block.ofList (wordsOfBytes
          (longHash 1024 (seed ++ littleEndian 4 column ++ littleEndian 4 lane)))))
      memory)
    (Array.replicate p.blockCount Block.zero)

/-- The hash of a password with a salt, of so many bytes. -/
def hash (p : Params) (password salt : List UInt8) (size : Nat) : List UInt8 :=
  let memory := (segments p).foldl (fun memory s => s.fillAll p memory)
    (firstBlocks p (seed p password salt size))
  let final := (List.range p.lanes).foldl
    (fun block lane => block.xor (memory.getD ((lane + 1) * p.laneLength - 1) .zero)) Block.zero
  longHash size (final.toList.flatMap bytesOfWord)

end Argon2

end WebLogin
