/-
The blocks of memory that the password hash Argon2 works on, and how two of them are mixed.

A block is eight rows of sixteen words, each row a structure of words, so that a round works on
words and not on references to them.
-/
import WebLogin.Hash.Blake2b

namespace WebLogin

namespace Argon2

/-- Sixteen words. -/
structure Row where
  /-- The first word. -/
  w0 : UInt64
  /-- The second word. -/
  w1 : UInt64
  /-- The third word. -/
  w2 : UInt64
  /-- The fourth word. -/
  w3 : UInt64
  /-- The fifth word. -/
  w4 : UInt64
  /-- The sixth word. -/
  w5 : UInt64
  /-- The seventh word. -/
  w6 : UInt64
  /-- The eighth word. -/
  w7 : UInt64
  /-- The ninth word. -/
  w8 : UInt64
  /-- The tenth word. -/
  w9 : UInt64
  /-- The eleventh word. -/
  w10 : UInt64
  /-- The twelfth word. -/
  w11 : UInt64
  /-- The thirteenth word. -/
  w12 : UInt64
  /-- The fourteenth word. -/
  w13 : UInt64
  /-- The fifteenth word. -/
  w14 : UInt64
  /-- The sixteenth word. -/
  w15 : UInt64

namespace Row

/-- The row of zeros. -/
def zero : Row := ⟨0, 0, 0, 0, 0, 0, 0, 0, 0, 0, 0, 0, 0, 0, 0, 0⟩

/-- The row of a list of words, zero where the list is too short. -/
def ofList (l : List UInt64) : Row :=
  let w (i : Nat) : UInt64 := l.getD i 0
  ⟨w 0, w 1, w 2, w 3, w 4, w 5, w 6, w 7, w 8, w 9, w 10, w 11, w 12, w 13, w 14, w 15⟩

/-- The words of a row. -/
def toList (r : Row) : List UInt64 :=
  [r.w0, r.w1, r.w2, r.w3, r.w4, r.w5, r.w6, r.w7, r.w8, r.w9, r.w10, r.w11, r.w12, r.w13, r.w14,
    r.w15]

/-- The exclusive or of two rows, word by word. -/
def xor (r s : Row) : Row :=
  ⟨r.w0 ^^^ s.w0, r.w1 ^^^ s.w1, r.w2 ^^^ s.w2, r.w3 ^^^ s.w3, r.w4 ^^^ s.w4,
    r.w5 ^^^ s.w5, r.w6 ^^^ s.w6, r.w7 ^^^ s.w7, r.w8 ^^^ s.w8, r.w9 ^^^ s.w9,
    r.w10 ^^^ s.w10, r.w11 ^^^ s.w11, r.w12 ^^^ s.w12, r.w13 ^^^ s.w13, r.w14 ^^^ s.w14,
    r.w15 ^^^ s.w15⟩

/-- A sum of two words and twice the product of their lower halves. -/
@[inline] def blend (x y : UInt64) : UInt64 :=
  x + y + 2 * ((x &&& 0xffffffff) * (y &&& 0xffffffff))

/-- Mixes four words and hands them on. -/
@[inline] def mix {α : Type} (a b c d : UInt64) (next : UInt64 → UInt64 → UInt64 → UInt64 → α) :
    α :=
  let a := blend a b
  let d := rotateRight (d ^^^ a) 32
  let c := blend c d
  let b := rotateRight (b ^^^ c) 24
  let a := blend a b
  let d := rotateRight (d ^^^ a) 16
  let c := blend c d
  let b := rotateRight (b ^^^ c) 63
  next a b c d

/-- Mixes the words of a row, taken as a square: its columns, then its diagonals. -/
def permute (r : Row) : Row :=
  mix r.w0 r.w4 r.w8 r.w12 fun w0 w4 w8 w12 =>
  mix r.w1 r.w5 r.w9 r.w13 fun w1 w5 w9 w13 =>
  mix r.w2 r.w6 r.w10 r.w14 fun w2 w6 w10 w14 =>
  mix r.w3 r.w7 r.w11 r.w15 fun w3 w7 w11 w15 =>
  mix w0 w5 w10 w15 fun w0 w5 w10 w15 =>
  mix w1 w6 w11 w12 fun w1 w6 w11 w12 =>
  mix w2 w7 w8 w13 fun w2 w7 w8 w13 =>
  mix w3 w4 w9 w14 fun w3 w4 w9 w14 =>
  ⟨w0, w1, w2, w3, w4, w5, w6, w7, w8, w9, w10, w11, w12, w13, w14, w15⟩

end Row

/-- A block of memory: eight rows. -/
structure Block where
  /-- The first row. -/
  r0 : Row
  /-- The second row. -/
  r1 : Row
  /-- The third row. -/
  r2 : Row
  /-- The fourth row. -/
  r3 : Row
  /-- The fifth row. -/
  r4 : Row
  /-- The sixth row. -/
  r5 : Row
  /-- The seventh row. -/
  r6 : Row
  /-- The eighth row. -/
  r7 : Row

namespace Block

/-- The block of zeros. -/
def zero : Block := ⟨.zero, .zero, .zero, .zero, .zero, .zero, .zero, .zero⟩

/-- The block of a list of words. -/
def ofList (l : List UInt64) : Block :=
  let r (i : Nat) : Row := .ofList (l.drop (16 * i))
  ⟨r 0, r 1, r 2, r 3, r 4, r 5, r 6, r 7⟩

/-- The words of a block. -/
def toList (b : Block) : List UInt64 :=
  [b.r0, b.r1, b.r2, b.r3, b.r4, b.r5, b.r6, b.r7].flatMap Row.toList

/-- The exclusive or of two blocks, word by word. -/
def xor (a b : Block) : Block :=
  ⟨a.r0.xor b.r0, a.r1.xor b.r1, a.r2.xor b.r2, a.r3.xor b.r3, a.r4.xor b.r4, a.r5.xor b.r5,
    a.r6.xor b.r6, a.r7.xor b.r7⟩

/-- Applies a function to each row. -/
@[inline] def mapRows (f : Row → Row) (b : Block) : Block :=
  ⟨f b.r0, f b.r1, f b.r2, f b.r3, f b.r4, f b.r5, f b.r6, f b.r7⟩

/-- Takes pairs of words as entries of a square and exchanges its rows and columns. -/
def transpose (b : Block) : Block :=
  ⟨⟨b.r0.w0, b.r0.w1, b.r1.w0, b.r1.w1, b.r2.w0, b.r2.w1, b.r3.w0, b.r3.w1, b.r4.w0,
      b.r4.w1, b.r5.w0, b.r5.w1, b.r6.w0, b.r6.w1, b.r7.w0, b.r7.w1⟩,
    ⟨b.r0.w2, b.r0.w3, b.r1.w2, b.r1.w3, b.r2.w2, b.r2.w3, b.r3.w2, b.r3.w3, b.r4.w2,
      b.r4.w3, b.r5.w2, b.r5.w3, b.r6.w2, b.r6.w3, b.r7.w2, b.r7.w3⟩,
    ⟨b.r0.w4, b.r0.w5, b.r1.w4, b.r1.w5, b.r2.w4, b.r2.w5, b.r3.w4, b.r3.w5, b.r4.w4,
      b.r4.w5, b.r5.w4, b.r5.w5, b.r6.w4, b.r6.w5, b.r7.w4, b.r7.w5⟩,
    ⟨b.r0.w6, b.r0.w7, b.r1.w6, b.r1.w7, b.r2.w6, b.r2.w7, b.r3.w6, b.r3.w7, b.r4.w6,
      b.r4.w7, b.r5.w6, b.r5.w7, b.r6.w6, b.r6.w7, b.r7.w6, b.r7.w7⟩,
    ⟨b.r0.w8, b.r0.w9, b.r1.w8, b.r1.w9, b.r2.w8, b.r2.w9, b.r3.w8, b.r3.w9, b.r4.w8,
      b.r4.w9, b.r5.w8, b.r5.w9, b.r6.w8, b.r6.w9, b.r7.w8, b.r7.w9⟩,
    ⟨b.r0.w10, b.r0.w11, b.r1.w10, b.r1.w11, b.r2.w10, b.r2.w11, b.r3.w10, b.r3.w11, b.r4.w10,
      b.r4.w11, b.r5.w10, b.r5.w11, b.r6.w10, b.r6.w11, b.r7.w10, b.r7.w11⟩,
    ⟨b.r0.w12, b.r0.w13, b.r1.w12, b.r1.w13, b.r2.w12, b.r2.w13, b.r3.w12, b.r3.w13, b.r4.w12,
      b.r4.w13, b.r5.w12, b.r5.w13, b.r6.w12, b.r6.w13, b.r7.w12, b.r7.w13⟩,
    ⟨b.r0.w14, b.r0.w15, b.r1.w14, b.r1.w15, b.r2.w14, b.r2.w15, b.r3.w14, b.r3.w15, b.r4.w14,
      b.r4.w15, b.r5.w14, b.r5.w15, b.r6.w14, b.r6.w15, b.r7.w14, b.r7.w15⟩⟩

/-- Mixes two blocks into a new one: the rows of their exclusive or are permuted, then its
columns, and the exclusive or is added once more. -/
def compress (a b : Block) : Block :=
  let x := a.xor b
  ((x.mapRows Row.permute).transpose.mapRows Row.permute).transpose.xor x

end Block

end Argon2

end WebLogin
