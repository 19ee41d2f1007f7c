import Mathlib.Tactic

/-! # MD5

The digest of a message of any length: it is padded to whole blocks, and each block is mixed into
four registers by sixteen groups of four operations.
-/

namespace Md5

/-- Bytes as a number, the least significant first. -/
def number : List UInt8 → Nat
  | [] => 0
  | byte :: bytes => byte.toNat + 256 * number bytes

/-- `size` bytes of a number, the least significant first. -/
def bytes (size value : Nat) : List UInt8 :=
  (List.range size).map fun index => UInt8.ofNat (value / 256 ^ index)

def word (bytes : List UInt8) : UInt32 := UInt32.ofNat (number bytes)

/-- The circular shift to the left. -/
def rotate (word : UInt32) (shift : Nat) : UInt32 := ⟨word.toBitVec.rotateLeft shift⟩

structure Registers where
  a : UInt32
  b : UInt32
  c : UInt32
  d : UInt32
  deriving Repr, DecidableEq

def f (x y z : UInt32) : UInt32 := x &&& y ||| ~~~x &&& z

def g (x y z : UInt32) : UInt32 := x &&& z ||| y &&& ~~~z

def h (x y z : UInt32) : UInt32 := x ^^^ y ^^^ z

def i (x y z : UInt32) : UInt32 := y ^^^ (x ||| ~~~z)

/-- One of the four rounds: its function, its shifts, and the order in which it takes the words. -/
structure Round where
  mix : UInt32 → UInt32 → UInt32 → UInt32
  shifts : List Nat
  order : List Nat

def round (number : Nat) : Round :=
  match number with
  | 0 => ⟨f, [7, 12, 17, 22], [0, 1, 2, 3, 4, 5, 6, 7, 8, 9, 10, 11, 12, 13, 14, 15]⟩
  | 1 => ⟨g, [5, 9, 14, 20], [1, 6, 11, 0, 5, 10, 15, 4, 9, 14, 3, 8, 13, 2, 7, 12]⟩
  | 2 => ⟨h, [4, 11, 16, 23], [5, 8, 11, 14, 1, 4, 7, 10, 13, 0, 3, 6, 9, 12, 15, 2]⟩
  | _ => ⟨i, [6, 10, 15, 21], [0, 7, 14, 5, 12, 3, 10, 1, 8, 15, 6, 13, 4, 11, 2, 9]⟩

/-- The whole part of 2 ^ 32 times the absolute sine of one to sixty-four. -/
def table : List UInt32 := [
  0xd76aa478, 0xe8c7b756, 0x242070db, 0xc1bdceee, 0xf57c0faf, 0x4787c62a, 0xa8304613, 0xfd469501,
  0x698098d8, 0x8b44f7af, 0xffff5bb1, 0x895cd7be, 0x6b901122, 0xfd987193, 0xa679438e, 0x49b40821,
  0xf61e2562, 0xc040b340, 0x265e5a51, 0xe9b6c7aa, 0xd62f105d, 0x02441453, 0xd8a1e681, 0xe7d3fbc8,
  0x21e1cde6, 0xc33707d6, 0xf4d50d87, 0x455a14ed, 0xa9e3e905, 0xfcefa3f8, 0x676f02d9, 0x8d2a4c8a,
  0xfffa3942, 0x8771f681, 0x6d9d6122, 0xfde5380c, 0xa4beea44, 0x4bdecfa9, 0xf6bb4b60, 0xbebfbc70,
  0x289b7ec6, 0xeaa127fa, 0xd4ef3085, 0x04881d05, 0xd9d4d039, 0xe6db99e5, 0x1fa27cf8, 0xc4ac5665,
  0xf4292244, 0x432aff97, 0xab9423a7, 0xfc93a039, 0x655b59c3, 0x8f0ccc92, 0xffeff47d, 0x85845dd1,
  0x6fa87e4f, 0xfe2ce6e0, 0xa3014314, 0x4e0811a1, 0xf7537e82, 0xbd3af235, 0x2ad7d2bb, 0xeb86d391]

/-- `a = b + ((a + mix(b, c, d) + X[k] + T[i]) <<< s)`, the operation of number `step`. -/
def operation (words : List UInt32) (step : Nat) (a b c d : UInt32) : UInt32 :=
  let round := round (step / 16)
  let word := words.getD (round.order.getD (step % 16) 0) 0
  b + rotate (a + round.mix b c d + word + table.getD step 0) (round.shifts.getD (step % 4) 0)

/-- Four operations: `[ABCD] [DABC] [CDAB] [BCDA]`. -/
def group (words : List UInt32) (registers : Registers) (number : Nat) : Registers :=
  let a := operation words (4 * number) registers.a registers.b registers.c registers.d
  let d := operation words (4 * number + 1) registers.d a registers.b registers.c
  let c := operation words (4 * number + 2) registers.c d a registers.b
  let b := operation words (4 * number + 3) registers.b c d a
  ⟨a, b, c, d⟩

def initial : Registers := ⟨0x67452301, 0xefcdab89, 0x98badcfe, 0x10325476⟩

/-- A block of sixty-four bytes is mixed into the registers. -/
def compress (registers : Registers) (block : List UInt8) : Registers :=
  let words := (List.range 16).map fun index => word ((block.drop (4 * index)).take 4)
  let mixed := (List.range 16).foldl (group words) registers
  ⟨registers.a + mixed.a, registers.b + mixed.b, registers.c + mixed.c, registers.d + mixed.d⟩

/-- One bit, zeros up to eight bytes before a whole block, and the length in bits, modulo
2 ^ 64. -/
def pad (message : List UInt8) : List UInt8 :=
  message ++ [0x80] ++ List.replicate ((119 - message.length % 64) % 64) 0 ++
    bytes 8 (8 * message.length)

def blocks (padded : List UInt8) : List (List UInt8) :=
  (List.range (padded.length / 64)).map fun index => (padded.drop (64 * index)).take 64

def digest (message : List UInt8) : List UInt8 :=
  let registers := (blocks (pad message)).foldl compress initial
  bytes 4 registers.a.toNat ++ bytes 4 registers.b.toNat ++ bytes 4 registers.c.toNat ++
    bytes 4 registers.d.toNat

/-- The message of eighty digits, which takes two blocks. -/
example : digest ((List.replicate 8 [49, 50, 51, 52, 53, 54, 55, 56, 57, 48]).flatten) =
    [0x57, 0xed, 0xf4, 0xa2, 0x2b, 0xe3, 0xc9, 0x55, 0xac, 0x49, 0xda, 0x2e, 0x21, 0x07, 0xb6,
      0x7a] := by
  decide +kernel

end Md5
