import McProtocol.Packet

/-! # Profile identities

The offline UUID of a name is the version-3 UUID of `OfflinePlayer:<name>`, whose
MD5 digest needs a single block.
-/

namespace McProtocol

structure McUuid where
  bytes : List UInt8
  size : bytes.length = 16
  deriving Repr, DecidableEq

def McUuid.zero : McUuid := ⟨List.replicate 16 0, rfl⟩

def mcPacketUuid (value : McUuid) : WriteM Unit := mcPacketBytes value.bytes

def rotateLeft (value : UInt32) (shift : Nat) : UInt32 :=
  (value <<< UInt32.ofNat shift) ||| (value >>> UInt32.ofNat (32 - shift))

def md5Shifts : List Nat := [
  7, 12, 17, 22, 7, 12, 17, 22, 7, 12, 17, 22, 7, 12, 17, 22,
  5, 9, 14, 20, 5, 9, 14, 20, 5, 9, 14, 20, 5, 9, 14, 20,
  4, 11, 16, 23, 4, 11, 16, 23, 4, 11, 16, 23, 4, 11, 16, 23,
  6, 10, 15, 21, 6, 10, 15, 21, 6, 10, 15, 21, 6, 10, 15, 21]

def md5Constants : List UInt32 := [
  0xd76aa478, 0xe8c7b756, 0x242070db, 0xc1bdceee, 0xf57c0faf, 0x4787c62a, 0xa8304613, 0xfd469501,
  0x698098d8, 0x8b44f7af, 0xffff5bb1, 0x895cd7be, 0x6b901122, 0xfd987193, 0xa679438e, 0x49b40821,
  0xf61e2562, 0xc040b340, 0x265e5a51, 0xe9b6c7aa, 0xd62f105d, 0x02441453, 0xd8a1e681, 0xe7d3fbc8,
  0x21e1cde6, 0xc33707d6, 0xf4d50d87, 0x455a14ed, 0xa9e3e905, 0xfcefa3f8, 0x676f02d9, 0x8d2a4c8a,
  0xfffa3942, 0x8771f681, 0x6d9d6122, 0xfde5380c, 0xa4beea44, 0x4bdecfa9, 0xf6bb4b60, 0xbebfbc70,
  0x289b7ec6, 0xeaa127fa, 0xd4ef3085, 0x04881d05, 0xd9d4d039, 0xe6db99e5, 0x1fa27cf8, 0xc4ac5665,
  0xf4292244, 0x432aff97, 0xab9423a7, 0xfc93a039, 0x655b59c3, 0x8f0ccc92, 0xffeff47d, 0x85845dd1,
  0x6fa87e4f, 0xfe2ce6e0, 0xa3014314, 0x4e0811a1, 0xf7537e82, 0xbd3af235, 0x2ad7d2bb, 0xeb86d391]

/-- The four registers. -/
structure Md5State where
  a : UInt32
  b : UInt32
  c : UInt32
  d : UInt32
  deriving Repr, DecidableEq

def md5Initial : Md5State := ⟨0x67452301, 0xefcdab89, 0x98badcfe, 0x10325476⟩

/-- Round `index`: what is mixed, and the word it takes. -/
def md5Mix (state : Md5State) (index : Nat) : UInt32 × Nat :=
  if index < 16 then ((state.b &&& state.c) ||| (~~~state.b &&& state.d), index)
  else if index < 32 then
    ((state.d &&& state.b) ||| (~~~state.d &&& state.c), (5 * index + 1) % 16)
  else if index < 48 then (state.b ^^^ state.c ^^^ state.d, (3 * index + 5) % 16)
  else (state.c ^^^ (state.b ||| ~~~state.d), (7 * index) % 16)

def md5Round (words : List UInt32) (state : Md5State) (index : Nat) : Md5State :=
  let (mixed, word) := md5Mix state index
  let sum := state.a + mixed + md5Constants.getD index 0 + words.getD word 0
  { a := state.d
    b := state.b + rotateLeft sum (md5Shifts.getD index 0)
    c := state.b
    d := state.c }

/-- The word of four bytes, the least significant first. -/
def littleEndianWord (bytes : List UInt8) : UInt32 :=
  bytes.reverse.foldl (fun word byte => word <<< 8 ||| byte.toUInt32) 0

def littleEndianBytes (word : UInt32) : List UInt8 :=
  (List.range 4).map fun index => (word >>> UInt32.ofNat (8 * index)).toUInt8

/-- The digest of at most 55 bytes. -/
def md5SingleBlock (input : List UInt8) : List UInt8 :=
  let bits := input.length * 8
  let length := (List.range 8).map fun index => UInt8.ofNat (bits >>> (index * 8))
  let block := input ++ [0x80] ++ List.replicate (55 - input.length) 0 ++ length
  let words := (List.range 16).map fun index => littleEndianWord ((block.drop (index * 4)).take 4)
  let state := (List.range 64).foldl (md5Round words) md5Initial
  littleEndianBytes (md5Initial.a + state.a) ++ littleEndianBytes (md5Initial.b + state.b) ++
    littleEndianBytes (md5Initial.c + state.c) ++ littleEndianBytes (md5Initial.d + state.d)

theorem md5SingleBlock_length (input : List UInt8) : (md5SingleBlock input).length = 16 := by
  simp [md5SingleBlock, littleEndianBytes]

/-- A letter, a digit or an underscore. -/
def UsernameByte (value : UInt8) : Prop :=
  97 ≤ value ∧ value ≤ 122 ∨ 65 ≤ value ∧ value ≤ 90 ∨ 48 ≤ value ∧ value ≤ 57 ∨ value = 95

instance : DecidablePred UsernameByte := fun _ => inferInstanceAs (Decidable (_ ∨ _))

def ValidUsername (username : List UInt8) : Prop :=
  username.length ≠ 0 ∧ username.length ≤ 16 ∧ ∀ value ∈ username, UsernameByte value

instance : DecidablePred ValidUsername := fun _ => inferInstanceAs (Decidable (_ ∧ _))

/-- The version and variant bits of byte `index`. -/
def uuidVersion3 (index : Nat) (byte : UInt8) : UInt8 :=
  if index = 6 then (byte &&& 0x0f) ||| 0x30
  else if index = 8 then (byte &&& 0x3f) ||| 0x80
  else byte

def mcOfflineUuid (username : List UInt8) : Option McUuid :=
  if ValidUsername username then
    some ⟨(md5SingleBlock ("OfflinePlayer:".toUTF8.toList ++ username)).mapIdx uuidVersion3, by
      rw [List.length_mapIdx, md5SingleBlock_length]⟩
  else none

end McProtocol
