import Mathlib.Data.List.Defs

/-! The MD5 digest, which both sides of an EAPOL challenge compute. -/

namespace Bbsim.Responders.Md5

structure Words where
  a : UInt32
  b : UInt32
  c : UInt32
  d : UInt32

/-- The integer parts of the sines of 1 to 64, times 2^32. -/
def sines : List UInt32 :=
  [0xd76aa478, 0xe8c7b756, 0x242070db, 0xc1bdceee, 0xf57c0faf, 0x4787c62a, 0xa8304613, 0xfd469501,
    0x698098d8, 0x8b44f7af, 0xffff5bb1, 0x895cd7be, 0x6b901122, 0xfd987193, 0xa679438e, 0x49b40821,
    0xf61e2562, 0xc040b340, 0x265e5a51, 0xe9b6c7aa, 0xd62f105d, 0x02441453, 0xd8a1e681, 0xe7d3fbc8,
    0x21e1cde6, 0xc33707d6, 0xf4d50d87, 0x455a14ed, 0xa9e3e905, 0xfcefa3f8, 0x676f02d9, 0x8d2a4c8a,
    0xfffa3942, 0x8771f681, 0x6d9d6122, 0xfde5380c, 0xa4beea44, 0x4bdecfa9, 0xf6bb4b60, 0xbebfbc70,
    0x289b7ec6, 0xeaa127fa, 0xd4ef3085, 0x04881d05, 0xd9d4d039, 0xe6db99e5, 0x1fa27cf8, 0xc4ac5665,
    0xf4292244, 0x432aff97, 0xab9423a7, 0xfc93a039, 0x655b59c3, 0x8f0ccc92, 0xffeff47d, 0x85845dd1,
    0x6fa87e4f, 0xfe2ce6e0, 0xa3014314, 0x4e0811a1, 0xf7537e82, 0xbd3af235, 0x2ad7d2bb, 0xeb86d391]

def shifts : List UInt32 :=
  [[7, 12, 17, 22], [5, 9, 14, 20], [4, 11, 16, 23], [6, 10, 15, 21]].flatMap fun round =>
    round ++ round ++ round ++ round

def rotate (word shift : UInt32) : UInt32 := word <<< shift ||| word >>> (32 - shift)

/-- What an operation mixes of its words, and the word of the block that it adds. -/
def mix (words : Words) (index : Nat) : UInt32 × Nat :=
  let ⟨_, b, c, d⟩ := words
  if index < 16 then (b &&& c ||| ~~~b &&& d, index)
  else if index < 32 then (d &&& b ||| ~~~d &&& c, (5 * index + 1) % 16)
  else if index < 48 then (b ^^^ c ^^^ d, (3 * index + 5) % 16)
  else (c ^^^ (b ||| ~~~d), 7 * index % 16)

def operate (block : List UInt32) (words : Words) (index : Nat) : Words :=
  let (mixed, place) := mix words index
  let sum := mixed + words.a + sines.getD index 0 + block.getD place 0
  ⟨words.d, words.b + rotate sum (shifts.getD index 0), words.b, words.c⟩

def compress (words : Words) (block : List UInt32) : Words :=
  let last := (List.range 64).foldl (operate block) words
  ⟨words.a + last.a, words.b + last.b, words.c + last.c, words.d + last.d⟩

def littleEndian (word : UInt32) : List UInt8 :=
  [word.toUInt8, (word >>> 8).toUInt8, (word >>> 16).toUInt8, (word >>> 24).toUInt8]

/-- The words of the bytes, of which the lowest comes first. -/
def words : List UInt8 → List UInt32
  | first :: second :: third :: fourth :: rest =>
    (first.toUInt32 ||| second.toUInt32 <<< 8 ||| third.toUInt32 <<< 16 ||| fourth.toUInt32 <<< 24) ::
      words rest
  | _ => []

/-- A bit, zeros up to a whole number of blocks, and the number of bits. -/
def padded (data : List UInt8) : List UInt8 :=
  let bits := (8 * data.length).toUInt64
  data ++ 0x80 :: List.replicate ((119 - data.length % 64) % 64) (0 : UInt8) ++
    littleEndian bits.toUInt32 ++ littleEndian (bits >>> 32).toUInt32

def blocks (words : List UInt32) : List (List UInt32) :=
  (List.range (words.length / 16)).map fun block => (words.drop (16 * block)).take 16

end Md5

def md5 (data : List UInt8) : List UInt8 :=
  let start : Md5.Words := ⟨0x67452301, 0xefcdab89, 0x98badcfe, 0x10325476⟩
  let last := (Md5.blocks (Md5.words (Md5.padded data))).foldl Md5.compress start
  Md5.littleEndian last.a ++ Md5.littleEndian last.b ++ Md5.littleEndian last.c ++
    Md5.littleEndian last.d

theorem length_md5 (data : List UInt8) : (md5 data).length = 16 := rfl

/-- The digest of `abc`. -/
example : md5 [0x61, 0x62, 0x63] = [0x90, 0x01, 0x50, 0x98, 0x3c, 0xd2, 0x4f, 0xb0, 0xd6, 0x96, 0x3f,
    0x7d, 0x28, 0xe1, 0x7f, 0x72] := by
  decide +kernel

end Bbsim.Responders
