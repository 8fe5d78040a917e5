import QueryFence.Text.Basic

/-!
The MD5 digest of a list of bytes, as 32 hexadecimal digits.
-/

namespace QueryFence.Md5

/-- The four words that the digest is gathered in. -/
structure Words where
  a : UInt32
  b : UInt32
  c : UInt32
  d : UInt32

def start : Words := ⟨0x67452301, 0xefcdab89, 0x98badcfe, 0x10325476⟩

/-- The added constant of each step: the fraction bits of the absolute sines of 1, 2, 3, … -/
def sines : List UInt32 :=
  [0xd76aa478, 0xe8c7b756, 0x242070db, 0xc1bdceee, 0xf57c0faf, 0x4787c62a, 0xa8304613, 0xfd469501,
    0x698098d8, 0x8b44f7af, 0xffff5bb1, 0x895cd7be, 0x6b901122, 0xfd987193, 0xa679438e, 0x49b40821,
    0xf61e2562, 0xc040b340, 0x265e5a51, 0xe9b6c7aa, 0xd62f105d, 0x02441453, 0xd8a1e681, 0xe7d3fbc8,
    0x21e1cde6, 0xc33707d6, 0xf4d50d87, 0x455a14ed, 0xa9e3e905, 0xfcefa3f8, 0x676f02d9, 0x8d2a4c8a,
    0xfffa3942, 0x8771f681, 0x6d9d6122, 0xfde5380c, 0xa4beea44, 0x4bdecfa9, 0xf6bb4b60, 0xbebfbc70,
    0x289b7ec6, 0xeaa127fa, 0xd4ef3085, 0x04881d05, 0xd9d4d039, 0xe6db99e5, 0x1fa27cf8, 0xc4ac5665,
    0xf4292244, 0x432aff97, 0xab9423a7, 0xfc93a039, 0x655b59c3, 0x8f0ccc92, 0xffeff47d, 0x85845dd1,
    0x6fa87e4f, 0xfe2ce6e0, 0xa3014314, 0x4e0811a1, 0xf7537e82, 0xbd3af235, 0x2ad7d2bb, 0xeb86d391]

/-- How far each of four neighbouring steps of a round rotates. -/
def rotations (round : Nat) : List UInt32 :=
  match round with
  | 0 => [7, 12, 17, 22]
  | 1 => [5, 9, 14, 20]
  | 2 => [4, 11, 16, 23]
  | _ => [6, 10, 15, 21]

/-- The mixing function of a round. -/
def mix (round : Nat) (w : Words) : UInt32 :=
  match round with
  | 0 => (w.b &&& w.c) ||| (~~~w.b &&& w.d)
  | 1 => (w.d &&& w.b) ||| (~~~w.d &&& w.c)
  | 2 => w.b ^^^ w.c ^^^ w.d
  | _ => w.c ^^^ (w.b ||| ~~~w.d)

/-- Which of the sixteen message words a step takes. -/
def wordAt (i : Nat) : Nat :=
  match i / 16 with
  | 0 => i
  | 1 => (5 * i + 1) % 16
  | 2 => (3 * i + 5) % 16
  | _ => (7 * i) % 16

def rotateLeft (x by_ : UInt32) : UInt32 := (x <<< by_) ||| (x >>> (32 - by_))

def step (message : List UInt32) (w : Words) (i : Nat) : Words :=
  let f := mix (i / 16) w + w.a + sines.getD i 0 + message.getD (wordAt i) 0
  ⟨w.d, w.b + rotateLeft f ((rotations (i / 16)).getD (i % 4) 0), w.b, w.c⟩

def addBlock (w : Words) (message : List UInt32) : Words :=
  let r := (List.range 64).foldl (step message) w
  ⟨w.a + r.a, w.b + r.b, w.c + r.c, w.d + r.d⟩

/-- So many bytes of a number, the lowest first. -/
def littleEndian : Nat → Nat → List UInt8
  | 0, _ => []
  | count + 1, n => UInt8.ofNat (n % 256) :: littleEndian count (n / 256)

/-- The message with the padding that fills its last block and ends in the number of its bits. -/
def padded (bytes : List UInt8) : List UInt8 :=
  bytes ++ 0x80 :: List.replicate ((55 + 64 - bytes.length % 64) % 64) 0 ++
    littleEndian 8 (8 * bytes.length)

/-- Bytes in groups of four as words, the lowest byte first. -/
def toWords : List UInt8 → List UInt32
  | a :: b :: c :: d :: rest =>
    (a.toUInt32 ||| b.toUInt32 <<< 8 ||| c.toUInt32 <<< 16 ||| d.toUInt32 <<< 24) :: toWords rest
  | _ => []

/-- Words in blocks of sixteen. -/
def blocks : Nat → List UInt32 → List (List UInt32)
  | 0, _ => []
  | count + 1, words => words.take 16 :: blocks count (words.drop 16)

def digest (bytes : List UInt8) : List UInt8 :=
  let words := toWords (padded bytes)
  let w := (blocks (words.length / 16) words).foldl addBlock start
  [w.a, w.b, w.c, w.d].flatMap fun x => littleEndian 4 x.toNat

/-- The digest of a text's UTF-8 bytes in lower-case hexadecimal. -/
def hexDigest (t : Text) : Text := (digest t.utf8).flatMap fun b => Text.hex 2 b.toNat

end QueryFence.Md5
