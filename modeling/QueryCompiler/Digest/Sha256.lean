/-!
# SHA-256

The digest of a list of bytes and its hexadecimal text.  Words have 32 bits, and
their sums wrap.
-/

namespace QueryCompiler.Digest

def initialWords : List UInt32 :=
  [0x6a09e667, 0xbb67ae85, 0x3c6ef372, 0xa54ff53a, 0x510e527f, 0x9b05688c, 0x1f83d9ab,
    0x5be0cd19]

def roundConstants : List UInt32 :=
  [0x428a2f98, 0x71374491, 0xb5c0fbcf, 0xe9b5dba5, 0x3956c25b, 0x59f111f1, 0x923f82a4,
    0xab1c5ed5, 0xd807aa98, 0x12835b01, 0x243185be, 0x550c7dc3, 0x72be5d74, 0x80deb1fe,
    0x9bdc06a7, 0xc19bf174, 0xe49b69c1, 0xefbe4786, 0x0fc19dc6, 0x240ca1cc, 0x2de92c6f,
    0x4a7484aa, 0x5cb0a9dc, 0x76f988da, 0x983e5152, 0xa831c66d, 0xb00327c8, 0xbf597fc7,
    0xc6e00bf3, 0xd5a79147, 0x06ca6351, 0x14292967, 0x27b70a85, 0x2e1b2138, 0x4d2c6dfc,
    0x53380d13, 0x650a7354, 0x766a0abb, 0x81c2c92e, 0x92722c85, 0xa2bfe8a1, 0xa81a664b,
    0xc24b8b70, 0xc76c51a3, 0xd192e819, 0xd6990624, 0xf40e3585, 0x106aa070, 0x19a4c116,
    0x1e376c08, 0x2748774c, 0x34b0bcb5, 0x391c0cb3, 0x4ed8aa4a, 0x5b9cca4f, 0x682e6ff3,
    0x748f82ee, 0x78a5636f, 0x84c87814, 0x8cc70208, 0x90befffa, 0xa4506ceb, 0xbef9a3f7,
    0xc67178f2]

/-- A word turned to the right by a number of bits below 32. -/
def rotateRight (word : UInt32) (bits : UInt32) : UInt32 :=
  (word >>> bits) ||| (word <<< (32 - bits))

/-! ## Padding -/

/-- A natural as so many bytes, the highest first. -/
def bigEndian : Nat → Nat → List UInt8
  | 0, _ => []
  | bytes + 1, value => bigEndian bytes (value / 256) ++ [UInt8.ofNat value]

/-- The message with a one bit, zeros and its length in bits, which fills blocks
of 64 bytes. -/
def pad (message : List UInt8) : List UInt8 :=
  message ++ 0x80 :: (List.replicate ((119 - message.length % 64) % 64) 0 ++
    bigEndian 8 (8 * message.length))

/-- Bytes as words of four bytes. -/
def wordsOfBytes : List UInt8 → List UInt32
  | first :: second :: third :: fourth :: rest =>
      ((first.toUInt32 <<< 24) ||| (second.toUInt32 <<< 16) ||| (third.toUInt32 <<< 8) |||
        fourth.toUInt32) :: wordsOfBytes rest
  | _ => []

/-! ## Rounds -/

/-- The next word of a message schedule, of which the newest word stands first. -/
def nextScheduleWord (schedule : List UInt32) : UInt32 :=
  let early := schedule.getD 14 0
  let late := schedule.getD 1 0
  schedule.getD 15 0 +
    (rotateRight early 7 ^^^ rotateRight early 18 ^^^ (early >>> 3)) +
    schedule.getD 6 0 +
    (rotateRight late 17 ^^^ rotateRight late 19 ^^^ (late >>> 10))

/-- A message schedule with so many words more, the newest first. -/
def extendSchedule : Nat → List UInt32 → List UInt32
  | 0, schedule => schedule
  | count + 1, schedule => extendSchedule count (nextScheduleWord schedule :: schedule)

structure Working where
  a : UInt32
  b : UInt32
  c : UInt32
  d : UInt32
  e : UInt32
  f : UInt32
  g : UInt32
  h : UInt32

def Working.toList (words : Working) : List UInt32 :=
  [words.a, words.b, words.c, words.d, words.e, words.f, words.g, words.h]

def Working.ofList : List UInt32 → Working
  | [a, b, c, d, e, f, g, h] => ⟨a, b, c, d, e, f, g, h⟩
  | _ => ⟨0, 0, 0, 0, 0, 0, 0, 0⟩

/-- One round, with its constant and its word of the schedule. -/
def Working.round (words : Working) (constant scheduled : UInt32) : Working :=
  let choice := (words.e &&& words.f) ^^^ (~~~words.e &&& words.g)
  let majority := (words.a &&& words.b) ^^^ (words.a &&& words.c) ^^^ (words.b &&& words.c)
  let first :=
    words.h + (rotateRight words.e 6 ^^^ rotateRight words.e 11 ^^^ rotateRight words.e 25) +
      choice + constant + scheduled
  let second :=
    (rotateRight words.a 2 ^^^ rotateRight words.a 13 ^^^ rotateRight words.a 22) + majority
  ⟨first + second, words.a, words.b, words.c, words.d + first, words.e, words.f, words.g⟩

/-- The digest words after a block of sixteen words. -/
def compressBlock (digest block : List UInt32) : List UInt32 :=
  let schedule := (extendSchedule 48 block.reverse).reverse
  let words := (roundConstants.zip schedule).foldl
    (fun words step => words.round step.1 step.2) (Working.ofList digest)
  List.zipWith (· + ·) digest words.toList

def compressBlocks : Nat → List UInt32 → List UInt32 → List UInt32
  | 0, digest, _ => digest
  | count + 1, digest, words =>
      compressBlocks count (compressBlock digest (words.take 16)) (words.drop 16)

def sha256Words (message : List UInt8) : List UInt32 :=
  let words := wordsOfBytes (pad message)
  compressBlocks (words.length / 16) initialWords words

/-! ## Text -/

def hexDigits : Nat → Nat → List Char
  | 0, _ => []
  | digits + 1, value => hexDigits digits (value / 16) ++ [Nat.digitChar (value % 16)]

/-- The digest of a text in UTF-8, in hexadecimal digits. -/
def sha256Hex (text : String) : String :=
  String.ofList ((sha256Words text.toUTF8.toList).flatMap fun word => hexDigits 8 word.toNat)

end QueryCompiler.Digest
