import FolderIndex.Text.Quoted

namespace FolderIndex

/-! The 256-bit digest of a sequence of octets, by which a changed file is told from an
unchanged one. -/

namespace Digest

/-- The fractional parts of the cube roots of the first sixty-four primes. -/
def roundConstants : List UInt32 := [
    0x428A2F98, 0x71374491, 0xB5C0FBCF, 0xE9B5DBA5, 0x3956C25B, 0x59F111F1, 0x923F82A4, 0xAB1C5ED5,
    0xD807AA98, 0x12835B01, 0x243185BE, 0x550C7DC3, 0x72BE5D74, 0x80DEB1FE, 0x9BDC06A7, 0xC19BF174,
    0xE49B69C1, 0xEFBE4786, 0x0FC19DC6, 0x240CA1CC, 0x2DE92C6F, 0x4A7484AA, 0x5CB0A9DC, 0x76F988DA,
    0x983E5152, 0xA831C66D, 0xB00327C8, 0xBF597FC7, 0xC6E00BF3, 0xD5A79147, 0x06CA6351, 0x14292967,
    0x27B70A85, 0x2E1B2138, 0x4D2C6DFC, 0x53380D13, 0x650A7354, 0x766A0ABB, 0x81C2C92E, 0x92722C85,
    0xA2BFE8A1, 0xA81A664B, 0xC24B8B70, 0xC76C51A3, 0xD192E819, 0xD6990624, 0xF40E3585, 0x106AA070,
    0x19A4C116, 0x1E376C08, 0x2748774C, 0x34B0BCB5, 0x391C0CB3, 0x4ED8AA4A, 0x5B9CCA4F, 0x682E6FF3,
    0x748F82EE, 0x78A5636F, 0x84C87814, 0x8CC70208, 0x90BEFFFA, 0xA4506CEB, 0xBEF9A3F7, 0xC67178F2]

/-- The eight words that a block of octets stirs. -/
structure Words where
  a : UInt32
  b : UInt32
  c : UInt32
  d : UInt32
  e : UInt32
  f : UInt32
  g : UInt32
  h : UInt32
deriving DecidableEq, Repr

/-- The fractional parts of the square roots of the first eight primes. -/
def Words.initial : Words :=
  ⟨0x6A09E667, 0xBB67AE85, 0x3C6EF372, 0xA54FF53A, 0x510E527F, 0x9B05688C, 0x1F83D9AB, 0x5BE0CD19⟩

def Words.add (left right : Words) : Words :=
  ⟨left.a + right.a, left.b + right.b, left.c + right.c, left.d + right.d,
    left.e + right.e, left.f + right.f, left.g + right.g, left.h + right.h⟩

def Words.toList (words : Words) : List UInt32 :=
  [words.a, words.b, words.c, words.d, words.e, words.f, words.g, words.h]

def rotate (word amount : UInt32) : UInt32 :=
  (word >>> amount) ||| (word <<< (32 - amount))

def Words.round (words : Words) (input : UInt32) : Words :=
  let mix := rotate words.e 6 ^^^ rotate words.e 11 ^^^ rotate words.e 25
  let choice := (words.e &&& words.f) ^^^ (~~~words.e &&& words.g)
  let first := words.h + mix + choice + input
  let spread := rotate words.a 2 ^^^ rotate words.a 13 ^^^ rotate words.a 22
  let majority := (words.a &&& words.b) ^^^ (words.a &&& words.c) ^^^ (words.b &&& words.c)
  ⟨first + spread + majority, words.a, words.b, words.c, words.d + first, words.e, words.f, words.g⟩

/-- Four octets as a word, the most significant first. -/
def wordsOf : List UInt8 → List UInt32
  | a :: b :: c :: d :: rest =>
      (a.toUInt32 <<< 24 ||| b.toUInt32 <<< 16 ||| c.toUInt32 <<< 8 ||| d.toUInt32) :: wordsOf rest
  | _ => []

/-- `count` further words of the schedule, after those of `recent`, which holds the last
sixteen. -/
def extend : Nat → List UInt32 → List UInt32
  | 0, _ => []
  | count + 1, recent =>
      let recentWord (index : Nat) : UInt32 := recent.getD index 0
      let early := recentWord 1
      let late := recentWord 14
      let next := recentWord 0 + (rotate early 7 ^^^ rotate early 18 ^^^ (early >>> 3)) + recentWord 9 +
        (rotate late 17 ^^^ rotate late 19 ^^^ (late >>> 10))
      next :: extend count (recent.drop 1 ++ [next])

/-- The sixty-four words that a block of sixteen is stirred in with. -/
def schedule (block : List UInt32) : List UInt32 :=
  block ++ extend 48 block

def Words.stir (words : Words) (block : List UInt8) : Words :=
  let inputs := List.zipWith (· + ·) (schedule (wordsOf block)) roundConstants
  words.add (inputs.foldl Words.round words)

/-- The low octets of `value`, the most significant first. -/
def octetsOf : Nat → Nat → List UInt8
  | 0, _ => []
  | width + 1, value => octetsOf width (value / 256) ++ [UInt8.ofNat value]

/-- The octets with a one bit, zeros and their length in bits behind them: whole blocks. -/
def padded (octets : List UInt8) : List UInt8 :=
  octets ++ 0x80 :: List.replicate ((119 - octets.length % 64) % 64) 0 ++
    octetsOf 8 (8 * octets.length)

/-- `count` blocks stirred in one after the other. -/
def stirBlocks : Nat → Words → List UInt8 → Words
  | 0, words, _ => words
  | count + 1, words, octets => stirBlocks count (words.stir (octets.take 64)) (octets.drop 64)

def words (octets : List UInt8) : Words :=
  let message := padded octets
  stirBlocks (message.length / 64) .initial message

end Digest

/-- The digest as sixty-four hexadecimal digits. -/
def digest (octets : List UInt8) : String :=
  String.ofList ((Digest.words octets).toList.flatMap fun word => Text.hexDigits 8 word.toNat)

end FolderIndex
