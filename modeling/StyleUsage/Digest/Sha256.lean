/-!
# SHA-256

The digest of a byte string: the message is padded to whole blocks of 64 bytes, each block is
expanded to 64 words and stirred into a state of eight words. The constants are the first 32 bits
of the fractional parts of the square roots of the first eight primes and of the cube roots of
the first 64.
-/

namespace StyleUsage.Digest

/-- The words that a digest is computed with. -/
abbrev Word := BitVec 32

/-- The state between blocks. -/
structure State where
  a : Word
  b : Word
  c : Word
  d : Word
  e : Word
  f : Word
  g : Word
  h : Word
  deriving DecidableEq

/-- The state before the first block. -/
def State.start : State :=
  ⟨0x6a09e667, 0xbb67ae85, 0x3c6ef372, 0xa54ff53a, 0x510e527f, 0x9b05688c, 0x1f83d9ab, 0x5be0cd19⟩

def roundConstants : Array Word := #[
  0x428a2f98, 0x71374491, 0xb5c0fbcf, 0xe9b5dba5, 0x3956c25b, 0x59f111f1, 0x923f82a4, 0xab1c5ed5,
  0xd807aa98, 0x12835b01, 0x243185be, 0x550c7dc3, 0x72be5d74, 0x80deb1fe, 0x9bdc06a7, 0xc19bf174,
  0xe49b69c1, 0xefbe4786, 0x0fc19dc6, 0x240ca1cc, 0x2de92c6f, 0x4a7484aa, 0x5cb0a9dc, 0x76f988da,
  0x983e5152, 0xa831c66d, 0xb00327c8, 0xbf597fc7, 0xc6e00bf3, 0xd5a79147, 0x06ca6351, 0x14292967,
  0x27b70a85, 0x2e1b2138, 0x4d2c6dfc, 0x53380d13, 0x650a7354, 0x766a0abb, 0x81c2c92e, 0x92722c85,
  0xa2bfe8a1, 0xa81a664b, 0xc24b8b70, 0xc76c51a3, 0xd192e819, 0xd6990624, 0xf40e3585, 0x106aa070,
  0x19a4c116, 0x1e376c08, 0x2748774c, 0x34b0bcb5, 0x391c0cb3, 0x4ed8aa4a, 0x5b9cca4f, 0x682e6ff3,
  0x748f82ee, 0x78a5636f, 0x84c87814, 0x8cc70208, 0x90befffa, 0xa4506ceb, 0xbef9a3f7, 0xc67178f2]

/-- The eight bytes of a number, the highest first. -/
def bigEndian64 (n : Nat) : List UInt8 :=
  (List.range 8).map fun i => (n >>> (8 * (7 - i))).toUInt8

/-- The message with a single one bit, as many zero bits as fill the last block, and its length
in bits. -/
def pad (message : List UInt8) : List UInt8 :=
  let len := message.length
  message ++ 0x80 :: List.replicate ((119 - len % 64) % 64) 0 ++ bigEndian64 (8 * len)

/-- The words of a byte string, four bytes each, the highest first. -/
def wordsOf : List UInt8 → List Word
  | b₀ :: b₁ :: b₂ :: b₃ :: rest =>
    (b₀.toBitVec ++ b₁.toBitVec ++ b₂.toBitVec ++ b₃.toBitVec : BitVec 32) :: wordsOf rest
  | _ => []

def nextWord (schedule : Array Word) : Word :=
  let back (k : Nat) : Word := schedule[schedule.size - k]?.getD 0
  let w₁₅ := back 15
  let w₂ := back 2
  let s₀ := w₁₅.rotateRight 7 ^^^ w₁₅.rotateRight 18 ^^^ (w₁₅ >>> 3)
  let s₁ := w₂.rotateRight 17 ^^^ w₂.rotateRight 19 ^^^ (w₂ >>> 10)
  back 16 + s₀ + back 7 + s₁

def schedule (block : List Word) : Array Word :=
  (List.range 48).foldl (fun w _ => w.push (nextWord w)) block.toArray

def State.round (s : State) (k w : Word) : State :=
  let s₁ := s.e.rotateRight 6 ^^^ s.e.rotateRight 11 ^^^ s.e.rotateRight 25
  let choice := (s.e &&& s.f) ^^^ (~~~s.e &&& s.g)
  let t₁ := s.h + s₁ + choice + k + w
  let s₀ := s.a.rotateRight 2 ^^^ s.a.rotateRight 13 ^^^ s.a.rotateRight 22
  let majority := (s.a &&& s.b) ^^^ (s.a &&& s.c) ^^^ (s.b &&& s.c)
  ⟨t₁ + s₀ + majority, s.a, s.b, s.c, s.d + t₁, s.e, s.f, s.g⟩

/-- The word by word sum of two states. -/
def State.add (s t : State) : State :=
  ⟨s.a + t.a, s.b + t.b, s.c + t.c, s.d + t.d, s.e + t.e, s.f + t.f, s.g + t.g, s.h + t.h⟩

def State.absorb (s : State) (block : List Word) : State :=
  let stirred := (roundConstants.toList.zip (schedule block).toList).foldl
    (fun t kw => t.round kw.1 kw.2) s
  s.add stirred

def blocksOf (count : Nat) (words : List Word) : List (List Word) :=
  match count with
  | 0 => []
  | n + 1 => words.take 16 :: blocksOf n (words.drop 16)

/-- The state after all blocks of a message. -/
def stateOf (message : List UInt8) : State :=
  let words := wordsOf (pad message)
  (blocksOf (words.length / 16) words).foldl State.absorb State.start

/-- A word as eight lower-case hexadecimal digits. -/
def hexWord (w : Word) : List Char :=
  let ds := Nat.toDigits 16 w.toNat
  List.replicate (8 - ds.length) '0' ++ ds

/-- The SHA-256 of a byte string in lower-case hexadecimal. -/
def sha256 (message : List UInt8) : String :=
  let s := stateOf message
  String.ofList ([s.a, s.b, s.c, s.d, s.e, s.f, s.g, s.h].flatMap hexWord)

def ofText (text : String) : String :=
  sha256 text.toUTF8.toList

end StyleUsage.Digest
