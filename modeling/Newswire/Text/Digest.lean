/-!
# SHA-256 digests

The digest of a text is taken over its UTF-8 bytes and written as sixty-four lower-case hexadecimal
digits. A message is padded to whole blocks of sixteen words, and each block is mixed into the eight
words of the state by sixty-four rounds.
-/

namespace Newswire.Text.Digest

/-- The words mixed in by the sixty-four rounds: the first thirty-two bits of the fractional parts
of the cube roots of the first sixty-four primes. -/
def roundWords : List UInt32 :=
  [0x428a2f98, 0x71374491, 0xb5c0fbcf, 0xe9b5dba5, 0x3956c25b, 0x59f111f1, 0x923f82a4, 0xab1c5ed5,
   0xd807aa98, 0x12835b01, 0x243185be, 0x550c7dc3, 0x72be5d74, 0x80deb1fe, 0x9bdc06a7, 0xc19bf174,
   0xe49b69c1, 0xefbe4786, 0x0fc19dc6, 0x240ca1cc, 0x2de92c6f, 0x4a7484aa, 0x5cb0a9dc, 0x76f988da,
   0x983e5152, 0xa831c66d, 0xb00327c8, 0xbf597fc7, 0xc6e00bf3, 0xd5a79147, 0x06ca6351, 0x14292967,
   0x27b70a85, 0x2e1b2138, 0x4d2c6dfc, 0x53380d13, 0x650a7354, 0x766a0abb, 0x81c2c92e, 0x92722c85,
   0xa2bfe8a1, 0xa81a664b, 0xc24b8b70, 0xc76c51a3, 0xd192e819, 0xd6990624, 0xf40e3585, 0x106aa070,
   0x19a4c116, 0x1e376c08, 0x2748774c, 0x34b0bcb5, 0x391c0cb3, 0x4ed8aa4a, 0x5b9cca4f, 0x682e6ff3,
   0x748f82ee, 0x78a5636f, 0x84c87814, 0x8cc70208, 0x90befffa, 0xa4506ceb, 0xbef9a3f7, 0xc67178f2]

/-- The eight words that a digest is made of. -/
structure State where
  a : UInt32
  b : UInt32
  c : UInt32
  d : UInt32
  e : UInt32
  f : UInt32
  g : UInt32
  h : UInt32

/-- The state before the first block: the square roots of the first eight primes. -/
def State.initial : State :=
  ⟨0x6a09e667, 0xbb67ae85, 0x3c6ef372, 0xa54ff53a, 0x510e527f, 0x9b05688c, 0x1f83d9ab, 0x5be0cd19⟩

def State.add (s t : State) : State :=
  ⟨s.a + t.a, s.b + t.b, s.c + t.c, s.d + t.d, s.e + t.e, s.f + t.f, s.g + t.g, s.h + t.h⟩

def State.words (s : State) : List UInt32 := [s.a, s.b, s.c, s.d, s.e, s.f, s.g, s.h]

@[simp] theorem State.length_words (s : State) : s.words.length = 8 := rfl

/-- The word turned right by `k` places. -/
def turn (w : UInt32) (k : UInt32) : UInt32 := (w >>> k) ||| (w <<< (32 - k))

/-- One round, with the message word and the constant of the round already added up. -/
def round (s : State) (w : UInt32) : State :=
  let choice := (s.e &&& s.f) ^^^ ((~~~ s.e) &&& s.g)
  let majority := (s.a &&& s.b) ^^^ (s.a &&& s.c) ^^^ (s.b &&& s.c)
  let t1 := s.h + (turn s.e 6 ^^^ turn s.e 11 ^^^ turn s.e 25) + choice + w
  let t2 := (turn s.a 2 ^^^ turn s.a 13 ^^^ turn s.a 22) + majority
  ⟨t1 + t2, s.a, s.b, s.c, s.d + t1, s.e, s.f, s.g⟩

/-- Lengthens a list of message words, last word first, by the words that the schedule derives. -/
def extend : Nat → List UInt32 → List UInt32
  | 0, ws => ws
  | n + 1, ws =>
    let word (k : Nat) := ws.getD (k - 1) 0
    let s0 := turn (word 15) 7 ^^^ turn (word 15) 18 ^^^ (word 15 >>> 3)
    let s1 := turn (word 2) 17 ^^^ turn (word 2) 19 ^^^ (word 2 >>> 10)
    extend n ((word 16 + s0 + word 7 + s1) :: ws)

/-- The sixty-four words of the rounds over one block of sixteen. -/
def schedule (block : List UInt32) : List UInt32 := (extend 48 block.reverse).reverse

def compress (s : State) (block : List UInt32) : State :=
  s.add ((List.zipWith (· + ·) (schedule block) roundWords).foldl round s)

/-- The number as `n` bytes, the highest first. -/
def bytesOf : Nat → Nat → List UInt8
  | 0, _ => []
  | n + 1, k => UInt8.ofNat (k / Nat.pow 256 n) :: bytesOf n k

@[simp] theorem length_bytesOf (n k : Nat) : (bytesOf n k).length = n := by
  induction n with
  | zero => rfl
  | succ n ih => simp [bytesOf, ih]

/-- The message, a closing one bit, zeros up to whole blocks, and the length in bits. -/
def pad (message : List UInt8) : List UInt8 :=
  message ++ 0x80 :: List.replicate ((119 - message.length % 64) % 64) 0
    ++ bytesOf 8 (8 * message.length)

theorem length_pad_mod (message : List UInt8) : (pad message).length % 64 = 0 := by
  simp [pad]
  omega

/-- Reads four bytes at a time as words, the highest byte first. -/
def wordsOf : List UInt8 → List UInt32
  | p :: q :: r :: s :: rest =>
    (p.toUInt32 <<< 24 ||| q.toUInt32 <<< 16 ||| r.toUInt32 <<< 8 ||| s.toUInt32) :: wordsOf rest
  | _ => []

/-- Mixes in the next `n` blocks of sixteen words. -/
def absorb : Nat → State → List UInt32 → State
  | 0, s, _ => s
  | n + 1, s, ws => absorb n (compress s (ws.take 16)) (ws.drop 16)

def hexDigit (n : Nat) : Char := Char.ofNat (if n < 10 then 48 + n else 87 + n)

/-- Eight hexadecimal digits, the highest first. -/
def hexWord (w : UInt32) : List Char :=
  (bytesOf 4 w.toNat).flatMap fun b => [hexDigit (b.toNat / 16), hexDigit (b.toNat % 16)]

def ofBytes (message : List UInt8) : List Char :=
  let padded := pad message
  (absorb (padded.length / 64) State.initial (wordsOf padded)).words.flatMap hexWord

end Newswire.Text.Digest

namespace Newswire.Text

/-- The SHA-256 digest of the text's UTF-8 bytes. -/
def digest (s : String) : String := String.ofList (Digest.ofBytes s.toUTF8.toList)

theorem length_digest (s : String) : (digest s).length = 64 := by
  have hw : ∀ w, (Digest.hexWord w).length = 8 := fun w => by
    simp [Digest.hexWord, Digest.bytesOf]
  simp [digest, Digest.ofBytes, Digest.State.words, hw]

end Newswire.Text
