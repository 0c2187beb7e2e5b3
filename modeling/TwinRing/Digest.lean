import TwinRing.Segment.Word
/-!
# Digests

The hash function SHA-256: a run of bytes, padded to whole blocks of 64,
is folded block by block into eight words of 32 bits, which give the 32
bytes of the digest, the highest byte of each word first.
-/

namespace TwinRing

namespace Digest

/-- The length of a digest in bytes. -/
def length : Nat := 32

/-! ## Constants of the standard -/

/-- The eight words to begin with: of the square roots of the first eight
primes, the first 32 bits after the point. -/
def start : List UInt32 :=
  [0x6a09e667, 0xbb67ae85, 0x3c6ef372, 0xa54ff53a,
    0x510e527f, 0x9b05688c, 0x1f83d9ab, 0x5be0cd19]

/-- A word for each round: of the cube roots of the first 64 primes, the
first 32 bits after the point. -/
def roundWords : List UInt32 :=
  [0x428a2f98, 0x71374491, 0xb5c0fbcf, 0xe9b5dba5, 0x3956c25b, 0x59f111f1, 0x923f82a4, 0xab1c5ed5,
    0xd807aa98, 0x12835b01, 0x243185be, 0x550c7dc3, 0x72be5d74, 0x80deb1fe, 0x9bdc06a7, 0xc19bf174,
    0xe49b69c1, 0xefbe4786, 0x0fc19dc6, 0x240ca1cc, 0x2de92c6f, 0x4a7484aa, 0x5cb0a9dc, 0x76f988da,
    0x983e5152, 0xa831c66d, 0xb00327c8, 0xbf597fc7, 0xc6e00bf3, 0xd5a79147, 0x06ca6351, 0x14292967,
    0x27b70a85, 0x2e1b2138, 0x4d2c6dfc, 0x53380d13, 0x650a7354, 0x766a0abb, 0x81c2c92e, 0x92722c85,
    0xa2bfe8a1, 0xa81a664b, 0xc24b8b70, 0xc76c51a3, 0xd192e819, 0xd6990624, 0xf40e3585, 0x106aa070,
    0x19a4c116, 0x1e376c08, 0x2748774c, 0x34b0bcb5, 0x391c0cb3, 0x4ed8aa4a, 0x5b9cca4f, 0x682e6ff3,
    0x748f82ee, 0x78a5636f, 0x84c87814, 0x8cc70208, 0x90befffa, 0xa4506ceb, 0xbef9a3f7, 0xc67178f2]

/-! ## Words -/

/-- The word turned right by so many bits. -/
def turned (w : UInt32) (bits : UInt32) : UInt32 := (w >>> bits) ||| (w <<< (32 - bits))

/-- The word of up to four bytes, the highest first. -/
def ofBytes (bytes : Bytes) : UInt32 :=
  bytes.foldl (fun w b => w * 256 + UInt32.ofNat b.toNat) 0

/-- The four bytes of a word, the highest first. -/
def toBytes (w : UInt32) : Bytes :=
  [(w >>> 24).toUInt8, (w >>> 16).toUInt8, (w >>> 8).toUInt8, w.toUInt8]

/-- A list in pieces of so many items; so many pieces at most. -/
def pieces {α : Type} (size : Nat) : Nat → List α → List (List α)
  | 0, _ => []
  | _ + 1, [] => []
  | n + 1, items => items.take size :: pieces size n (items.drop size)

/-! ## Blocks -/

/-- **The bytes padded to whole blocks**: a one bit, then zeros, then the
length in bits as eight bytes, the highest first. -/
def padded (bytes : Bytes) : Bytes :=
  let zeros := (119 - bytes.length % 64) % 64
  bytes ++ [0x80] ++ List.replicate zeros 0 ++
    (Word.toBytes (UInt64.ofNat (8 * bytes.length))).reverse

/-- The words for the rounds that lie ahead, from the sixteen before them,
oldest first: so many of them. -/
def schedule : Nat → List UInt32 → List UInt32
  | 0, _ => []
  | n + 1, window =>
    match window with
    | [] => []
    | w :: rest =>
      let w1 := window.getD 1 0
      let w9 := window.getD 9 0
      let w14 := window.getD 14 0
      let low := turned w1 7 ^^^ turned w1 18 ^^^ (w1 >>> 3)
      let high := turned w14 17 ^^^ turned w14 19 ^^^ (w14 >>> 10)
      w :: schedule n (rest ++ [w + low + w9 + high])

/-- The eight words of a state. -/
structure State where
  a : UInt32
  b : UInt32
  c : UInt32
  d : UInt32
  e : UInt32
  f : UInt32
  g : UInt32
  h : UInt32

namespace State

/-- The words in order. -/
def toList (s : State) : List UInt32 := [s.a, s.b, s.c, s.d, s.e, s.f, s.g, s.h]

/-- Eight words as a state; missing ones are zero. -/
def ofList (ws : List UInt32) : State :=
  ⟨ws.getD 0 0, ws.getD 1 0, ws.getD 2 0, ws.getD 3 0,
    ws.getD 4 0, ws.getD 5 0, ws.getD 6 0, ws.getD 7 0⟩

/-- One round, with the word of the round and the word of the block. -/
def round (s : State) (k w : UInt32) : State :=
  let high := turned s.e 6 ^^^ turned s.e 11 ^^^ turned s.e 25
  let choice := (s.e &&& s.f) ^^^ ((~~~ s.e) &&& s.g)
  let t := s.h + high + choice + k + w
  let low := turned s.a 2 ^^^ turned s.a 13 ^^^ turned s.a 22
  let majority := (s.a &&& s.b) ^^^ (s.a &&& s.c) ^^^ (s.b &&& s.c)
  ⟨t + (low + majority), s.a, s.b, s.c, s.d + t, s.e, s.f, s.g⟩

/-- All rounds for one block, added to the state before it. -/
def absorb (s : State) (block : Bytes) : State :=
  let words := schedule 64 ((pieces 4 16 block).map ofBytes)
  let s' := (roundWords.zip words).foldl (fun s kw => s.round kw.1 kw.2) s
  ofList (List.zipWith (· + ·) s.toList s'.toList)

end State

/-- **The digest of a run of bytes.** -/
def sha256 (bytes : Bytes) : Bytes :=
  let bytes := padded bytes
  let last := (pieces 64 (bytes.length / 64) bytes).foldl State.absorb (State.ofList start)
  last.toList.flatMap toBytes

/-- The digest of a text in UTF-8. -/
def ofText (text : String) : Bytes := sha256 text.toUTF8.toList

end Digest

end TwinRing
