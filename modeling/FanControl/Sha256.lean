import FanControl.Text.Bytes

/-!
# SHA-256

The digest by which a firmware image is recognised, as specified in FIPS 180-4. The message is
padded to whole blocks of 64 bytes; each block is expanded into a schedule of 64 words, which the
compression function folds into the eight words of the state.
-/

namespace FanControl.Sha256

/-- The eight working words. -/
structure State where
  a : UInt32
  b : UInt32
  c : UInt32
  d : UInt32
  e : UInt32
  f : UInt32
  g : UInt32
  h : UInt32
deriving DecidableEq, Repr

/-- The words before the first block. -/
def initial : State :=
  ⟨0x6a09e667, 0xbb67ae85, 0x3c6ef372, 0xa54ff53a, 0x510e527f, 0x9b05688c, 0x1f83d9ab, 0x5be0cd19⟩

/-- The constants of the sixty-four rounds. -/
def roundConstants : List UInt32 := [
  0x428a2f98, 0x71374491, 0xb5c0fbcf, 0xe9b5dba5, 0x3956c25b, 0x59f111f1, 0x923f82a4, 0xab1c5ed5,
  0xd807aa98, 0x12835b01, 0x243185be, 0x550c7dc3, 0x72be5d74, 0x80deb1fe, 0x9bdc06a7, 0xc19bf174,
  0xe49b69c1, 0xefbe4786, 0x0fc19dc6, 0x240ca1cc, 0x2de92c6f, 0x4a7484aa, 0x5cb0a9dc, 0x76f988da,
  0x983e5152, 0xa831c66d, 0xb00327c8, 0xbf597fc7, 0xc6e00bf3, 0xd5a79147, 0x06ca6351, 0x14292967,
  0x27b70a85, 0x2e1b2138, 0x4d2c6dfc, 0x53380d13, 0x650a7354, 0x766a0abb, 0x81c2c92e, 0x92722c85,
  0xa2bfe8a1, 0xa81a664b, 0xc24b8b70, 0xc76c51a3, 0xd192e819, 0xd6990624, 0xf40e3585, 0x106aa070,
  0x19a4c116, 0x1e376c08, 0x2748774c, 0x34b0bcb5, 0x391c0cb3, 0x4ed8aa4a, 0x5b9cca4f, 0x682e6ff3,
  0x748f82ee, 0x78a5636f, 0x84c87814, 0x8cc70208, 0x90befffa, 0xa4506ceb, 0xbef9a3f7, 0xc67178f2]

/-- Rotation to the right. -/
def rotate (x : UInt32) (n : UInt32) : UInt32 := (x >>> n) ||| (x <<< (32 - n))

/-- The most significant byte first. -/
def wordOfBytes (a b c d : UInt8) : UInt32 :=
  (a.toUInt32 <<< 24) ||| (b.toUInt32 <<< 16) ||| (c.toUInt32 <<< 8) ||| d.toUInt32

/-- The most significant byte first. -/
def bytesOfWord (w : UInt32) : Bytes :=
  [(w >>> 24).toUInt8, (w >>> 16).toUInt8, (w >>> 8).toUInt8, w.toUInt8]

/-- A one bit, zeros up to eight bytes before the end of a block, and the length in bits. -/
def padding (length : Nat) : Bytes :=
  let zeros := (119 - length % 64) % 64
  0x80 :: List.replicate zeros 0 ++
    bytesOfWord (UInt32.ofNat (length * 8 / 0x100000000)) ++
      bytesOfWord (UInt32.ofNat (length * 8))

/-- Extends the schedule by `n` words. The schedule is held with its last word first, so the words
2, 7, 15 and 16 back are at the places 1, 6, 14 and 15. -/
def extend (schedule : List UInt32) : Nat → List UInt32
  | 0 => schedule
  | n + 1 =>
    let back (i : Nat) : UInt32 := schedule.getD i 0
    let x := back 14
    let y := back 1
    let s0 := rotate x 7 ^^^ rotate x 18 ^^^ (x >>> 3)
    let s1 := rotate y 17 ^^^ rotate y 19 ^^^ (y >>> 10)
    extend ((back 15 + s0 + back 6 + s1) :: schedule) n

/-- One round, with a word of the schedule and its constant. -/
def round (s : State) (w k : UInt32) : State :=
  let s1 := rotate s.e 6 ^^^ rotate s.e 11 ^^^ rotate s.e 25
  let choice := (s.e &&& s.f) ^^^ ((~~~ s.e) &&& s.g)
  let t1 := s.h + s1 + choice + k + w
  let s0 := rotate s.a 2 ^^^ rotate s.a 13 ^^^ rotate s.a 22
  let majority := (s.a &&& s.b) ^^^ (s.a &&& s.c) ^^^ (s.b &&& s.c)
  ⟨t1 + s0 + majority, s.a, s.b, s.c, s.d + t1, s.e, s.f, s.g⟩

/-- The state after a block of sixteen words. -/
def compress (s : State) (block : List UInt32) : State :=
  let schedule := (extend block.reverse 48).reverse
  let t := (schedule.zip roundConstants).foldl (fun t (w, k) => round t w k) s
  ⟨s.a + t.a, s.b + t.b, s.c + t.c, s.d + t.d, s.e + t.e, s.f + t.f, s.g + t.g, s.h + t.h⟩

/-- The state after whole blocks of sixteen words, of which there are at most `n`. -/
def compressAll (s : State) (ws : List UInt32) : Nat → State
  | 0 => s
  | n + 1 =>
    match ws with
    | [] => s
    | ws => compressAll (compress s (ws.take 16)) (ws.drop 16) n

/-- Bytes taken four at a time, after the words in `before`, the last one first. -/
def wordsOnto (before : List UInt32) : Bytes → List UInt32
  | a :: b :: c :: d :: rest => wordsOnto (wordOfBytes a b c d :: before) rest
  | _ => before.reverse

/-- The digest of a message. -/
def digest (message : Bytes) : Bytes :=
  let ws := wordsOnto [] (message ++ padding message.length)
  let s := compressAll initial ws (ws.length / 16 + 1)
  [s.a, s.b, s.c, s.d, s.e, s.f, s.g, s.h].flatMap bytesOfWord

end FanControl.Sha256
