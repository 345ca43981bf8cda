import RenderTrust.Lib.ByteString

/-!
# SHA-256

On messages of whole bytes. Words are 32-bit vectors and a message a list of bytes,
so that a digest can be computed by the kernel.
-/
namespace Lib.Sha256
open ByteString

abbrev Word := BitVec 32

structure Registers where
  a : Word
  b : Word
  c : Word
  d : Word
  e : Word
  f : Word
  g : Word
  h : Word

def initial : Registers where
  a := 0x6a09e667
  b := 0xbb67ae85
  c := 0x3c6ef372
  d := 0xa54ff53a
  e := 0x510e527f
  f := 0x9b05688c
  g := 0x1f83d9ab
  h := 0x5be0cd19

def constants : List Word :=
  [0x428a2f98, 0x71374491, 0xb5c0fbcf, 0xe9b5dba5, 0x3956c25b, 0x59f111f1, 0x923f82a4, 0xab1c5ed5,
   0xd807aa98, 0x12835b01, 0x243185be, 0x550c7dc3, 0x72be5d74, 0x80deb1fe, 0x9bdc06a7, 0xc19bf174,
   0xe49b69c1, 0xefbe4786, 0x0fc19dc6, 0x240ca1cc, 0x2de92c6f, 0x4a7484aa, 0x5cb0a9dc, 0x76f988da,
   0x983e5152, 0xa831c66d, 0xb00327c8, 0xbf597fc7, 0xc6e00bf3, 0xd5a79147, 0x06ca6351, 0x14292967,
   0x27b70a85, 0x2e1b2138, 0x4d2c6dfc, 0x53380d13, 0x650a7354, 0x766a0abb, 0x81c2c92e, 0x92722c85,
   0xa2bfe8a1, 0xa81a664b, 0xc24b8b70, 0xc76c51a3, 0xd192e819, 0xd6990624, 0xf40e3585, 0x106aa070,
   0x19a4c116, 0x1e376c08, 0x2748774c, 0x34b0bcb5, 0x391c0cb3, 0x4ed8aa4a, 0x5b9cca4f, 0x682e6ff3,
   0x748f82ee, 0x78a5636f, 0x84c87814, 0x8cc70208, 0x90befffa, 0xa4506ceb, 0xbef9a3f7, 0xc67178f2]

def bigSigma0 (x : Word) : Word := x.rotateRight 2 ^^^ x.rotateRight 13 ^^^ x.rotateRight 22
def bigSigma1 (x : Word) : Word := x.rotateRight 6 ^^^ x.rotateRight 11 ^^^ x.rotateRight 25
def smallSigma0 (x : Word) : Word := x.rotateRight 7 ^^^ x.rotateRight 18 ^^^ (x >>> 3)
def smallSigma1 (x : Word) : Word := x.rotateRight 17 ^^^ x.rotateRight 19 ^^^ (x >>> 10)
def choose (x y z : Word) : Word := (x &&& y) ^^^ (~~~x &&& z)
def majority (x y z : Word) : Word := (x &&& y) ^^^ (x &&& z) ^^^ (y &&& z)

def round (r : Registers) (constant word : Word) : Registers :=
  let t := r.h + bigSigma1 r.e + choose r.e r.f r.g + constant + word
  { a := t + (bigSigma0 r.a + majority r.a r.b r.c), b := r.a, c := r.b, d := r.c,
    e := r.d + t, f := r.e, g := r.f, h := r.g }

/-- The words of the rounds, from a window of the next sixteen. -/
def schedule : ℕ → List Word → List Word
  | count + 1, word :: rest =>
      let next := smallSigma1 (rest.getD 13 0) + rest.getD 8 0 + smallSigma0 (rest.getD 0 0) + word
      word :: schedule count (rest ++ [next])
  | _, _ => []

/-- The first `count` pieces of `size` bytes. -/
def pieces (size : ℕ) : ℕ → Bytes → List Bytes
  | 0, _ => []
  | count + 1, bytes => bytes.take size :: pieces size count (bytes.drop size)

def compress (r : Registers) (block : Bytes) : Registers :=
  let words := (pieces 4 16 block).map (fun piece => BitVec.ofNat 32 (bigEndian piece))
  let s := (constants.zip (schedule 64 words)).foldl (fun s kw => round s kw.1 kw.2) r
  { a := r.a + s.a, b := r.b + s.b, c := r.c + s.c, d := r.d + s.d,
    e := r.e + s.e, f := r.f + s.f, g := r.g + s.g, h := r.h + s.h }

def pad (message : Bytes) : Bytes :=
  message ++ [0x80] ++ List.replicate ((119 - message.length % 64) % 64) 0 ++
    toBigEndian 8 (8 * message.length)

def Registers.toBytes (r : Registers) : Bytes :=
  [r.a, r.b, r.c, r.d, r.e, r.f, r.g, r.h].flatMap (fun word => toBigEndian 4 word.toNat)

def sha256 (message : Bytes) : Bytes :=
  let padded := pad message
  ((pieces 64 (padded.length / 64) padded).foldl compress initial).toBytes

theorem length_sha256 (message : Bytes) : (sha256 message).length = 32 := by
  simp only [sha256, Registers.toBytes, List.flatMap_cons, List.flatMap_nil, List.length_append,
    length_toBigEndian, List.length_nil]

example : bigEndian (sha256 [0x61, 0x62, 0x63]) =
    0xba7816bf8f01cfea414140de5dae2223b00361a396177a9cb410ff61f20015ad := by decide +kernel

end Lib.Sha256
