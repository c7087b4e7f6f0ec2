import Thermometer.Lib.Memory

-- SHA-256 of a byte string, and HMAC over it.
namespace Thermometer.Sha256

structure Chaining where
  a : UInt32
  b : UInt32
  c : UInt32
  d : UInt32
  e : UInt32
  f : UInt32
  g : UInt32
  h : UInt32

def initial : Chaining :=
  ⟨0x6a09e667,0xbb67ae85,0x3c6ef372,0xa54ff53a,0x510e527f,0x9b05688c,0x1f83d9ab,0x5be0cd19⟩

def roundConstants : List UInt32 :=
  [0x428a2f98,0x71374491,0xb5c0fbcf,0xe9b5dba5,0x3956c25b,0x59f111f1,0x923f82a4,0xab1c5ed5,
   0xd807aa98,0x12835b01,0x243185be,0x550c7dc3,0x72be5d74,0x80deb1fe,0x9bdc06a7,0xc19bf174,
   0xe49b69c1,0xefbe4786,0x0fc19dc6,0x240ca1cc,0x2de92c6f,0x4a7484aa,0x5cb0a9dc,0x76f988da,
   0x983e5152,0xa831c66d,0xb00327c8,0xbf597fc7,0xc6e00bf3,0xd5a79147,0x06ca6351,0x14292967,
   0x27b70a85,0x2e1b2138,0x4d2c6dfc,0x53380d13,0x650a7354,0x766a0abb,0x81c2c92e,0x92722c85,
   0xa2bfe8a1,0xa81a664b,0xc24b8b70,0xc76c51a3,0xd192e819,0xd6990624,0xf40e3585,0x106aa070,
   0x19a4c116,0x1e376c08,0x2748774c,0x34b0bcb5,0x391c0cb3,0x4ed8aa4a,0x5b9cca4f,0x682e6ff3,
   0x748f82ee,0x78a5636f,0x84c87814,0x8cc70208,0x90befffa,0xa4506ceb,0xbef9a3f7,0xc67178f2]

def rotateRight (word count : UInt32) : UInt32 := word >>> count ||| word <<< (32 - count)

def sigma (left middle right : UInt32) (word : UInt32) : UInt32 :=
  rotateRight word left ^^^ rotateRight word middle ^^^ rotateRight word right

def scheduleSigma (left middle shift : UInt32) (word : UInt32) : UInt32 :=
  rotateRight word left ^^^ rotateRight word middle ^^^ word >>> shift

def extend : Nat → List UInt32 → List UInt32
  | 0,words => words
  | rounds + 1,words =>
    extend rounds ((scheduleSigma 17 19 10 (words.getD 1 0) + words.getD 6 0 + scheduleSigma 7 18 3 (words.getD 14 0) +
      words.getD 15 0) :: words)

def bigEndian : List UInt8 → List UInt32
  | b0 :: b1 :: b2 :: b3 :: rest =>
    (b0.toUInt32 <<< 24 ||| b1.toUInt32 <<< 16 ||| b2.toUInt32 <<< 8 ||| b3.toUInt32) :: bigEndian rest
  | _ => []

def wordBytes (word : UInt32) : List UInt8 :=
  [(word >>> 24).toUInt8,(word >>> 16).toUInt8,(word >>> 8).toUInt8,word.toUInt8]

def round (s : Chaining) (step : UInt32 × UInt32) : Chaining :=
  let first := s.h + sigma 6 11 25 s.e + (s.e &&& s.f ^^^ ~~~s.e &&& s.g) + step.1 + step.2
  let second := sigma 2 13 22 s.a + (s.a &&& s.b ^^^ s.a &&& s.c ^^^ s.b &&& s.c)
  ⟨first + second,s.a,s.b,s.c,s.d + first,s.e,s.f,s.g⟩

def compress (s : Chaining) (block : List UInt8) : Chaining :=
  let mixed := (roundConstants.zip (extend 48 (bigEndian block).reverse).reverse).foldl round s
  ⟨s.a + mixed.a,s.b + mixed.b,s.c + mixed.c,s.d + mixed.d,s.e + mixed.e,s.f + mixed.f,s.g + mixed.g,s.h + mixed.h⟩

def pad (message : List UInt8) : List UInt8 :=
  let bits := message.length * 8
  message ++ [0x80] ++ List.replicate ((119 - message.length % 64) % 64) 0 ++
    wordBytes (.ofNat (bits / 2 ^ 32)) ++ wordBytes (.ofNat bits)

def absorb : Nat → Chaining → List UInt8 → Chaining
  | 0,s,_ => s
  | blocks + 1,s,bytes => absorb blocks (compress s (bytes.take 64)) (bytes.drop 64)

def digest (message : List UInt8) : List UInt8 :=
  let padded := pad message
  let s := absorb (padded.length / 64) initial padded
  [s.a,s.b,s.c,s.d,s.e,s.f,s.g,s.h].flatMap wordBytes

@[simp] theorem digest_length (message : List UInt8) : (digest message).length = 32 := by
  simp [digest,wordBytes]

example : digest [97,98,99] =
    [0xba,0x78,0x16,0xbf,0x8f,0x01,0xcf,0xea,0x41,0x41,0x40,0xde,0x5d,0xae,0x22,0x23,
     0xb0,0x03,0x61,0xa3,0x96,0x17,0x7a,0x9c,0xb4,0x10,0xff,0x61,0xf2,0x00,0x15,0xad] := by
  decide +kernel

-- Keys up to one block long; a longer one is its own digest.
def hmac (key message : List UInt8) : List UInt8 :=
  let key := if 64 < key.length then digest key else key
  let block := key ++ List.replicate (64 - key.length) 0
  digest (block.map (· ^^^ 0x5c) ++ digest (block.map (· ^^^ 0x36) ++ message))

@[simp] theorem hmac_length (key message : List UInt8) : (hmac key message).length = 32 := by
  simp [hmac]

end Thermometer.Sha256
