import ModelRouter.Bytes

namespace ModelRouter.Sha256

open Bytes

def roundConstants : List UInt32 :=
  [0x428a2f98, 0x71374491, 0xb5c0fbcf, 0xe9b5dba5, 0x3956c25b, 0x59f111f1, 0x923f82a4,
    0xab1c5ed5, 0xd807aa98, 0x12835b01, 0x243185be, 0x550c7dc3, 0x72be5d74, 0x80deb1fe,
    0x9bdc06a7, 0xc19bf174, 0xe49b69c1, 0xefbe4786, 0x0fc19dc6, 0x240ca1cc, 0x2de92c6f,
    0x4a7484aa, 0x5cb0a9dc, 0x76f988da, 0x983e5152, 0xa831c66d, 0xb00327c8, 0xbf597fc7,
    0xc6e00bf3, 0xd5a79147, 0x06ca6351, 0x14292967, 0x27b70a85, 0x2e1b2138, 0x4d2c6dfc,
    0x53380d13, 0x650a7354, 0x766a0abb, 0x81c2c92e, 0x92722c85, 0xa2bfe8a1, 0xa81a664b,
    0xc24b8b70, 0xc76c51a3, 0xd192e819, 0xd6990624, 0xf40e3585, 0x106aa070, 0x19a4c116,
    0x1e376c08, 0x2748774c, 0x34b0bcb5, 0x391c0cb3, 0x4ed8aa4a, 0x5b9cca4f, 0x682e6ff3,
    0x748f82ee, 0x78a5636f, 0x84c87814, 0x8cc70208, 0x90befffa, 0xa4506ceb, 0xbef9a3f7,
    0xc67178f2]

def rotr (value bits : UInt32) : UInt32 :=
  (value >>> bits) ||| (value <<< (32 - bits))

structure Words where
  a : UInt32
  b : UInt32
  c : UInt32
  d : UInt32
  e : UInt32
  f : UInt32
  g : UInt32
  h : UInt32
deriving DecidableEq, Repr

def initialWords : Words where
  a := 0x6a09e667
  b := 0xbb67ae85
  c := 0x3c6ef372
  d := 0xa54ff53a
  e := 0x510e527f
  f := 0x9b05688c
  g := 0x1f83d9ab
  h := 0x5be0cd19

def Words.add (s t : Words) : Words where
  a := s.a + t.a
  b := s.b + t.b
  c := s.c + t.c
  d := s.d + t.d
  e := s.e + t.e
  f := s.f + t.f
  g := s.g + t.g
  h := s.h + t.h

def Words.toList (s : Words) : List UInt32 :=
  [s.a, s.b, s.c, s.d, s.e, s.f, s.g, s.h]

def loadWord (block : List UInt8) (index : Nat) : UInt32 :=
  let byte (offset : Nat) : UInt32 := (block.getD (index * 4 + offset) 0).toUInt32
  (byte 0 <<< 24) ||| (byte 1 <<< 16) ||| (byte 2 <<< 8) ||| byte 3

def extendSchedule (schedule : List UInt32) (index : Nat) : List UInt32 :=
  let word (back : Nat) : UInt32 := schedule.getD (index - back) 0
  let s0 := rotr (word 15) 7 ^^^ rotr (word 15) 18 ^^^ (word 15 >>> 3)
  let s1 := rotr (word 2) 17 ^^^ rotr (word 2) 19 ^^^ (word 2 >>> 10)
  schedule ++ [word 16 + s0 + word 7 + s1]

def schedule (block : List UInt8) : List UInt32 :=
  ((List.range 48).map (· + 16)).foldl extendSchedule ((List.range 16).map (loadWord block))

def round (s : Words) (input : UInt32 × UInt32) : Words :=
  let s1 := rotr s.e 6 ^^^ rotr s.e 11 ^^^ rotr s.e 25
  let ch := (s.e &&& s.f) ^^^ (~~~s.e &&& s.g)
  let temp1 := s.h + s1 + ch + input.1 + input.2
  let s0 := rotr s.a 2 ^^^ rotr s.a 13 ^^^ rotr s.a 22
  let maj := (s.a &&& s.b) ^^^ (s.a &&& s.c) ^^^ (s.b &&& s.c)
  { a := temp1 + (s0 + maj), b := s.a, c := s.b, d := s.c
    e := s.d + temp1, f := s.e, g := s.f, h := s.g }

def transform (state : Words) (block : List UInt8) : Words :=
  state.add ((roundConstants.zip (schedule block)).foldl round state)

/-- The hash object between two updates; `buffer` holds the bytes of the open block. -/
structure Hasher where
  state : Words := initialWords
  totalBytes : UInt64 := 0
  buffer : List UInt8 := []
deriving DecidableEq, Repr

def transformBlocks : Nat → Words → List UInt8 → Words × List UInt8
  | 0, state, bytes => (state, bytes)
  | count + 1, state, bytes =>
    if bytes.length < 64 then (state, bytes)
    else transformBlocks count (transform state (bytes.take 64)) (bytes.drop 64)

def Hasher.update (h : Hasher) (bytes : List UInt8) : Hasher :=
  if bytes.isEmpty then h
  else
    let taken := if h.buffer.isEmpty then 0 else min bytes.length (64 - h.buffer.length)
    let filled := h.buffer ++ bytes.take taken
    let (state, buffer) :=
      if filled.length = 64 then (transform h.state filled, []) else (h.state, filled)
    let (state, rest) := transformBlocks ((bytes.length - taken) / 64) state (bytes.drop taken)
    { state := state
      totalBytes := h.totalBytes + bytes.length.toUInt64
      buffer := if rest.isEmpty then buffer else rest }

def bigEndian64 (value : UInt64) : List UInt8 :=
  (List.range 8).map fun index => (value >>> ((7 - index) * 8).toUInt64).toUInt8

def bigEndian32 (value : UInt32) : List UInt8 :=
  (List.range 4).map fun index => (value >>> ((3 - index) * 8).toUInt32).toUInt8

def Hasher.finish (h : Hasher) : List UInt8 :=
  let padLength := if h.buffer.length < 56 then 56 - h.buffer.length else 120 - h.buffer.length
  let padded := h.update ((0x80 : UInt8) :: List.replicate (padLength - 1) 0)
  let closed := padded.update (bigEndian64 (h.totalBytes * 8))
  closed.state.toList.flatMap bigEndian32

def sha256 (bytes : List UInt8) : List UInt8 :=
  (({} : Hasher).update bytes).finish

def hexDigit (nibble : UInt8) : UInt8 :=
  (text "0123456789abcdef").getD nibble.toNat 0

def toHex (digest : List UInt8) : Text :=
  digest.flatMap fun (byte : UInt8) => [hexDigit (byte >>> 4), hexDigit (byte &&& 0x0f)]

def hexDigest (canonical : Text) : Text :=
  toHex (sha256 canonical)

end ModelRouter.Sha256
