/-!
The 64-bit xxHash of a byte sequence with seed 0. Stripes of four words go through four lanes, the
words, the half word and the bytes left over go through one accumulator, and the result is mixed.
-/

namespace ShardRouting

def rotateLeft (x n : UInt64) : UInt64 := x <<< n ||| x >>> (64 - n)

namespace XxHash64

def prime1 : UInt64 := 0x9E3779B185EBCA87

def prime2 : UInt64 := 0xC2B2AE3D27D4EB4F

def prime3 : UInt64 := 0x165667B19E3779F9

def prime4 : UInt64 := 0x85EBCA77C2B2AE63

def prime5 : UInt64 := 0x27D4EB2F165667C5

def littleEndian (bytes : List UInt8) : UInt64 :=
  bytes.foldr (fun b n => n <<< 8 ||| b.toUInt64) 0

def words : List UInt8 → List UInt64 × List UInt8
  | a :: b :: c :: d :: e :: f :: g :: h :: rest =>
    let (ws, left) := words rest
    (littleEndian [a, b, c, d, e, f, g, h] :: ws, left)
  | left => ([], left)

def round (lane word : UInt64) : UInt64 := rotateLeft (lane + word * prime2) 31 * prime1

structure Lanes where
  first : UInt64 := prime1 + prime2
  second : UInt64 := prime2
  third : UInt64 := 0
  fourth : UInt64 := 0 - prime1

def Lanes.absorb (l : Lanes) : List UInt64 → Lanes × List UInt64
  | a :: b :: c :: d :: rest =>
    Lanes.absorb ⟨round l.first a, round l.second b, round l.third c, round l.fourth d⟩ rest
  | left => (l, left)

def mergeLane (h lane : UInt64) : UInt64 := (h ^^^ round 0 lane) * prime1 + prime4

def Lanes.join (l : Lanes) : UInt64 :=
  [l.first, l.second, l.third, l.fourth].foldl mergeLane
    (rotateLeft l.first 1 + rotateLeft l.second 7 + rotateLeft l.third 12 + rotateLeft l.fourth 18)

def takeWord (h word : UInt64) : UInt64 := rotateLeft (h ^^^ round 0 word) 27 * prime1 + prime4

def takeHalfWord (h word : UInt64) : UInt64 := rotateLeft (h ^^^ word * prime1) 23 * prime2 + prime3

def takeByte (h : UInt64) (b : UInt8) : UInt64 := rotateLeft (h ^^^ b.toUInt64 * prime5) 11 * prime1

def takeRest (h : UInt64) : List UInt8 → UInt64
  | a :: b :: c :: d :: rest => rest.foldl takeByte (takeHalfWord h (littleEndian [a, b, c, d]))
  | rest => rest.foldl takeByte h

def mix (h : UInt64) : UInt64 :=
  let h := (h ^^^ h >>> 33) * prime2
  let h := (h ^^^ h >>> 29) * prime3
  h ^^^ h >>> 32

end XxHash64

open XxHash64 in
def xxHash64 (bytes : List UInt8) : UInt64 :=
  let (ws, left) := words bytes
  let (h, ws) :=
    if 4 ≤ ws.length then
      let (lanes, ws) := Lanes.absorb {} ws
      (lanes.join, ws)
    else (prime5, ws)
  mix (takeRest (ws.foldl takeWord (h + UInt64.ofNat bytes.length)) left)

end ShardRouting
