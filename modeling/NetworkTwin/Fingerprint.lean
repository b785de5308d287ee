import NetworkTwin.Text.Numeral

/-!
The 64-bit xxHash of a byte string, and the identifiers made from it. All arithmetic wraps at
64 bits. A text is hashed as its UTF-8 bytes.
-/

namespace NetworkTwin.Fingerprint

private def prime₁ : UInt64 := 11400714785074694791
private def prime₂ : UInt64 := 14029467366897019727
private def prime₃ : UInt64 := 1609587929392839161
private def prime₄ : UInt64 := 9650029242287828579
private def prime₅ : UInt64 := 2870177450012600261

def rotate (word amount : UInt64) : UInt64 :=
  (word <<< amount) ||| (word >>> (64 - amount))

def word (bytes : List UInt8) : UInt64 :=
  bytes.foldr (fun byte rest => (rest <<< 8) ||| byte.toUInt64) 0

def mix (accumulator input : UInt64) : UInt64 :=
  rotate (accumulator + input * prime₂) 31 * prime₁

structure Lanes where
  first : UInt64
  second : UInt64
  third : UInt64
  fourth : UInt64

def Lanes.start (seed : UInt64) : Lanes :=
  ⟨seed + prime₁ + prime₂, seed + prime₂, seed, seed - prime₁⟩

/-- Takes in a number of stripes of 32 bytes, a word of 8 bytes for each lane. -/
def Lanes.absorb : Nat → Lanes → List UInt8 → Lanes
  | 0, lanes, _ => lanes
  | stripes + 1, lanes, bytes =>
      Lanes.absorb stripes
        ⟨mix lanes.first (word (bytes.take 8)),
          mix lanes.second (word ((bytes.drop 8).take 8)),
          mix lanes.third (word ((bytes.drop 16).take 8)),
          mix lanes.fourth (word ((bytes.drop 24).take 8))⟩
        (bytes.drop 32)

def joinLane (hash lane : UInt64) : UInt64 := (hash ^^^ mix 0 lane) * prime₁ + prime₄

def Lanes.join (lanes : Lanes) : UInt64 :=
  let joined := rotate lanes.first 1 + rotate lanes.second 7 + rotate lanes.third 12 +
    rotate lanes.fourth 18
  joinLane (joinLane (joinLane (joinLane joined lanes.first) lanes.second) lanes.third) lanes.fourth

def takeWords : Nat → UInt64 → List UInt8 → UInt64
  | 0, hash, _ => hash
  | count + 1, hash, bytes =>
      takeWords count (rotate (hash ^^^ mix 0 (word (bytes.take 8))) 27 * prime₁ + prime₄)
        (bytes.drop 8)

/-- Takes in the bytes that are left, fewer than eight: four at once if there are as many. -/
def takeRest (hash : UInt64) (bytes : List UInt8) : UInt64 :=
  let (hash, bytes) :=
    if 4 ≤ bytes.length then
      (rotate (hash ^^^ (word (bytes.take 4) * prime₁)) 23 * prime₂ + prime₃, bytes.drop 4)
    else (hash, bytes)
  bytes.foldl (fun hash byte => rotate (hash ^^^ (byte.toUInt64 * prime₅)) 11 * prime₁) hash

def avalanche (hash : UInt64) : UInt64 :=
  let hash := (hash ^^^ (hash >>> 33)) * prime₂
  let hash := (hash ^^^ (hash >>> 29)) * prime₃
  hash ^^^ (hash >>> 32)

def hash (seed : UInt64) (bytes : List UInt8) : UInt64 :=
  let size := bytes.length
  let stripes := size / 32
  let start := if stripes = 0 then seed + prime₅
    else ((Lanes.start seed).absorb stripes bytes).join
  let rest := bytes.drop (32 * stripes)
  let words := rest.length / 8
  let hash := takeWords words (start + UInt64.ofNat size) rest
  avalanche (takeRest hash (rest.drop (8 * words)))

/-- The seed of every identifier: the letters of "twin" as a big-endian word. -/
def seed : UInt64 := 0x7477696e

/-- A word as 16 hexadecimal digits, the letters in lower case. -/
def hex (word : UInt64) : String := Text.fixedDigits 16 16 word.toNat

def ofKey (key : String) : String := hex (hash seed key.toUTF8.toList)

end NetworkTwin.Fingerprint
