import Groundcover.Text.Utf8

/-!
Fingerprints of texts: a hash of 64 bits over the bytes, which serves as a key for compiled
programs. Short texts are folded into two words; longer ones mix in sixteen bytes at a time, and the
last sixteen bytes in the end.
-/

namespace Groundcover.Fingerprint

/-- The two halves of the product of 128 bits, joined. -/
def mix (x y : UInt64) : UInt64 :=
  let product := x.toNat * y.toNat
  .ofNat product ^^^ .ofNat (product / 0x10000000000000000)

/-- The number that bytes stand for, the least significant byte first. -/
def word (bytes : List UInt8) : UInt64 :=
  bytes.foldr (fun b value => value * 256 + b.toUInt64) 0

/-- The state before the first byte. -/
def seed : UInt64 × UInt64 := (0x243f6a8885a308d3, 0x13198a2e03707344)

/-- Mixes in chunks of sixteen bytes, as many as asked for. -/
def mixChunks : Nat → List UInt8 → UInt64 × UInt64 → UInt64 × UInt64
  | 0, _, state => state
  | n + 1, bytes, (s, t) =>
    mixChunks n (bytes.drop 16)
      (t, mix (s ^^^ word (bytes.take 8)) (0xa4093822299f31d0 ^^^ word ((bytes.drop 8).take 8)))

/-- Folds in the words at both ends of the bytes, which may overlap. -/
def fold (bytes : List UInt8) (size : Nat) (state : UInt64 × UInt64) : UInt64 × UInt64 :=
  (state.1 ^^^ word (bytes.take size),
    state.2 ^^^ word ((bytes.drop (bytes.length - size)).take size))

/-- The state after all bytes. -/
def absorb (bytes : List UInt8) : UInt64 × UInt64 :=
  let n := bytes.length
  if 16 < n then
    let (s, t) := mixChunks ((n - 1) / 16) bytes seed
    let last := bytes.drop (n - 16)
    (s ^^^ word (last.take 8), t ^^^ word (last.drop 8))
  else if 8 ≤ n then fold bytes 8 seed
  else if 4 ≤ n then fold bytes 4 seed
  else
    match bytes with
    | [] => seed
    | first :: _ =>
      (seed.1 ^^^ first.toUInt64, seed.2 ^^^ word [bytes.getD (n / 2) 0, bytes.getD (n - 1) 0])

def ofBytes (bytes : List UInt8) : UInt64 :=
  let (s, t) := absorb bytes
  let h := (mix s t ^^^ .ofNat bytes.length) * 0xf1357aea2e62a9c5
  h <<< 26 ||| h >>> 38

/-- The fingerprint of a text. -/
def ofText (text : String) : UInt64 := ofBytes (Text.Utf8.encode text)

/-- Sixteen hexadecimal digits. -/
def text (fingerprint : UInt64) : String :=
  let digits := Nat.toDigits 16 fingerprint.toNat
  .ofList (List.replicate (16 - digits.length) '0' ++ digits)

end Groundcover.Fingerprint
