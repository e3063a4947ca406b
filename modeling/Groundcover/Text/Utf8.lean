/-!
Bytes as text. `Utf8.decode?` accepts exactly the encodings of strings; `Utf8.lossy` reads
any bytes, with one replacement character for each longest beginning of an encoding that
stays incomplete.
-/

namespace Groundcover.Text.Utf8

/-- The bytes of a text. -/
def encode (text : String) : List UInt8 := text.toUTF8.data.toList

/-- The text whose encoding the bytes are. -/
def decode? (bytes : List UInt8) : Option String := String.fromUTF8? ⟨⟨bytes⟩⟩

/-- The ranges of the bytes that have to follow a leading byte, if it begins a character. -/
def followers (lead : UInt8) : Option (List (UInt8 × UInt8)) :=
  if lead < 0x80 then some []
  else if lead < 0xc2 then none
  else if lead < 0xe0 then some [(0x80, 0xbf)]
  else if lead = 0xe0 then some [(0xa0, 0xbf), (0x80, 0xbf)]
  else if lead = 0xed then some [(0x80, 0x9f), (0x80, 0xbf)]
  else if lead < 0xf0 then some [(0x80, 0xbf), (0x80, 0xbf)]
  else if lead = 0xf0 then some [(0x90, 0xbf), (0x80, 0xbf), (0x80, 0xbf)]
  else if lead < 0xf4 then some [(0x80, 0xbf), (0x80, 0xbf), (0x80, 0xbf)]
  else if lead = 0xf4 then some [(0x80, 0x8f), (0x80, 0xbf), (0x80, 0xbf)]
  else none

/-- How many bytes, one after the other, lie in the ranges asked for. -/
def matching : List (UInt8 × UInt8) → List UInt8 → Nat
  | (low, high) :: ranges, b :: bytes =>
    if low ≤ b && b ≤ high then matching ranges bytes + 1 else 0
  | _, _ => 0

/-- The bits that a leading byte gives to a character with the number of bytes that follow it. -/
def leadBits (lead : UInt8) : Nat → Nat
  | 0 => lead.toNat
  | 1 => lead.toNat % 32
  | 2 => lead.toNat % 16
  | _ => lead.toNat % 8

/-- One character, or the replacement character, and the number of bytes that it stands for. -/
def firstChar (lead : UInt8) (bytes : List UInt8) : Char × Nat :=
  match followers lead with
  | none => ('\ufffd', 1)
  | some ranges =>
    let length := matching ranges bytes
    if length = ranges.length then
      (.ofNat ((bytes.take length).foldl (fun value b => value * 64 + b.toNat % 64)
        (leadBits lead length)), length + 1)
    else ('\ufffd', length + 1)

/-- The characters of the bytes; each takes at least one byte. -/
def lossyFrom : Nat → List UInt8 → List Char
  | fuel + 1, lead :: bytes =>
    let (c, length) := firstChar lead bytes
    c :: lossyFrom fuel (bytes.drop (length - 1))
  | _, _ => []

/-- Any bytes as text. -/
def lossy (bytes : List UInt8) : String := .ofList (lossyFrom bytes.length bytes)

end Groundcover.Text.Utf8
