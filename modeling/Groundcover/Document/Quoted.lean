import Groundcover.Document.Reader
import Groundcover.Text.Utf8

/-!
Text, character and byte literals. Between double quotes a backslash begins an escape; a raw text
stands between quotes with the same number of hash signs and has no escapes.
-/

namespace Groundcover.Document

namespace Quoted

def hexDigit? (c : Char) : Option Nat :=
  if c.isDigit then some (c.toNat - '0'.toNat)
  else if 'a' ≤ c ∧ c ≤ 'f' then some (c.toNat - 'a'.toNat + 10)
  else if 'A' ≤ c ∧ c ≤ 'F' then some (c.toNat - 'A'.toNat + 10)
  else none

/-- The byte of two hexadecimal digits. -/
def byteOf : List Char → Except Error (UInt8 × List Char)
  | high :: low :: rest =>
    match hexDigit? high, hexDigit? low with
    | some h, some l => .ok (.ofNat (h * 16 + l), rest)
    | _, _ => .error .badEscape
  | _ => .error .unexpectedEnd

/-- Further byte escapes, one in each range. -/
def bytesIn : List (UInt8 × UInt8) → List Char → Except Error (List UInt8 × List Char)
  | [], s => .ok ([], s)
  | (low, high) :: ranges, '\\' :: 'x' :: s =>
    match byteOf s with
    | .error e => .error e
    | .ok (b, s) =>
      if low ≤ b && b ≤ high then (bytesIn ranges s).map fun (bs, s) => (b :: bs, s)
      else .error .badEscape
  | _, _ => .error .badEscape

/-- The character whose encoding begins with a byte; the other bytes follow as
escapes of their own. -/
def charOfBytes (lead : UInt8) (s : List Char) : Except Error (Char × List Char) :=
  match Text.Utf8.followers lead with
  | none => .error .badEscape
  | some ranges => (bytesIn ranges s).map fun (bytes, s) => ((Text.Utf8.firstChar lead bytes).1, s)

/-- Hexadecimal digits up to a closing brace, at most so many. -/
def codeOf : Nat → Nat → List Char → Except Error (Nat × List Char)
  | _, code, '\x7d' :: rest => .ok (code, rest)
  | more + 1, code, c :: rest =>
    match hexDigit? c with
    | some d => codeOf more (code * 16 + d) rest
    | none => .error .badEscape
  | _, _, _ => .error .badEscape

/-- The character of a code point between braces. -/
def charOfCode : List Char → Except Error (Char × List Char)
  | '\x7b' :: '\x7d' :: _ => .error .badEscape
  | '\x7b' :: rest =>
    match codeOf 6 0 rest with
    | .error e => .error e
    | .ok (code, rest) =>
      if h : code.isValidChar then .ok (.ofNatAux code h, rest) else .error .badEscape
  | _ => .error .badEscape

/-- The character that an escape behind a backslash stands for. -/
def escape : List Char → Except Error (Char × List Char)
  | '\'' :: rest => .ok ('\'', rest)
  | '"' :: rest => .ok ('"', rest)
  | '\\' :: rest => .ok ('\\', rest)
  | 'n' :: rest => .ok ('\n', rest)
  | 'r' :: rest => .ok ('\r', rest)
  | 't' :: rest => .ok ('\t', rest)
  | '0' :: rest => .ok ('\x00', rest)
  | 'x' :: rest =>
    match byteOf rest with
    | .error e => .error e
    | .ok (b, rest) => charOfBytes b rest
  | 'u' :: rest => charOfCode rest
  | [] => .error .unexpectedEnd
  | _ => .error .badEscape

/-- The same among bytes, where a byte escape stands for itself. -/
def byteEscape : List Char → Except Error (Unit × List Char)
  | 'x' :: rest => (byteOf rest).map fun (_, rest) => ((), rest)
  | rest => (escape rest).map fun (_, rest) => ((), rest)

/-- What a backslash at the end of a line leaves out of the text. -/
def isFolded (c : Char) : Bool := c == ' ' || c == '\t' || c == '\n' || c == '\r'

/-- The text up to the closing quote, which goes too. Every step takes a character. -/
def closing : Nat → List Char → Except Error (List Char × List Char)
  | _ + 1, '"' :: rest => .ok ([], rest)
  | fuel + 1, '\\' :: '\n' :: rest => closing fuel (rest.dropWhile isFolded)
  | fuel + 1, '\\' :: '\r' :: '\n' :: rest => closing fuel (rest.dropWhile isFolded)
  | fuel + 1, '\\' :: rest =>
    match escape rest with
    | .error e => .error e
    | .ok (c, rest) => (closing fuel rest).map fun (text, rest) => (c :: text, rest)
  | fuel + 1, c :: rest => (closing fuel rest).map fun (text, rest) => (c :: text, rest)
  | _, _ => .error .unclosedText

/-- What follows the closing quote of bytes. -/
def closingBytes : Nat → List Char → Except Error (List Char)
  | _ + 1, '"' :: rest => .ok rest
  | fuel + 1, '\\' :: '\n' :: rest => closingBytes fuel (rest.dropWhile isFolded)
  | fuel + 1, '\\' :: '\r' :: '\n' :: rest => closingBytes fuel (rest.dropWhile isFolded)
  | fuel + 1, '\\' :: rest =>
    match byteEscape rest with
    | .error e => .error e
    | .ok (_, rest) => closingBytes fuel rest
  | fuel + 1, _ :: rest => closingBytes fuel rest
  | _, _ => .error .unclosedText

/-- The text up to a closing mark. -/
def upTo (mark : List Char) : List Char → Except Error (List Char × List Char)
  | [] => .error .unclosedText
  | c :: rest =>
    match Reader.after? mark (c :: rest) with
    | some rest => .ok ([], rest)
    | none => (upTo mark rest).map fun (text, rest) => (c :: text, rest)

/-- A raw text behind the letter that announces it. -/
def raw (s : List Char) : Except Error (List Char × List Char) :=
  let hashes := s.takeWhile (· == '#')
  match s.dropWhile (· == '#') with
  | '"' :: rest => upTo ('"' :: hashes) rest
  | _ => .error (.expected "a text")

/-- A text of either form. -/
def textOf : List Char → Except Error (List Char × List Char)
  | '"' :: rest => closing (rest.length + 1) rest
  | 'r' :: rest => raw rest
  | _ => .error (.expected "a text")

/-- The same in a character literal, where byte escapes do not join: one stands for ASCII. -/
def charEscape : List Char → Except Error (Char × List Char)
  | 'x' :: rest =>
    match byteOf rest with
    | .error e => .error e
    | .ok (b, rest) => if b < 128 then .ok (.ofNat b.toNat, rest) else .error .badEscape
  | rest => escape rest

/-- A character between single quotes. -/
def afterChar : List Char → Except Error (List Char)
  | '\'' :: '\\' :: rest =>
    match charEscape rest with
    | .ok (_, '\'' :: rest) => .ok rest
    | _ => .error .badEscape
  | '\'' :: _ :: '\'' :: rest => .ok rest
  | _ => .error (.expected "a character")

/-- Bytes between double quotes, with or without escapes. -/
def afterBytes : List Char → Except Error (List Char)
  | 'b' :: '"' :: rest => closingBytes (rest.length + 1) rest
  | 'b' :: 'r' :: rest => (raw rest).map Prod.snd
  | _ => .error (.expected "bytes")

end Quoted

/-- Takes a text. -/
def Reader.text : Reader String :=
  .ofFunction fun s => (Quoted.textOf s).map fun (text, rest) => (.ofList text, rest)

end Groundcover.Document
