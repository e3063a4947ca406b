import Groundcover.Log

/-!
Log records as lines: for the console, where no character may steer the terminal, and for the log
file, where each line is a JSON object.
-/

namespace Groundcover

namespace Log

/-- A hexadecimal number with at least so many digits. -/
def hex (width n : Nat) : List Char :=
  let digits := Nat.toDigits 16 n
  List.replicate (width - digits.length) '0' ++ digits

/-- Whether a terminal could take the character for a command. -/
def steers (c : Char) : Bool := ['\x07', '\x08', '\x0c', '\x1b', '\x7f'].contains c

/-- A character as the console shows it. -/
def consoleChar (c : Char) : List Char :=
  if steers c then '\\' :: 'x' :: hex 2 c.toNat
  else if 0x80 ≤ c.toNat ∧ c.toNat ≤ 0x9f then
    '\\' :: 'u' :: '\x7b' :: hex 1 c.toNat ++ ['\x7d']
  else [c]

def consoleText (text : String) : String := .ofList (text.toList.flatMap consoleChar)

/-- A character inside a JSON string. -/
def jsonChar (c : Char) : List Char :=
  match c with
  | '"' => ['\\', '"']
  | '\\' => ['\\', '\\']
  | '\n' => ['\\', 'n']
  | '\r' => ['\\', 'r']
  | '\t' => ['\\', 't']
  | '\x08' => ['\\', 'b']
  | '\x0c' => ['\\', 'f']
  | c => if c.toNat < 32 then '\\' :: 'u' :: hex 4 c.toNat else [c]

def jsonText (text : String) : String :=
  .ofList ('"' :: text.toList.flatMap jsonChar ++ ['"'])

def jsonField (name value : String) : String := jsonText name ++ ":" ++ value

def jsonObject (fields : List String) : String := "\x7b" ++ ",".intercalate fields ++ "\x7d"

/-- The time since the start, in seconds with nine places. -/
def uptime (nanoseconds : Nat) : String :=
  let seconds := Nat.toDigits 10 (nanoseconds / 1000000000)
  let rest := Nat.toDigits 10 (nanoseconds % 1000000000)
  .ofList (List.replicate (4 - seconds.length) ' ' ++ seconds ++ '.'
    :: List.replicate (9 - rest.length) '0' ++ rest ++ ['s'])

end Log

namespace Record

/-- The record on the console. -/
def consoleLine (r : Record) : String :=
  r.level.name ++ " main " ++ r.origin.target ++ ": " ++ Log.consoleText r.text

/-- The record in the log file. -/
def jsonLine (r : Record) (time : String) : String :=
  Log.jsonObject [Log.jsonField "timestamp" (Log.jsonText time),
    Log.jsonField "level" (Log.jsonText r.level.name),
    Log.jsonField "fields" (Log.jsonObject [Log.jsonField "message" (Log.jsonText r.text)]),
    Log.jsonField "target" (Log.jsonText r.origin.target)]

end Record

end Groundcover
