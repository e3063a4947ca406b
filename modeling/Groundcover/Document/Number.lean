import Groundcover.Document.Quoted
import Groundcover.Single.Text

/-!
Number literals. Underscores may stand between digits, and a suffix may state the type. Whole
numbers may have a base; numbers with a fraction are decimal or one of the names `inf` and `NaN`.
-/

namespace Groundcover.Document

namespace Number

def isIntegerChar (c : Char) : Bool := (Quoted.hexDigit? c).isSome || c == '_'

def isFloatChar (c : Char) : Bool :=
  c.isDigit || c == 'e' || c == 'E' || c == '.' || c == '+' || c == '-' || c == '_'

/-! Numbers with a fraction -/

/-- The characters of a number with a fraction, and what follows. Two points belong to a range. -/
def floatRun : List Char → List Char × List Char
  | [] => ([], [])
  | '.' :: '.' :: rest => ([], '.' :: '.' :: rest)
  | c :: rest =>
    if isFloatChar c then
      let (run, rest) := floatRun rest
      (c :: run, rest)
    else ([], c :: rest)

/-- The size that the suffix of a number with a fraction states. -/
inductive FloatSize
  | single
  | double
  deriving DecidableEq, Repr

/-- What follows a word at which an identifier could end. -/
def afterWord? (word : String) (s : List Char) : Option (List Char) :=
  (Reader.after? word.toList s).filter Reader.atBoundary

/-- The suffix of a number with a fraction, and what follows it. -/
def floatSuffix? (s : List Char) : Option (FloatSize × List Char) :=
  match afterWord? "f32" s with
  | some rest => some (.single, rest)
  | none => (afterWord? "f64" s).map fun rest => (.double, rest)

/-- A name of an infinity or of NaN with its sign. -/
def named? (s : List Char) : List String → Option ((List Char × Option FloatSize) × List Char)
  | [] => none
  | name :: names =>
    match Reader.after? name.toList s with
    | none => named? s names
    | some rest =>
      if Reader.atBoundary rest then some ((name.toList, none), rest)
      else
        match floatSuffix? rest with
        | some (size, rest) => some ((name.toList, some size), rest)
        | none => named? s names

def names : List String := ["inf", "+inf", "-inf", "NaN", "+NaN", "-NaN"]

/--
The characters without underscores. An underscore may follow a digit, the mark of the exponent or
another underscore, with a sign in between at most.
-/
def withoutUnderscores (allowed : Bool) : List Char → Option (List Char)
  | [] => some []
  | c :: rest =>
    if c = '_' then if allowed then withoutUnderscores true rest else none
    else
      (withoutUnderscores (c ≠ '.' && (allowed || c.isDigit || c == 'e' || c == 'E')) rest).map
        (c :: ·)

/-- A number with a fraction as text for `Single.ofText?`, and the size stated by its suffix. -/
def floatOf (s : List Char) : Except Error ((List Char × Option FloatSize) × List Char) :=
  match named? s names with
  | some found => .ok found
  | none =>
    let (run, rest) := floatRun s
    match withoutUnderscores false run with
    | none => .error .badNumber
    | some text =>
      if (Single.ofText? text).isNone then .error .badNumber
      else
        match floatSuffix? rest with
        | some (size, rest) => .ok ((text, some size), rest)
        | none => .ok ((text, none), rest)

def singleOf (s : List Char) : Except Error (Single × List Char) :=
  match floatOf s with
  | .error e => .error e
  | .ok ((_, some .double), _) => .error .badNumber
  | .ok ((text, _), rest) =>
    match Single.ofText? text with
    | some x => .ok (x, rest)
    | none => .error .badNumber

/-! Whole numbers -/

/-- The type that the suffix of a whole number states. -/
structure IntegerType where
  signed : Bool
  bits : Nat
  deriving DecidableEq, Repr

/-- Whether a number with a sign has a place in the type. -/
def IntegerType.fits (t : IntegerType) (negative : Bool) (value : Nat) : Bool :=
  if t.signed then
    if negative then value ≤ Nat.pow 2 (t.bits - 1) else value < Nat.pow 2 (t.bits - 1)
  else if negative then value == 0 else value < Nat.pow 2 t.bits

def integerTypes : List (String × IntegerType) :=
  [("i8", ⟨true, 8⟩), ("i16", ⟨true, 16⟩), ("i32", ⟨true, 32⟩), ("i64", ⟨true, 64⟩),
   ("u8", ⟨false, 8⟩), ("u16", ⟨false, 16⟩), ("u32", ⟨false, 32⟩), ("u64", ⟨false, 64⟩)]

def integerSuffix? (s : List Char) : List (String × IntegerType) → Option (IntegerType × List Char)
  | [] => none
  | (name, type) :: types =>
    match afterWord? name s with
    | some rest => some (type, rest)
    | none => integerSuffix? s types

/-- A whole number as written. -/
structure Integer where
  negative : Bool
  value : Nat
  type : Option IntegerType
  deriving DecidableEq, Repr

/-- The base that a number announces, and what follows. -/
def baseOf : List Char → Nat × List Char
  | '0' :: 'b' :: rest => (2, rest)
  | '0' :: 'o' :: rest => (8, rest)
  | '0' :: 'x' :: rest => (16, rest)
  | rest => (10, rest)

/-- The value of digits with underscores; a digit that the base lacks stops the reading there. -/
def digitsIn (base value : Nat) : List Char → Except (List Char) Nat
  | [] => .ok value
  | c :: rest =>
    if c = '_' then digitsIn base value rest
    else
      match Quoted.hexDigit? c with
      | some d => if d < base then digitsIn base (value * base + d) rest else .error (c :: rest)
      | none => .error (c :: rest)

/-- A byte between single quotes. -/
def afterByte? : List Char → Option (List Char)
  | 'b' :: '\'' :: '\\' :: 'u' :: _ => none
  | 'b' :: '\'' :: '\\' :: rest =>
    match Quoted.byteEscape rest with
    | .ok (_, '\'' :: rest) => some rest
    | _ => none
  | 'b' :: '\'' :: c :: '\'' :: rest => if c.toNat < 128 then some rest else none
  | _ => none

/-- The sign of a whole number. -/
def signOf : List Char → Bool × List Char
  | '-' :: rest => (true, rest)
  | '+' :: rest => (false, rest)
  | rest => (false, rest)

/-- A whole number without a byte literal. On failure, the text from where reading stopped. -/
def integerOf (s : List Char) : Except (List Char) (Integer × List Char) :=
  let (negative, unsigned) := signOf s
  let (base, digits) := baseOf unsigned
  let run := digits.takeWhile isIntegerChar
  let rest := digits.dropWhile isIntegerChar
  if run.isEmpty || run.head? == some '_' then .error digits
  else
    match digitsIn base 0 run with
    | .error stop => .error (stop ++ rest)
    | .ok value =>
      match integerSuffix? rest integerTypes with
      | some (type, rest) =>
        if type.fits negative value then .ok (⟨negative, value, some type⟩, rest) else .error rest
      | none => .ok (⟨negative, value, none⟩, rest)

def wordType : IntegerType := ⟨false, 32⟩

/-- A natural number below 2^32; a suffix may state no other type. -/
def wordOf (s : List Char) : Except Error (UInt32 × List Char) :=
  match integerOf s with
  | .error _ => .error .badNumber
  | .ok (n, rest) =>
    if n.type.any (· ≠ wordType) then .error .badNumber
    else if wordType.fits n.negative n.value then .ok (.ofNat n.value, rest)
    else .error .outOfRange

/-! Any number -/

/-- The widest whole number that needs no suffix. -/
def widest (negative : Bool) : IntegerType := ⟨negative, 64⟩

/-- What follows a whole number of any type, or where reading stopped. -/
def afterInteger (s : List Char) : Except (List Char) (List Char) :=
  match afterByte? s with
  | some rest => .ok rest
  | none =>
    match integerOf s with
    | .error stop => .error stop
    | .ok (⟨negative, value, none⟩, rest) =>
      if (widest negative).fits negative value then .ok rest else .error rest
    | .ok (_, rest) => .ok rest

/-- Whether a number goes on, by a point or an exponent, where a whole number would end. -/
def hasFraction (s : List Char) : Bool :=
  let unsigned := (signOf s).2
  (unsigned.takeWhile isIntegerChar).length < (floatRun unsigned).1.length

/-- What follows a number. A whole number that is too large is read as one with a fraction. -/
def afterAny (s : List Char) : Except Error (List Char) :=
  if hasFraction s then (floatOf s).map Prod.snd
  else
    match afterInteger s with
    | .ok rest => .ok rest
    | .error stop =>
      match floatOf s with
      | .ok (_, rest) => if rest.length ≤ stop.length then .ok rest else .error .badNumber
      | .error e => .error e

/-! Ranges -/

/-- What follows the end of a range. Only a range that holds its end has to state it. -/
def afterEnd : List Char → Except Error (List Char)
  | '=' :: rest => afterAny rest
  | rest =>
    match afterAny rest with
    | .ok rest => .ok rest
    | .error _ => .ok rest

/-- What follows a range whose start is read already, or its start where no range begins. -/
def afterStart : List Char → Except Error (List Char)
  | '.' :: '.' :: rest => afterEnd rest
  | rest => .ok rest

/-- What follows a number or a range of numbers, which may lack its start. -/
def afterRange : List Char → Except Error (List Char)
  | '.' :: '.' :: rest => afterEnd rest
  | s =>
    match afterAny s with
    | .ok rest => afterStart rest
    | .error e => .error e

end Number

namespace Reader

def single : Reader Single := .ofFunction Number.singleOf

def word32 : Reader UInt32 := .ofFunction Number.wordOf

def bool : Reader Bool := do
  if ← word? "true" then return true
  else if ← word? "false" then return false
  else fail (.expected "true or false")

end Reader

end Groundcover.Document
