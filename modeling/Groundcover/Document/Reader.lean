import Groundcover.Text.Identifier

/-!
Readers of RON documents. A reader takes a value from the front of the text and leaves the rest; it
may ask which extensions of the format the document has switched on.
-/

namespace Groundcover.Document

/-- Why a document cannot be read. -/
inductive Error
  | unexpectedEnd
  | expected (what : String)
  | unclosedComment
  | unclosedText
  | badEscape
  | badNumber
  | outOfRange
  | unknownExtension (name : String)
  | wrongName (wanted found : String)
  | duplicateField (name : String)
  | missingField (name : String)
  | unknownVariant (name : String)
  | tooDeep
  | trailingText
  deriving DecidableEq, Repr

/-- The extensions that a document switches on. -/
structure Dialect where
  unwrapNewtypes : Bool := false
  implicitSome : Bool := false
  unwrapVariants : Bool := false
  explicitNames : Bool := false
  deriving DecidableEq, Repr

/-- A way to take a value from the front of a text. -/
def Reader (α : Type) : Type := Dialect → List Char → Except Error (α × List Char)

namespace Reader

variable {α β : Type}

instance : Monad Reader where
  pure a := fun _ s => .ok (a, s)
  bind r f := fun d s =>
    match r d s with
    | .error e => .error e
    | .ok (a, rest) => f a d rest

def fail (e : Error) : Reader α := fun _ _ => .error e

/-- The extensions in force. -/
def dialect : Reader Dialect := fun d s => .ok (d, s)

/-- A reader from a function on the text. -/
def ofFunction (f : List Char → Except Error (α × List Char)) : Reader α := fun _ s => f s

/-- What follows the given characters, if the text begins with them. -/
def after? : List Char → List Char → Option (List Char)
  | [], s => some s
  | _ :: _, [] => none
  | w :: ws, c :: s => if w = c then after? ws s else none

/-- Whether an identifier could not go on here. -/
def atBoundary : List Char → Bool
  | [] => true
  | c :: _ => !Text.Identifier.continues c

/-- Takes the given word if it comes next and ends there. -/
def word? (word : String) : Reader Bool := fun _ s =>
  match after? word.toList s with
  | some rest => if atBoundary rest then .ok (true, rest) else .ok (false, s)
  | none => .ok (false, s)

/-- Whether the character comes next; nothing is taken. -/
def isNext (c : Char) : Reader Bool := fun _ s => .ok (s.head? == some c, s)

/-- Takes the character if it comes next. -/
def char? (c : Char) : Reader Bool := fun _ s =>
  match s with
  | [] => .ok (false, [])
  | d :: rest => if d = c then .ok (true, rest) else .ok (false, s)

def expect (c : Char) : Reader Unit := do
  unless ← char? c do fail (.expected (String.singleton c))

/-! Blank space -/

/-- The characters that may stand between any two parts of a document. -/
def isSpace (c : Char) : Bool :=
  [' ', '\t', '\n', '\r', '\x0b', '\x0c', '\u0085', '\u200e', '\u200f', '\u2028',
    '\u2029'].contains c

/-- What follows a block comment, inside of which `depth` further comments are open. -/
def afterComment : Nat → List Char → Option (List Char)
  | depth, '/' :: '*' :: rest => afterComment (depth + 1) rest
  | 0, '*' :: '/' :: rest => some rest
  | depth + 1, '*' :: '/' :: rest => afterComment depth rest
  | depth, _ :: rest => afterComment depth rest
  | _, [] => none

/-- Drops space and comments from the front, comment by comment. -/
def dropBlank : Nat → List Char → Except Error (List Char)
  | 0, s => .ok s
  | fuel + 1, s =>
    match s.dropWhile isSpace with
    | '/' :: '/' :: rest => dropBlank fuel (rest.dropWhile (· ≠ '\n'))
    | '/' :: '*' :: rest =>
      match afterComment 0 rest with
      | some rest => dropBlank fuel rest
      | none => .error .unclosedComment
    | '/' :: _ => .error (.expected "a comment")
    | rest => .ok rest

/-- Takes space and comments, of which there are no more than characters. -/
def blank : Reader Unit := fun _ s => (dropBlank (s.length + 1) s).map fun rest => ((), rest)

/-- Takes a comma with the space around it; without a comma, the space before it. -/
def comma : Reader Bool := do
  blank
  if ← char? ',' then
    blank
    return true
  else return false

/-! Items between commas -/

/--
Items up to a closing character, which stays. A comma separates items and may follow the last one.
-/
def foldItems (item : β → Reader β) (close : Char) : Nat → β → Reader β
  | 0, _ => fail .unexpectedEnd
  | fuel + 1, b => do
    blank
    if ← isNext close then return b
    let b ← item b
    if ← comma then foldItems item close fuel b
    else if ← isNext close then return b
    else fail (.expected ",")

/-- Every item with its comma takes a character at least, so the text's length bounds the items. -/
def items (item : β → Reader β) (close : Char) (start : β) : Reader β := fun d s =>
  foldItems item close (s.length + 1) start d s

/-! Identifiers -/

/-- Whether a raw identifier may hold the character. -/
def continuesRaw (c : Char) : Bool :=
  c == '.' || c == '+' || c == '-' || Text.Identifier.continues c

/-- Whether a text or byte literal begins here, which is not to be taken for an identifier. -/
def beginsLiteral (s : List Char) : Bool :=
  ["b\"", "b'", "br#", "br\"", "r\"", "r#\"", "r##"].any fun mark => mark.toList.isPrefixOf s

/-- An identifier, plain or raw; a plain one may not touch what only a raw one could hold. -/
def identifierOf : List Char → Except Error (List Char × List Char)
  | [] => .error .unexpectedEnd
  | c :: s =>
    if !Text.Identifier.begins c || beginsLiteral (c :: s) then .error (.expected "an identifier")
    else
      match after? ['r', '#'] (c :: s) with
      | some raw =>
        if (raw.takeWhile continuesRaw).isEmpty then .error (.expected "an identifier")
        else .ok (raw.takeWhile continuesRaw, raw.dropWhile continuesRaw)
      | none =>
        let rest := s.dropWhile Text.Identifier.continues
        if rest.head?.any continuesRaw then .error (.expected "an identifier")
        else .ok (c :: s.takeWhile Text.Identifier.continues, rest)

def identifier : Reader String :=
  ofFunction fun s => (identifierOf s).map fun (name, rest) => (.ofList name, rest)

/-- What follows the identifier that the text begins with, if it begins with one. -/
def afterIdentifier? (s : List Char) : Option (List Char) :=
  if beginsLiteral s then none
  else
    match after? ['r', '#'] s with
    | some raw =>
      if (raw.takeWhile continuesRaw).isEmpty then none else some (raw.dropWhile continuesRaw)
    | none =>
      match s with
      | [] => none
      | c :: rest =>
        if Text.Identifier.begins c then some (rest.dropWhile Text.Identifier.continues) else none

end Reader

end Groundcover.Document
