import Groundcover.Document.Number

/-!
Values of fields that nobody asked for. Such a value may be anything, but it has to be well formed,
and values may not be nested too deeply.
-/

namespace Groundcover.Document

/-- How deep values may be nested. -/
def maxDepth : Nat := 128

namespace Reader

/-- Takes what a function leaves out of the text. -/
def skipBy (f : List Char → Except Error (List Char)) : Reader Unit :=
  .ofFunction fun s => (f s).map fun rest => ((), rest)

def anyWord? (words : List String) : Reader Bool :=
  words.foldr (fun word more => do if ← word? word then return true else more) (pure false)

/-- Words that are a value by themselves. -/
def valueWords : List String := ["true", "false", "None"]

/-- Numbers that are words. -/
def numberWords : List String := ["inf", "inff32", "inff64", "NaN", "NaNf32", "NaNf64"]

/-- Whether a named field comes next, an identifier and then a colon. Nothing is taken. -/
def atField : Reader Bool := fun d s =>
  match blank d s with
  | .error e => .error e
  | .ok (_, rest) =>
    match afterIdentifier? rest with
    | none => .ok (false, s)
    | some rest =>
      match blank d rest with
      | .error e => .error e
      | .ok (_, rest) => .ok (rest.head? == some ':', s)

/-- A key, a colon and a value. -/
def skipEntry (key value : Reader Unit) : Reader Unit := do
  key
  blank
  expect ':'
  blank
  value

/-- Items between an opening and a closing character. -/
def skipItems (opening closing : Char) (item : Reader Unit) : Reader Unit := do
  expect opening
  items (fun _ => item) closing ()
  expect closing

/-- Fields up to a closing parenthesis. -/
def skipFields (value : Reader Unit) : Reader Unit :=
  items (fun _ => skipEntry (do let _ ← identifier) value) ')' ()

/-- The items of a tuple up to a closing parenthesis. -/
def skipTuple (value : Reader Unit) : Reader Unit := items (fun _ => value) ')' ()

/-- What may follow a name, or stand without one: nothing, fields, or a tuple. -/
def skipBody (value : Reader Unit) : Reader Unit := do
  if ← char? '(' then
    if ← atField then skipFields value else skipTuple value
    expect ')'

/-! Values in parentheses that may leave out their own -/

/-- What stands in open parentheses: a value, or the content of one that has no parentheses. -/
inductive Content
  | empty
  | fields
  | single
  | several
  deriving DecidableEq, Repr

/-- What follows blank space. -/
def afterBlank (s : List Char) : Except Error (List Char) := dropBlank (s.length + 1) s

/-- What a comma behind the first item says: without another item it may as well not be there. -/
def afterFirst (s : List Char) : Except Error Content := do
  return if (← afterBlank s).head? = some ')' then .single else .several

/-- What follows a literal, if one comes next. One that does not end cannot be passed over. -/
def afterLiteral (literal : List Char → Except Error (List Char)) (s : List Char) :
    Except Error (List Char) :=
  match literal s with
  | .ok rest => .ok rest
  | .error .unclosedText => .error .unclosedText
  | .error .unexpectedEnd => .error .unexpectedEnd
  | .error _ => .ok s

/-- What follows the literals that come next, in which parentheses and commas do not count. -/
def afterLiterals (s : List Char) : Except Error (List Char) := do
  let s := match Quoted.afterChar s with
    | .ok rest => rest
    | .error _ => s
  let s ← afterLiteral (fun s => (Quoted.textOf s).map Prod.snd) s
  afterLiteral Quoted.afterBytes s

/-- Looks for a comma between items, where `depth` is how many parentheses are open. -/
def itemsAhead : Nat → Nat → List Char → Except Error Content
  | 0, _, _ => .error .unexpectedEnd
  | fuel + 1, depth, s => do
    match ← afterLiterals (← afterBlank s) with
    | [] => throw .unexpectedEnd
    | c :: rest =>
      if ['(', '[', '\x7b'].contains c then itemsAhead fuel (depth + 1) rest
      else if [')', ']', '\x7d'].contains c then
        if depth ≤ 1 then return .single else itemsAhead fuel (depth - 1) rest
      else if c = ',' ∧ depth = 1 then afterFirst rest
      else itemsAhead fuel depth rest

/-- What content begins here. An identifier may settle it. -/
def contentOf (s : List Char) : Except Error Content := do
  let s ← afterBlank s
  if s.head? = some ')' then return .empty
  match afterIdentifier? s with
  | none => itemsAhead (s.length + 1) 1 s
  | some rest =>
    match ← afterBlank rest with
    | ':' :: _ => return .fields
    | ',' :: rest => afterFirst rest
    | ')' :: _ => return .single
    | rest => itemsAhead (rest.length + 1) 1 rest

/-- What content comes next. Nothing is taken. -/
def content : Reader Content := fun _ s => (contentOf s).map fun c => (c, s)

/--
What follows `Some`: a value in parentheses, or without them where `Some` could be left out. A value
that has parentheses of its own leaves them out where the document says so.
-/
def skipSome (value : Reader Unit) : Reader Unit := do
  blank
  if ← char? '(' then
    blank
    let c ← if (← dialect).unwrapVariants then content else pure .single
    match c with
    | .empty => pure ()
    | .single => value
    | .fields => skipFields value
    | .several => skipTuple value
    let _ ← comma
    expect ')'
  else if (← dialect).implicitSome then value
  else fail (.expected "an option")

/-- Takes an identifier if the text begins with one. -/
def identifier? : Reader Bool := fun _ s =>
  match afterIdentifier? s with
  | some rest => .ok (true, rest)
  | none => .ok (false, s)

def peek : Reader (Option Char) := fun _ s => .ok (s.head?, s)

/-- What follows a byte or a text of bytes. -/
def afterBytes (s : List Char) : Except Error (List Char) :=
  if (after? "b'".toList s).isSome then Number.afterRange s else Quoted.afterBytes s

/-- Takes any value, with at most so many values one inside the other. -/
def skipValue : Nat → Reader Unit
  | 0 => fail .tooDeep
  | depth + 1 => do
    if ← anyWord? valueWords then return
    if ← anyWord? numberWords then return ← skipBy Number.afterStart
    if ← word? "Some" then return ← skipSome (skipValue depth)
    if ← identifier? then
      blank
      return ← skipBody (skipValue depth)
    match ← peek with
    | none => fail .unexpectedEnd
    | some '(' => skipBody (skipValue depth)
    | some '[' => skipItems '[' ']' (skipValue depth)
    | some '\x7b' =>
      skipItems '\x7b' '\x7d' (skipEntry (skipValue depth) (skipValue depth))
    | some '"' | some 'r' => skipBy fun s => (Quoted.textOf s).map Prod.snd
    | some 'b' => skipBy afterBytes
    | some '\'' => skipBy Quoted.afterChar
    | some c =>
      if c.isDigit || c == '+' || c == '-' || c == '.' then skipBy Number.afterRange
      else fail (.expected "a value")

end Reader

end Groundcover.Document
