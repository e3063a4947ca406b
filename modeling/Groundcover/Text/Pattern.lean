import Groundcover.Text.Alphanumeric
import Groundcover.Text.Blank

/-!
Regular expressions, as far as it takes to tell whether a text is one. A text is read from the left;
what is kept are the groups that are open, the flags in force, and whether there is something that a
repetition sign could repeat.
-/

namespace Groundcover.Text.Pattern

/-- Why a text is no pattern: it is malformed, or it asks for word boundaries of all languages. -/
inductive Fault
  | malformed
  | wordBoundary
  deriving DecidableEq, Repr

/-- Flags in force: blanks and comments do not count, and the pattern is one of bytes. -/
structure Flags where
  ignoresBlank : Bool := false
  isBytes : Bool := false
  deriving DecidableEq, Repr

/-- Drops blanks and comments, of which there are no more than characters. -/
def dropIgnored : Nat → List Char → List Char
  | 0, s => s
  | fuel + 1, s =>
    match s.dropWhile isBlank with
    | '#' :: rest => dropIgnored fuel (rest.dropWhile (· ≠ '\n'))
    | rest => rest

/-- What is next where blanks may stand. -/
def Flags.skip (f : Flags) (s : List Char) : List Char :=
  if f.ignoresBlank then dropIgnored (s.length + 1) s else s

/-! Escapes -/

/-- What an escape stands for. -/
inductive Item
  | literal (code : Nat)
  | set
  | position
  | wordBoundary
  deriving DecidableEq, Repr

/-- Whether a backslash in front of the character makes it stand for itself. -/
def isEscapable (c : Char) : Bool := c.toNat < 128 && !c.isAlphanum && c != '<' && c != '>'

def digitValue? (c : Char) : Option Nat :=
  if c.isDigit then some (c.toNat - '0'.toNat)
  else if 'a' ≤ c ∧ c ≤ 'f' then some (c.toNat - 'a'.toNat + 10)
  else if 'A' ≤ c ∧ c ≤ 'F' then some (c.toNat - 'A'.toNat + 10)
  else none

/-- A number of so many hexadecimal digits. -/
def code? (f : Flags) : Nat → Nat → List Char → Option (Nat × List Char)
  | 0, code, s => if code.isValidChar then some (code, s) else none
  | count + 1, code, s =>
    match f.skip s with
    | [] => none
    | c :: rest => (digitValue? c).bind fun digit => code? f count (16 * code + digit) rest

/-- The kinds of characters that have a name of one letter. -/
def kinds : List Char := ['c', 'l', 'm', 'n', 'p', 's', 'z']

/-- What an escape behind a backslash stands for, and what follows it. -/
def escape? (f : Flags) : List Char → Option (Item × List Char)
  | [] => none
  | c :: rest =>
    let literal (digits : Nat) :=
      (code? f digits 0 rest).map fun (code, rest) => (.literal code, rest)
    if isEscapable c then some (.literal c.toNat, rest)
    else
      match c with
      | 'x' => literal 2
      | 'u' => literal 4
      | 'U' => literal 8
      | 'p' | 'P' =>
        match f.skip rest with
        | kind :: rest =>
          if kinds.contains kind.toLower && !f.isBytes then some (.set, rest) else none
        | [] => none
      | 'd' | 's' | 'w' => some (.set, rest)
      | 'D' | 'S' | 'W' => if f.isBytes then none else some (.set, rest)
      | 'a' => some (.literal 7, rest)
      | 't' => some (.literal 9, rest)
      | 'n' => some (.literal 10, rest)
      | 'v' => some (.literal 11, rest)
      | 'f' => some (.literal 12, rest)
      | 'r' => some (.literal 13, rest)
      | 'A' | 'z' => some (.position, rest)
      | 'b' | 'B' | '<' | '>' => some (if f.isBytes then .position else .wordBoundary, rest)
      | _ => none

/-! Sets between brackets -/

/-- Names of sets of ASCII characters. -/
def setNames : List String :=
  ["alnum", "alpha", "ascii", "blank", "cntrl", "digit", "graph", "lower", "print", "punct",
   "space", "upper", "word", "xdigit"]

/-- What follows a named set, without its opening bracket. -/
def afterNamedSet? : List Char → Option (List Char)
  | ':' :: rest =>
    let rest := match rest with
      | '^' :: rest => rest
      | rest => rest
    match rest.dropWhile (· ≠ ':') with
    | ':' :: ']' :: behind =>
      if setNames.contains (.ofList (rest.takeWhile (· ≠ ':'))) then some behind else none
    | _ => none
  | _ => none

/-- What follows the hyphens at the start of a set, and the blanks around them. -/
def afterHyphens (f : Flags) : Nat → List Char → List Char
  | 0, s => s
  | fuel + 1, s =>
    match f.skip s with
    | '-' :: rest => afterHyphens f fuel rest
    | rest => rest

/-- What follows the start of a set. A closing bracket in the first place is a
character of the set. -/
def afterOpening? (f : Flags) (s : List Char) : Option (List Char) :=
  let inner := match f.skip s with
    | '^' :: rest => if f.isBytes then none else some (f.skip rest)
    | rest => some rest
  match inner with
  | some (']' :: rest) => some rest
  | some rest => some (afterHyphens f (rest.length + 1) rest)
  | none => none

/-- A character or an escape in a set. Only escapes that stand for characters have a place there. -/
def setItem? (f : Flags) : List Char → Option (Item × List Char)
  | [] => none
  | '\\' :: rest =>
    match escape? f rest with
    | some (.literal code, rest) => some (.literal code, rest)
    | some (.set, rest) => some (.set, rest)
    | _ => none
  | c :: rest => some (.literal c.toNat, rest)

/-- Whether a hyphen stands between the ends of a range. -/
def isRange (f : Flags) : List Char → Bool
  | '-' :: rest =>
    match f.skip rest with
    | ']' :: _ | '-' :: _ => false
    | _ => true
  | _ => false

/-- Whether the item may be in a set: bytes are characters of ASCII. -/
def isAllowed (f : Flags) : Item → Bool
  | .literal code => !f.isBytes || code < 128
  | _ => true

/-- What follows an item of a set or a range, whose ends have to be in order. -/
def afterRange? (f : Flags) (s : List Char) : Option (List Char) := do
  let (first, rest) ← setItem? f s
  if !isAllowed f first then none
  let rest := f.skip rest
  if isRange f rest then
    let (last, rest) ← setItem? f (f.skip (rest.drop 1))
    match first, last with
    | .literal low, .literal high => if low ≤ high ∧ isAllowed f last then some rest else none
    | _, _ => none
  else some rest

/-- What follows a set, where so many are open. Sets may stand in others, with
signs between them. -/
def afterSet? (f : Flags) : Nat → Nat → List Char → Option (List Char)
  | 0, _, _ => none
  | fuel + 1, depth, s =>
    match f.skip s with
    | [] => none
    | '[' :: rest =>
      match afterNamedSet? rest with
      | some rest => afterSet? f fuel depth rest
      | none => (afterOpening? f rest).bind (afterSet? f fuel (depth + 1))
    | ']' :: rest => if depth ≤ 1 then some rest else afterSet? f fuel (depth - 1) rest
    | '&' :: '&' :: rest | '-' :: '-' :: rest | '~' :: '~' :: rest => afterSet? f fuel depth rest
    | rest => (afterRange? f rest).bind (afterSet? f fuel depth)

/-! Groups -/

/-- How far a text has been read. -/
structure State where
  flags : Flags := {}
  outer : List Flags := []
  names : List (List Char) := []
  isRepeatable : Bool := false
  hasBoundary : Bool := false

/-- Whether a group's name can be this. -/
def isName : List Char → Bool
  | [] => false
  | c :: rest =>
    (c == '_' || isAlphanumeric c && !c.isDigit)
      && rest.all fun c => ['_', '.', '[', ']'].contains c || isAlphanumeric c

/-- Begins a group. -/
def State.opened (st : State) (flags : Flags) : State :=
  { st with flags, outer := st.flags :: st.outer, isRepeatable := false }

/-- Flags and how they change what is in force. A hyphen turns those behind it off. -/
def withFlags? (f : Flags) (isOff : Bool) : List Char → Option Flags
  | [] => some f
  | '-' :: rest => if isOff || rest.isEmpty then none else withFlags? f true rest
  | 'x' :: rest => withFlags? { f with ignoresBlank := !isOff } isOff rest
  | 'u' :: rest => withFlags? { f with isBytes := isOff } isOff rest
  | c :: rest => if ['i', 'm', 's', 'U', 'R'].contains c then withFlags? f isOff rest else none

/-- A group with a name of its own, behind the bracket that begins the name. -/
def State.named? (st : State) (s : List Char) : Option (State × List Char) :=
  let name := s.takeWhile (· ≠ '>')
  match s.dropWhile (· ≠ '>') with
  | _ :: rest =>
    if isName name && !st.names.contains name then
      some ({ st with names := name :: st.names }.opened st.flags, rest)
    else none
  | [] => none

/-- What stands behind an opening parenthesis. Flags may go on to the end of the
group around them. -/
def State.group? (st : State) (s : List Char) : Option (State × List Char) :=
  match s with
  | '?' :: 'P' :: '<' :: rest => st.named? rest
  | '?' :: '<' :: '=' :: _ | '?' :: '<' :: '!' :: _ => none
  | '?' :: '<' :: rest => st.named? rest
  | '?' :: rest =>
    let given := rest.takeWhile fun c => c != ':' && c != ')'
    let rest := rest.dropWhile fun c => c != ':' && c != ')'
    match withFlags? st.flags false given, rest with
    | some flags, ':' :: rest => if given.Nodup then some (st.opened flags, rest) else none
    | some flags, ')' :: rest =>
      if given.Nodup ∧ given ≠ [] then some ({ st with flags, isRepeatable := false }, rest)
      else none
    | _, _ => none
  | rest => some (st.opened st.flags, rest)

/-! Patterns -/

/-- Takes what comes next, which is no blank that does not count. -/
def State.step? (st : State) : List Char → Option (State × List Char)
  | [] => none
  | '(' :: rest => st.group? (st.flags.skip rest)
  | ')' :: rest =>
    match st.outer with
    | [] => none
    | flags :: outer => some ({ st with flags, outer, isRepeatable := true }, rest)
  | '|' :: rest => some ({ st with isRepeatable := false }, rest)
  | '[' :: rest => do
    let inner ← afterOpening? st.flags rest
    let rest ← afterSet? st.flags (inner.length + 1) 1 inner
    return ({ st with isRepeatable := true }, rest)
  | '\x7b' :: _ => none
  | '\\' :: rest =>
    match escape? st.flags rest with
    | none => none
    | some (.wordBoundary, rest) =>
      some ({ st with isRepeatable := true, hasBoundary := true }, rest)
    | some (_, rest) => some ({ st with isRepeatable := true }, rest)
  | '.' :: rest => if st.flags.isBytes then none else some ({ st with isRepeatable := true }, rest)
  | c :: rest =>
    if c = '*' ∨ c = '+' ∨ c = '?' then if st.isRepeatable then some (st, rest) else none
    else some ({ st with isRepeatable := true }, rest)

/-- Reads on to the end. Every step takes a character. -/
def State.last? (st : State) : Nat → List Char → Option State
  | 0, _ => none
  | fuel + 1, s =>
    match st.flags.skip s with
    | [] => if st.outer.isEmpty then some st else none
    | s => (st.step? s).bind fun (st, rest) => st.last? fuel rest

/-- What is wrong with a pattern. A repetition has no upper or lower count. -/
def fault? (text : List Char) : Option Fault :=
  match State.last? {} (text.length + 1) text with
  | none => some .malformed
  | some st => if st.hasBoundary then some .wordBoundary else none

end Groundcover.Text.Pattern
