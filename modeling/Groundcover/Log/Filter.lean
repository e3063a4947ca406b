import Groundcover.Log
import Groundcover.Single.Text
import Groundcover.Text.Pattern
import Groundcover.Text.Pieces

/-!
Filters of the log. A filter is a list of directives between commas: `level`, `target`,
`target=level`, or one of them with a scope in brackets. Of the directives that cover a record the
one with the longest target decides, then the closer scope; a record that none covers is dropped.
-/

namespace Groundcover

/-- Where a directive applies: to all records, inside of spans, or to records with a field. -/
inductive Scope
  | everywhere
  | spans
  | field (name : List Char)
  deriving DecidableEq

namespace Scope

/-- Whether records of a part of the program are in scope. All are written outside of spans. -/
def holds (s : Scope) (origin : Origin) : Bool :=
  match s with
  | everywhere => true
  | spans => false
  | field name => origin.fields.any fun f => f.toList == name

/-- Whether a name comes before another one in the order of code points. -/
def comesBefore : List Char → List Char → Bool
  | _, [] => false
  | [], _ :: _ => true
  | a :: name, b :: other => a.toNat < b.toNat || a == b && comesBefore name other

/-- Of two scopes the one with a field is the closer one, then the one whose field comes later. -/
def yieldsTo : Scope → Scope → Bool
  | field name, field other => !comesBefore other name
  | field _, _ => false
  | _, _ => true

end Scope

/-- Lets records of a target through up to a verbosity. -/
structure Directive where
  target : List Char
  verbosity : Nat
  scope : Scope := .everywhere
  deriving DecidableEq

namespace Directive

/-- The verbosity that lets everything through. -/
def all : Nat := 5

/-- A level by number, with a plus sign and zeros before it at will. -/
def levelNumber? (text : List Char) : Option Nat :=
  let digits := match text with
    | '+' :: rest => rest
    | rest => rest
  let value := digits.foldl (fun n c => n * 10 + (c.toNat - '0'.toNat)) 0
  if digits.isEmpty || !digits.all Char.isDigit || all < value then none else some value

/-- A level by name, in any case, or by number. -/
def level? (text : List Char) : Option Nat :=
  match String.ofList (text.map Char.toLower) with
  | "off" => some 0
  | "error" => some 1
  | "warn" => some 2
  | "info" => some 3
  | "debug" => some 4
  | "trace" => some all
  | _ => levelNumber? text

/-- What is wrong with a piece of a filter that is no directive. -/
inductive Fault
  | malformed
  | level
  | value (fault : Text.Pattern.Fault)
  deriving DecidableEq, Repr

def Fault.text : Fault → String
  | malformed => "invalid filter directive"
  | value .malformed => "invalid field filter: error building NFA"
  | value .wordBoundary =>
    "invalid field filter: unsupported regex feature for DFAs: cannot build DFAs for regexes with "
      ++ "Unicode word boundaries; switch to ASCII word boundaries, or heuristically enable "
      ++ "Unicode word boundaries or use a different regex engine"
  | level =>
    "error parsing level filter: expected one of \"off\", \"error\", \"warn\", \"info\", "
      ++ "\"debug\", \"trace\", or a number 0-5"

/-- Whether a target or a level can begin with the character. -/
def canBegin (c : Char) : Bool := Text.isAlphanumeric c || ['-', ':', '_'].contains c

/-- Where a character passes a test first, from a position on. -/
def position? (text : List Char) (start : Nat) (test : Char → Bool) : Option Nat :=
  ((text.drop start).findIdx? test).map (start + ·)

/-- What is let through where the level may be missing. -/
def levelOf (text : List Char) : Except Fault Nat :=
  if text.isEmpty then .ok all
  else
    match level? text with
    | some v => .ok v
    | none => .error .level

/-! Positions count from the first character that is not blank, but parts are cut out of the piece
with its blanks: behind a blank they come out shifted. -/

/-- What follows a scope: nothing, or an equals sign and a level. -/
def levelBehind (piece : List Char) (stop : Nat) : Except Fault Nat :=
  match (Text.trim piece)[stop]? with
  | none => .ok all
  | some '=' => levelOf (piece.drop (stop + 1))
  | some _ => .error .malformed

/--
What is wrong with the value of a field, which stands between the first two equals signs. It is a
number or a pattern.
-/
def valueFault? (field : List Char) : Option Text.Pattern.Fault :=
  match (field.dropWhile (· ≠ '=')) with
  | [] => none
  | _ :: rest =>
    let value := rest.takeWhile (· ≠ '=')
    if (Single.ofText? value).isSome then none else Text.Pattern.fault? value

/-- A directive whose scope begins at a position: a span, or a field with a span before it. -/
def withScope (piece target : List Char) (start : Nat) : Except Fault Directive :=
  let bare := Text.trim piece
  match position? bare start fun c => c == ']' || c == '\x7b' with
  | none => .error .malformed
  | some stop =>
    if bare[stop]? = some ']' then do return ⟨target, ← levelBehind piece (stop + 1), .spans⟩
    else
      match position? bare (stop + 1) (· == '\x7d') with
      | none => .error .malformed
      | some fieldEnd =>
        let span := (piece.take stop).drop start
        let field := (piece.take fieldEnd).drop (stop + 1)
        if field.isEmpty then .error .malformed
        else do
          if let some fault := valueFault? field then throw (.value fault)
          if bare[fieldEnd + 1]? ≠ some ']' then throw .malformed
          let verbosity ← levelBehind piece (fieldEnd + 2)
          if span.isEmpty && !field.contains '=' then return ⟨target, verbosity, .field field⟩
          else return ⟨target, verbosity, .spans⟩

/-- The directive that a piece of a filter is. A target without a level lets everything through. -/
def ofText (piece : List Char) : Except Fault Directive :=
  let bare := Text.trim piece
  match bare with
  | [] => .error .malformed
  | '[' :: _ => withScope piece [] 1
  | c :: _ =>
    if !canBegin c then .error .malformed
    else
      match position? bare 1 fun c => c == '=' || c == '[' with
      | none =>
        match level? piece with
        | some v => .ok ⟨[], v, .everywhere⟩
        | none => .ok ⟨piece, all, .everywhere⟩
      | some stop =>
        if bare[stop]? = some '=' then do
          return ⟨piece.take stop, ← levelOf (piece.drop (stop + 1)), .everywhere⟩
        else withScope piece (piece.take stop) (stop + 1)

def covers (d : Directive) (origin : Origin) : Bool :=
  d.scope.holds origin && d.target.isPrefixOf origin.target.toList

/-- Whether a directive gives way to a later one: the longer target, then the closer scope. -/
def yieldsTo (d later : Directive) : Bool :=
  d.target.length < later.target.length
    || d.target.length == later.target.length && d.scope.yieldsTo later.scope

end Directive

/-- Which records are shown. -/
structure Filter where
  directives : List Directive
  deriving DecidableEq

namespace Filter

/-- Without a single directive only errors are shown. -/
def ofDirectives : List Directive → Filter
  | [] => ⟨[⟨[], 1, .everywhere⟩]⟩
  | directives => ⟨directives⟩

/-- The pieces of a filter, each with the directive that it is. -/
def parts (text : String) : List (List Char × Except Directive.Fault Directive) :=
  ((Text.pieces (· == ',') text.toList).filter (!·.isEmpty)).map fun piece =>
    (piece, Directive.ofText piece)

/-- The filter of a text. Pieces that are no directives are passed over. -/
def ofText (text : String) : Filter :=
  ofDirectives ((parts text).filterMap fun part => part.2.toOption)

/-- What to say about the pieces that are passed over. -/
def complaints (text : String) : List String :=
  (parts text).filterMap fun
    | (piece, .error fault) => some ("ignoring \x60" ++ .ofList piece ++ "\x60: " ++ fault.text)
    | (_, .ok _) => none

/-- The filter of a text in which every piece is a directive. -/
def ofText? (text : String) : Option Filter :=
  if (complaints text).isEmpty then some (ofText text) else none

/-- The better of two directives, the later one if they are equally close. -/
def stronger (best : Option Directive) (d : Directive) : Option Directive :=
  match best with
  | none => some d
  | some b => if b.yieldsTo d then some d else some b

def admits (f : Filter) (r : Record) : Bool :=
  match (f.directives.filter (·.covers r.origin)).foldl stronger none with
  | some d => r.level.verbosity ≤ d.verbosity
  | none => false

/-- The filter where no level is given. -/
def defaultText : String := "info"

/-- A level that is blank counts as not given. -/
def textOfLevel (level : Option String) : String :=
  match level.map fun l => Text.trim l.toList with
  | some (c :: rest) => .ofList (c :: rest)
  | _ => defaultText

end Filter

end Groundcover
