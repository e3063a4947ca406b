import Groundcover.Config

/-!
Arguments of the command line, read from left to right. An option whose value is an argument of its
own stays open until the next option, or the end, settles it; only then its value is looked at. So
what is wrong with it shows up there, unless an argument that nobody knows comes before.
-/

namespace Groundcover

/-- Why arguments are refused, or that help was asked for. -/
inductive ArgumentError
  | displayHelp
  | unknownArgument
  | invalidValue
  | valueValidation
  | invalidUtf8
  | argumentConflict
  | tooManyValues
  deriving DecidableEq, Repr

/-- The options that take one value. -/
inductive ValueOption
  | manifest
  | outputDir
  | version
  | namePrefix
  | logLevel
  | configDir
  deriving DecidableEq, Repr

/-- What a long name stands for. -/
inductive LongOption
  | value (option : ValueOption)
  | denyWarnings
  | help
  deriving DecidableEq, Repr

namespace LongOption

def byName : List (String × LongOption) :=
  [("manifest", value .manifest), ("out-dir", value .outputDir), ("glsl-version", value .version),
   ("prefix", value .namePrefix), ("log-level", value .logLevel), ("config", value .configDir),
   ("deny-warnings", denyWarnings), ("help", help)]

def ofName? (name : List UInt8) : Option LongOption :=
  (byName.find? fun (text, _) => Text.Utf8.encode text = name).map Prod.snd

end LongOption

namespace Arguments

@[match_pattern] def hyphen : UInt8 := 45

/-- The letter of the short option for help. -/
@[match_pattern] def helpLetter : UInt8 := 104

def equalsSign : UInt8 := 61

/-- An option that is met but not settled, with the value that was given for it. -/
structure Pending where
  option : ValueOption
  value : Option (List UInt8)
  deriving DecidableEq

/-- What is settled so far, and what is open. -/
structure Progress where
  settled : Arguments := {}
  pending : Option Pending := none
  deriving DecidableEq

def pathOf (value : List UInt8) : Except ArgumentError Path :=
  if value.isEmpty then .error .invalidValue else .ok ⟨value⟩

def textOf (value : List UInt8) : Except ArgumentError String :=
  match Text.Utf8.decode? value with
  | some text => .ok text
  | none => .error .invalidUtf8

/-- Decimal digits with an optional sign, as a number from 0 to below 2^32. -/
def wordOf? (text : List Char) : Option UInt32 :=
  let (negative, digits) := match text with
    | '-' :: rest => (true, rest)
    | '+' :: rest => (false, rest)
    | rest => (false, rest)
  let value := digits.foldl (fun n c => n * 10 + (c.toNat - '0'.toNat)) 0
  if digits.isEmpty || !digits.all Char.isDigit then none
  else if negative && value != 0 || 0x100000000 ≤ value then none
  else some (.ofNat value)

def wordOf (value : List UInt8) : Except ArgumentError UInt32 := do
  match wordOf? (← textOf value).toList with
  | some n => return n
  | none => .error .valueValidation

def isGiven (a : Arguments) : ValueOption → Bool
  | .manifest => a.manifest.isSome
  | .outputDir => a.outputDir.isSome
  | .version => a.version.isSome
  | .namePrefix => a.namePrefix.isSome
  | .logLevel => a.logLevel.isSome
  | .configDir => a.configDir.isSome

def setValue (a : Arguments) (option : ValueOption) (value : List UInt8) :
    Except ArgumentError Arguments :=
  match option with
  | .manifest => do return { a with manifest := some (← pathOf value) }
  | .outputDir => do return { a with outputDir := some (← pathOf value) }
  | .version => do return { a with version := some (← wordOf value) }
  | .namePrefix => do return { a with namePrefix := some (← textOf value) }
  | .logLevel => do return { a with logLevel := some (← textOf value) }
  | .configDir => do return { a with configDir := some (← pathOf value) }

/-- Takes a value. That the option was given before is noticed before a bad value is. -/
def give (a : Arguments) (option : ValueOption) (value : List UInt8) :
    Except ArgumentError Arguments :=
  if a.isGiven option then .error .argumentConflict else a.setValue option value

/-- Settles what is open. -/
def settle (p : Progress) : Except ArgumentError Arguments :=
  match p.pending with
  | none => .ok p.settled
  | some ⟨_, none⟩ => .error .invalidValue
  | some ⟨option, some value⟩ => p.settled.give option value

/-- The name and the value of a long option, which an equals sign separates. -/
def splitLong (body : List UInt8) : List UInt8 × Option (List UInt8) :=
  match body.dropWhile (· ≠ equalsSign) with
  | [] => (body, none)
  | _ :: value => (body.takeWhile (· ≠ equalsSign), some value)

/--
Takes a long option, after what was open is settled. A value behind an equals sign is looked at
right away; without one the option opens.
-/
def takeLong (p : Progress) (body : List UInt8) : Except ArgumentError Progress :=
  let (name, value) := splitLong body
  match LongOption.ofName? name, value with
  | none, _ => .error .unknownArgument
  | some (.value option), none => do return ⟨← settle p, some ⟨option, none⟩⟩
  | some (.value option), some value => do return ⟨← (← settle p).give option value, none⟩
  | some .denyWarnings, none => do
    let a ← settle p
    if a.denyWarnings then .error .argumentConflict
    else return ⟨{ a with denyWarnings := true }, none⟩
  | some .help, none => do
    let _ ← settle p
    .error .displayHelp
  | some _, some _ => .error .tooManyValues

/-- Takes a word: the value of the option that is open, if it waits for one. -/
def takeWord (p : Progress) (word : List UInt8) : Except ArgumentError Progress :=
  match p.pending with
  | some ⟨option, none⟩ => .ok ⟨p.settled, some ⟨option, some word⟩⟩
  | _ => .error .unknownArgument

/-- Takes one argument. Of short options only the one for help is known. -/
def take (p : Progress) (argument : List UInt8) : Except ArgumentError Progress :=
  match argument with
  | hyphen :: hyphen :: body => takeLong p body
  | hyphen :: helpLetter :: _ => do
    let _ ← settle p
    .error .displayHelp
  | hyphen :: _ :: _ => .error .unknownArgument
  | word => takeWord p word

/-- What ends the options. -/
def terminator : List UInt8 := [hyphen, hyphen]

/-- Reads arguments from a place inside the list. -/
def ofListFrom (p : Progress) : List (List UInt8) → Except ArgumentError Arguments
  | [] => settle p
  | argument :: rest =>
    if argument = terminator then
      if rest.isEmpty then settle p else .error .unknownArgument
    else
      match take p argument with
      | .error e => .error e
      | .ok p => ofListFrom p rest

def ofList (arguments : List (List UInt8)) : Except ArgumentError Arguments :=
  ofListFrom {} arguments

end Arguments

end Groundcover
