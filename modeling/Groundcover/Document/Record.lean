import Groundcover.Document.Skip

/-!
Readers of structured values: records with named fields, lists, options and variants, and the
document around them, which may switch on extensions first.
-/

namespace Groundcover.Document

/-- A field of a record: its name, whether it has to be there, and how its value
enters the record. -/
structure RecordField (σ : Type) where
  name : String
  isRequired : Bool
  read : Reader (σ → σ)

namespace RecordField

variable {σ α : Type}

/-- A field that may be left out. -/
def free (name : String) (value : Reader α) (set : α → σ → σ) : RecordField σ :=
  ⟨name, false, do return set (← value)⟩

/-- A field that every record has to state. -/
def required (name : String) (value : Reader α) (set : α → σ → σ) : RecordField σ :=
  ⟨name, true, do return set (← value)⟩

end RecordField

namespace Reader

variable {σ α : Type}

/-- The name of a record's type, which may be left out unless the document asks for names. -/
def typeName (name : String) : Reader Unit := do
  if ← atName then
    let found ← identifier
    unless found = name do fail (.wrongName name found)
  else if (← dialect).explicitNames then fail (.wrongName name "")
where
  atName : Reader Bool := fun _ s => .ok (!atBoundary s, s)

/-- A field with its value. A known field stands at most once, any other is read and left out. -/
def entry (fields : List (RecordField σ)) (state : List String × σ) : Reader (List String × σ) := do
  let name ← identifier
  blank
  expect ':'
  blank
  match fields.find? fun f => f.name = name with
  | some f =>
    if name ∈ state.1 then fail (.duplicateField name)
    else
      let set ← f.read
      return (name :: state.1, set state.2)
  | none =>
    skipValue maxDepth
    return state

/-- Fields up to the closing parenthesis, which stays. Required fields have to be among them. -/
def fieldsOf (fields : List (RecordField σ)) (start : σ) : Reader σ := do
  let (seen, result) ← items (entry fields) ')' ([], start)
  match fields.find? fun f => f.isRequired && !seen.contains f.name with
  | some f => fail (.missingField f.name)
  | none => return result

/--
A record in its parentheses. A bare record has neither name nor parentheses of its own, because it
stands in those of an option or of a variant.
-/
def record (name : String) (fields : List (RecordField σ)) (start : σ) (bare : Bool) :
    Reader σ := do
  if bare then
    blank
    fieldsOf fields start
  else
    typeName name
    blank
    expect '('
    let result ← fieldsOf fields start
    expect ')'
    return result

/-- A list in brackets. -/
def list (item : Reader α) : Reader (List α) := do
  expect '['
  let reversed ← items (fun read => do return (← item) :: read) ']' []
  expect ']'
  return reversed.reverse

/-- A value in the parentheses of an option or a variant, which are already open. -/
def enclosed (value : Bool → Reader α) : Reader α := do
  blank
  let a ← value (← dialect).unwrapVariants
  let _ ← comma
  expect ')'
  return a

/-- An option. With implicit options a value stands for itself. -/
def option (value : Bool → Reader α) : Reader (Option α) := do
  if ← word? "None" then return none
  if ← word? "Some" then
    blank
    if ← char? '(' then return some (← enclosed value)
  if (← dialect).implicitSome then return some (← value false)
  fail (.expected "an option")

/-- One of several variants with a value each. -/
def variant (variants : List (String × (Bool → Reader α))) : Reader α := do
  let name ← identifier
  match variants.lookup name with
  | none => fail (.unknownVariant name)
  | some value =>
    blank
    expect '('
    enclosed value

/-- A value that has no parentheses of its own. -/
def plain (value : Reader α) : Bool → Reader α := fun _ => value

/-! Attributes -/

def extension (d : Dialect) (name : String) : Reader Dialect :=
  match name with
  | "unwrap_newtypes" => pure { d with unwrapNewtypes := true }
  | "implicit_some" => pure { d with implicitSome := true }
  | "unwrap_variant_newtypes" => pure { d with unwrapVariants := true }
  | "explicit_struct_names" => pure { d with explicitNames := true }
  | _ => fail (.unknownExtension name)

/-- What an attribute does. Only `enable` changes how the document is read. -/
def attributeBody (d : Dialect) : Reader Dialect := do
  if ← word? "enable" then
    blank
    expect '('
    blank
    if ← isNext ')' then fail (.expected "an extension")
    let d ← items (fun d => do extension d (← identifier)) ')' d
    expect ')'
    return d
  else if ← anyWord? ["type", "schema"] then
    blank
    expect '='
    blank
    let _ ← text
    return d
  else fail (.expected "an attribute")

/-- Attributes at the head of a document, of which there are no more than characters. -/
def attributes : Nat → Dialect → Reader Dialect
  | 0, _ => fail .unexpectedEnd
  | fuel + 1, d => do
    if ← char? '#' then
      blank
      expect '!'
      blank
      expect '['
      blank
      let d ← attributeBody d
      blank
      expect ']'
      blank
      attributes fuel d
    else return d

end Reader

/-- A whole document: attributes, one value, and nothing else but space. -/
def read {α : Type} (value : Reader α) (text : String) : Except Error α :=
  let s := text.toList
  match (do Reader.blank; Reader.attributes (s.length + 1) {} : Reader Dialect) {} s with
  | .error e => .error e
  | .ok (d, rest) =>
    match (do let a ← value; Reader.blank; return a : Reader α) d rest with
    | .error e => .error e
    | .ok (a, []) => .ok a
    | .ok (_, _ :: _) => .error .trailingText

end Groundcover.Document
