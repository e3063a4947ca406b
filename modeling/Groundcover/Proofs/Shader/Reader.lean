import Groundcover.Proofs.Single.Literal

/-!
Reading generated source back. A reader takes a value from the front of a text; readers are put
together from the pieces that source is made of. None of them knows how source is written: what they
do on it is stated by `Reads`.
-/

namespace Groundcover

namespace Source

/-- Takes a value from the front of a text and leaves what follows it. -/
def Reader (α : Type) : Type := List Char → Option (α × List Char)

instance : Monad Reader where
  pure a := fun text => some (a, text)
  bind read next := fun text => do
    let (a, rest) ← read text
    next a rest

namespace Reader

variable {α : Type}

/-- An answer that takes nothing from the text. -/
def lift (answer : Option α) : Reader α := fun text => answer.map fun a => (a, text)

def expect (text : String) : Reader Unit := fun chars =>
  (text.toList.isPrefixOf? chars).map fun rest => ((), rest)

/-- All digits up to the first other character, at least one. -/
def digits : Reader (List Char) := fun text =>
  if (text.takeWhile Char.isDigit).isEmpty then none
  else some (text.takeWhile Char.isDigit, text.dropWhile Char.isDigit)

/-- A minus, if there is one. -/
def minus : Reader Bool
  | '-' :: rest => some (true, rest)
  | text => some (false, text)

def number : Reader Nat := do
  let digits ← digits
  return digitsValue digits

/-- A number with a sign that fits into 32 bits; an `int` has no other values. -/
def int32 : Reader Int := do
  let negative ← minus
  let magnitude ← number
  let value : Int := if negative then -magnitude else magnitude
  lift (if -0x80000000 ≤ value ∧ value < 0x80000000 then some value else none)

/-- Digits on both sides of a point; they stand for the single nearest to them. -/
def single : Reader Single := do
  let negative ← minus
  let whole ← digits
  expect "."
  let places ← digits
  return .ofDecimal negative (.ofDigits whole places)

def boolean : Reader Bool := fun text =>
  match "true".toList.isPrefixOf? text, "false".toList.isPrefixOf? text with
  | some rest, _ => some (true, rest)
  | none, some rest => some (false, rest)
  | none, none => none

/-- Values for as long as each is announced by the given text. -/
def each (lead : String) (read : Reader α) : Reader (List α) := fun text =>
  match lead.toList.isPrefixOf? text with
  | none => some ([], text)
  | some rest =>
    match read rest with
    | none => none
    | some (a, rest) =>
      if rest.length < text.length then
        (each lead read rest).map fun (values, rest) => (a :: values, rest)
      else none
termination_by text => text.length

/-- What a reader makes of a whole text, with nothing left over. -/
def whole? (read : Reader α) (text : List Char) : Option α :=
  match read text with
  | some (a, []) => some a
  | _ => none

end Reader

theorem Reader.each_next {α : Type} {lead : String} {read : Reader α} {a : α} {values : List α}
    {text rest follow : List Char} (hlead : lead ≠ "") (hread : read text = some (a, follow))
    (hrest : follow.length ≤ text.length) (heach : each lead read follow = some (values, rest)) :
    each lead read (lead.toList ++ text) = some (a :: values, rest) := by
  have hpos : 0 < lead.toList.length := by
    rw [String.length_toList]
    exact Nat.pos_of_ne_zero (by simpa using hlead)
  have hshorter : follow.length < (lead.toList ++ text).length := by
    rw [List.length_append]
    omega
  have hprefix : lead.toList.isPrefixOf? (lead.toList ++ text) = some text := by simp
  rw [each, hprefix]
  simp only [hread, if_pos hshorter, heach]
  rfl

def Anything (_ : List Char) : Prop := True

/-- A text at whose front a run of digits is over. -/
def NoDigit : List Char → Prop
  | [] => True
  | c :: _ => c.isDigit = false

/-- A run of digits with at least one of them. -/
def IsNumeral (text : List Char) : Prop := text ≠ [] ∧ ∀ c ∈ text, c.isDigit = true

theorem numeral_to_string (n : Nat) : IsNumeral (toString n).toList := by
  rw [Nat.toString_eq_ofList_toDigits, String.toList_ofList]
  exact ⟨Nat.toDigits_ne_nil,
    fun c hc => Nat.isDigit_of_mem_toDigits (by decide) (by decide) hc⟩

/-- A reader takes exactly the given text for a value, whatever follows that is fit to follow. -/
def Reads {α : Type} (fit : List Char → Prop) (read : Reader α) (text : List Char) (value : α) :
    Prop :=
  ∀ rest, fit rest → read (text ++ rest) = some (value, rest)

namespace Reads

variable {α β : Type} {fit fit' : List Char → Prop} {read : Reader α} {text text' : List Char}
  {value : α} {value' : β}

theorem lift {answer : Option α} (h : answer = some value) :
    Reads fit (Reader.lift answer) [] value := by
  intro rest _
  rw [h]
  rfl

theorem anywhere (h : Reads Anything read text value) : Reads fit read text value :=
  fun rest _ => h rest trivial

/-- What the second reader takes has to be fit to follow what the first one takes. -/
theorem bind {next : α → Reader β} (h : Reads fit read text value)
    (h' : Reads fit' (next value) text' value')
    (hfit : ∀ rest, fit' rest → fit (text' ++ rest)) :
    Reads fit' (read >>= next) (text ++ text') value' := by
  intro rest hrest
  change (read (text ++ text' ++ rest)).bind (fun (a, rest) => next a rest) = _
  rw [List.append_assoc, h _ (hfit rest hrest)]
  exact h' rest hrest

theorem expect (text : String) : Reads Anything (Reader.expect text) text.toList () := by
  intro rest _
  have h : text.toList.isPrefixOf? (text.toList ++ rest) = some rest := by simp
  rw [Reader.expect, h]
  rfl

/-- The answer of the last reader may be put into a larger one. -/
theorem map (f : α → β) (h : Reads fit read text value) :
    Reads fit (read >>= fun a => pure (f a)) text (f value) := by
  intro rest hrest
  change (read (text ++ rest)).bind (fun (a, rest) => some (f a, rest)) = _
  rw [h rest hrest]
  rfl

/-- A fixed text in front of a value. -/
theorem behind (lead : String) {next : Unit → Reader β} (h : Reads fit (next ()) text value') :
    Reads fit (Reader.expect lead >>= next) (lead.toList ++ text) value' :=
  (expect lead).bind h fun _ _ => trivial

theorem digits (h : IsNumeral text) : Reads NoDigit Reader.digits text text := by
  intro rest hrest
  obtain ⟨hne, hdigits⟩ := h
  have htake : (text ++ rest).takeWhile Char.isDigit = text := by
    rw [List.takeWhile_append_of_pos hdigits]
    cases rest with
    | nil => simp
    | cons c rest => simp [show c.isDigit = false from hrest]
  have hdrop : (text ++ rest).dropWhile Char.isDigit = rest := by
    rw [List.dropWhile_append_of_pos hdigits]
    cases rest with
    | nil => rfl
    | cons c rest => simp [show c.isDigit = false from hrest]
  rw [Reader.digits, htake, hdrop, if_neg]
  simpa using hne

theorem number (n : Nat) : Reads NoDigit Reader.number (toString n).toList n := by
  have hvalue : digitsValue (toString n).toList = n := by
    rw [Nat.toString_eq_ofList_toDigits, String.toList_ofList, digits_value_to_digits]
  have h := map digitsValue (digits (numeral_to_string n))
  rw [hvalue] at h
  exact h

/-- A sign is read off a text that has one in front of its digits. -/
theorem minus (negative : Bool) : Reads (fun rest => rest.head? ≠ some '-') Reader.minus
    (if negative then ['-'] else []) negative := by
  intro rest hrest
  cases negative with
  | true => rfl
  | false =>
    rw [if_neg Bool.false_ne_true, List.nil_append]
    unfold Reader.minus
    split
    · exact absurd rfl hrest
    · rfl

/-- A digit shows that there is no sign any more. -/
theorem signed (negative : Bool) {next : Bool → Reader β} (hnumeral : IsNumeral text)
    (h : Reads fit (next negative) (text ++ text') value') :
    Reads fit (Reader.minus >>= next)
      ((if negative then ['-'] else []) ++ (text ++ text')) value' := by
  refine (minus negative).bind h ?_
  intro rest _ hminus
  obtain ⟨c, digits, rfl⟩ := List.exists_cons_of_ne_nil hnumeral.1
  obtain rfl : c = '-' := Option.some.inj hminus
  exact absurd (hnumeral.2 '-' List.mem_cons_self) (by decide)

theorem int32 (negative : Bool) {n : Nat} {value : Int}
    (hvalue : (if negative then -(n : Int) else n) = value)
    (hrange : -0x80000000 ≤ value ∧ value < 0x80000000) :
    Reads NoDigit Reader.int32 ((if negative then ['-'] else []) ++ (toString n).toList) value := by
  subst hvalue
  rw [← List.append_nil (toString n).toList]
  refine signed negative (numeral_to_string n) ?_
  exact (number n).bind (lift (if_pos hrange)) fun _ h => h

/-- The literal of a finite single stands for it. -/
theorem single {x : Single} (hx : x.isFinite = true) :
    Reads NoDigit Reader.single x.literal.toList x := by
  obtain ⟨whole, places, hwhole, hplaces, hdigits, htext, hvalue⟩ := Single.literal_shape hx
  have hback : x.ReadsBack (.ofDigits whole places) :=
    (Decimal.rank_congr hvalue).trans (Single.written_reads_back hx)
  have hw : IsNumeral whole := ⟨hwhole, fun c hc => hdigits c (List.mem_append_left _ hc)⟩
  have hp : IsNumeral places := ⟨hplaces, fun c hc => hdigits c (List.mem_append_right _ hc)⟩
  have hvalue : Single.ofDecimal x.isNegative (.ofDigits whole places) = x := by
    rw [Single.ofDecimal, show (Decimal.ofDigits whole places).rank = x.rank from hback,
      Single.of_rank_rank]
  have hafter := map (fun places => Single.ofDecimal x.isNegative (.ofDigits whole places))
    (digits hp)
  rw [hvalue] at hafter
  rw [htext]
  exact signed x.isNegative hw ((digits hw).bind (behind "." hafter) fun _ _ => rfl)

theorem boolean (answer : Bool) :
    Reads Anything Reader.boolean (toString answer).toList answer := by
  intro rest _
  cases answer <;> rfl

/-- Values are read up to a text that announces no further one. -/
theorem each (lead : String) {items : List β} {shown : β → List Char} (meant : β → α)
    (hlead : lead ≠ "") (hfit : ∀ rest, fit (lead.toList ++ rest))
    (h : ∀ x ∈ items, Reads fit read (shown x) (meant x)) :
    Reads (fun rest => fit rest ∧ lead.toList.isPrefixOf? rest = none) (Reader.each lead read)
      (items.flatMap fun x => lead.toList ++ shown x) (items.map meant) := by
  intro rest hrest
  induction items with
  | nil =>
    rw [List.flatMap_nil, List.nil_append, Reader.each, hrest.2]
    rfl
  | cons x items ih =>
    have htail := ih fun y hy => h y (List.mem_cons_of_mem x hy)
    generalize hfollow : (items.flatMap fun x => lead.toList ++ shown x) ++ rest = follow at htail
    have hfollows : fit follow := by
      subst hfollow
      cases items with
      | nil => exact hrest.1
      | cons y items =>
        rw [List.flatMap_cons, List.append_assoc, List.append_assoc]
        exact hfit _
    have hread := h x List.mem_cons_self follow hfollows
    have hshape : ((x :: items).flatMap fun x => lead.toList ++ shown x) ++ rest =
        lead.toList ++ (shown x ++ follow) := by
      rw [List.flatMap_cons, List.append_assoc, List.append_assoc, hfollow]
    rw [hshape]
    exact Reader.each_next hlead hread (by simp) htail

theorem whole (h : Reads fit read text value) (hfit : fit []) : read.whole? text = some value := by
  have hread := h [] hfit
  rw [List.append_nil] at hread
  rw [Reader.whole?, hread]

end Reads

end Source

end Groundcover
