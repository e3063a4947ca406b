import Groundcover.Proofs.Shader.Reader
import Groundcover.Shader.ProgramSource

/-!
The statements of classification functions, read back from source and run. A body is a list of
conditions with answers and an answer for the case that no condition holds. Lines made from guards
read as statements with the bounds of the guards, and running those tries the bounds in order.
-/

namespace Groundcover

namespace Source

/-- How a sample is compared with a literal, written between the two. -/
inductive Relation
  | equal
  | atLeast
  | atMost
  deriving DecidableEq

def Relation.text : Relation → String
  | equal => " == "
  | atLeast => " >= "
  | atMost => " <= "

structure Comparison where
  relation : Relation
  value : Single
  deriving DecidableEq

/-- A condition with the answer that is returned when all of its comparisons hold. -/
structure Branch (α : Type) where
  condition : List Comparison
  answer : α
  deriving DecidableEq

/-- The statements of a function: branches in order, then an answer without a condition. -/
structure Body (α : Type) where
  branches : List (Branch α)
  otherwise : α
  deriving DecidableEq

def Comparison.text (c : Comparison) : List Char :=
  "value".toList ++ (c.relation.text.toList ++ c.value.literal.toList)

def Comparison.holds (s : Single) : Comparison → Bool
  | ⟨.equal, v⟩ => s.Equals v
  | ⟨.atLeast, v⟩ => v.AtMost s
  | ⟨.atMost, v⟩ => s.AtMost v

variable {α : Type}

/-- What branches return for a sample, each tried after those before it. -/
def returned (s : Single) (otherwise : α) : List (Branch α) → α
  | [] => otherwise
  | b :: rest =>
    if b.condition.all fun c => c.holds s then b.answer else returned s otherwise rest

def Body.run (s : Single) (body : Body α) : α := returned s body.otherwise body.branches

/-- The bound that a condition is made from, if it is made from one. -/
def Branch.bound? (b : Branch α) : Option Bound :=
  match b.condition with
  | [⟨.equal, v⟩] => some (.exact v)
  | [⟨.atLeast, low⟩, ⟨.atMost, high⟩] => some (.range low high)
  | [⟨.atLeast, low⟩] => some (.min low)
  | [⟨.atMost, high⟩] => some (.max high)
  | _ => none

def Body.guards? (body : Body α) : Option (List (Bound × α)) :=
  body.branches.mapM fun b => b.bound?.map fun bound => (bound, b.answer)

namespace Reader

def relation : Reader Relation
  | ' ' :: '=' :: '=' :: ' ' :: rest => some (.equal, rest)
  | ' ' :: '>' :: '=' :: ' ' :: rest => some (.atLeast, rest)
  | ' ' :: '<' :: '=' :: ' ' :: rest => some (.atMost, rest)
  | _ => none

def comparison : Reader Comparison := do
  expect "value"
  let relation ← relation
  let value ← single
  return ⟨relation, value⟩

def condition : Reader (List Comparison) := do
  let first ← comparison
  let others ← each " && " comparison
  return first :: others

/-- A branch behind its opening. -/
def branch (answer : Reader α) : Reader (Branch α) := do
  let condition ← condition
  expect ") return "
  let answer ← answer
  expect ";\n"
  return ⟨condition, answer⟩

/-- Statements and the end of the function that they are in. -/
def body (answer : Reader α) : Reader (Body α) := do
  let branches ← each "    if (" (branch answer)
  expect "    return "
  let otherwise ← answer
  expect ";\n\x7d\n"
  return ⟨branches, otherwise⟩

/-- The statements of a source behind a given header, to the end of the source. -/
def bodyAfter? (header : String) (answer : Reader α) (source : String) : Option (Body α) :=
  (header.toList.isPrefixOf? source.toList).bind (body answer).whole?

end Reader

end Source

open Source

namespace Bound

/-- The comparisons that a bound consists of. -/
def comparisons : Bound → List Comparison
  | exact v => [⟨.equal, v⟩]
  | range low high => [⟨.atLeast, low⟩, ⟨.atMost, high⟩]
  | min low => [⟨.atLeast, low⟩]
  | max high => [⟨.atMost, high⟩]

/-- No limit of the bound is infinite or a NaN. -/
def IsFinite (b : Bound) : Prop := ∀ c ∈ b.comparisons, c.value.isFinite = true

instance (b : Bound) : Decidable b.IsFinite :=
  inferInstanceAs (Decidable (∀ c ∈ b.comparisons, c.value.isFinite = true))

theorem comparisons_hold (s : Single) (b : Bound) :
    (b.comparisons.all fun c => c.holds s) = b.admits s := by
  cases b <;> simp [comparisons, Comparison.holds, admits]

theorem bound_of_comparisons {α : Type} (b : Bound) (answer : α) :
    (Branch.mk b.comparisons answer).bound? = some b := by
  cases b <;> rfl

end Bound

namespace Source

variable {α : Type}

/-- The statements that return the answer beside the first bound to admit a sample. -/
def Body.ofGuards (guards : List (Bound × α)) (otherwise : α) : Body α :=
  ⟨guards.map fun (bound, answer) => ⟨bound.comparisons, answer⟩, otherwise⟩

theorem Body.guards_of_guards (guards : List (Bound × α)) (otherwise : α) :
    (ofGuards guards otherwise).guards? = some guards := by
  unfold guards? ofGuards
  induction guards with
  | nil => rfl
  | cons guard rest ih =>
    simp only [List.map_cons, List.mapM_cons, Bound.bound_of_comparisons] at ih ⊢
    rw [ih]
    rfl

/-- Running statements tries their bounds in order. -/
theorem Body.run_of_guards (s : Single) (guards : List (Bound × α)) (otherwise : α) :
    (ofGuards guards otherwise).run s =
      ((guards.find? fun guard => guard.1.admits s).map Prod.snd).getD otherwise := by
  unfold run ofGuards
  induction guards with
  | nil => rfl
  | cons guard rest ih =>
    simp only [List.map_cons, returned, Bound.comparisons_hold] at ih ⊢
    cases h : guard.1.admits s with
    | true => simp [h]
    | false => simpa [h] using ih

namespace Reads

theorem relation (r : Relation) : Reads Anything Reader.relation r.text.toList r := by
  intro rest _
  cases r <;> rfl

theorem comparison {c : Comparison} (hc : c.value.isFinite = true) :
    Reads NoDigit Reader.comparison c.text c := by
  have hvalue := map (fun value => Comparison.mk c.relation value) (single hc)
  exact behind "value" ((relation c.relation).bind hvalue fun _ _ => trivial)

/-- A condition ends where no further comparison is announced. -/
theorem condition {first : Comparison} {others : List Comparison}
    (h : ∀ c ∈ first :: others, c.value.isFinite = true) :
    Reads (fun rest => NoDigit rest ∧ " && ".toList.isPrefixOf? rest = none) Reader.condition
      (first.text ++ others.flatMap fun c => " && ".toList ++ c.text) (first :: others) := by
  have hothers := each " && " id (by decide) (fun _ => rfl)
    fun c hc => comparison (h c (List.mem_cons_of_mem first hc))
  rw [List.map_id] at hothers
  refine (comparison (h first List.mem_cons_self)).bind (map (first :: ·) hothers) ?_
  rintro rest ⟨hdigit, -⟩
  cases others with
  | nil => exact hdigit
  | cons c others => rfl

end Reads

end Source

open Source

namespace Bound

theorem limit_text (r : Relation) (v : Single) :
    (ProgramSource.sampleName ++ r.text ++ v.literal).toList = Comparison.text ⟨r, v⟩ := by
  rw [String.toList_append, String.toList_append, List.append_assoc]
  rfl

/-- The condition of a bound joins its comparisons. -/
theorem condition_text (b : Bound) : ∃ first others, b.comparisons = first :: others ∧
    (b.condition ProgramSource.sampleName).toList =
      first.text ++ others.flatMap fun c => " && ".toList ++ c.text := by
  cases b with
  | exact v => exact ⟨_, [], rfl, (limit_text .equal v).trans (List.append_nil _).symm⟩
  | range low high =>
    refine ⟨_, [⟨.atMost, high⟩], rfl, ?_⟩
    have hlow := limit_text .atLeast low
    have hhigh := limit_text .atMost high
    rw [List.flatMap_singleton, ← hlow, ← hhigh, ← String.toList_append, ← String.toList_append]
    simp only [condition, Relation.text, String.append_assoc]
  | min low => exact ⟨_, [], rfl, (limit_text .atLeast low).trans (List.append_nil _).symm⟩
  | max high => exact ⟨_, [], rfl, (limit_text .atMost high).trans (List.append_nil _).symm⟩

end Bound

theorem unlines_text (lines : List String) :
    (unlines lines).toList = lines.flatMap fun line => line.toList ++ ['\n'] := by
  rw [unlines, String.toList_join, List.flatMap_map]
  simp

theorem unlines_append (front back : List String) :
    unlines (front ++ back) = unlines front ++ unlines back := by
  apply String.toList_inj.mp
  rw [String.toList_append, unlines_text, unlines_text, unlines_text, List.flatMap_append]

namespace ProgramSource

/-- A guard in source without the text that announces it. -/
def guardText (bound : Bound) (shown : String) : List Char :=
  (bound.condition sampleName).toList ++ (") return ".toList ++ (shown.toList ++ ";\n".toList))

theorem arm_line_text (bound : Bound) (shown : String) :
    (armLine bound shown).toList ++ ['\n'] = "    if (".toList ++ guardText bound shown := by
  simp [armLine, Bound.guarded, guardText]

/-- What stands behind the guards of a function. -/
theorem return_line_text (shown : String) :
    (unlines [returnLine shown, "\x7d"]).toList =
      "    return ".toList ++ (shown.toList ++ ";\n\x7d\n".toList) := by
  simp [unlines_text, returnLine]

end ProgramSource

namespace Source.Reads

open ProgramSource

variable {α β : Type} {answer : Reader α}

theorem branch {bound : Bound} {shown : String} {value : α} (hbound : bound.IsFinite)
    (h : Reads NoDigit answer shown.toList value) :
    Reads Anything (Reader.branch answer) (guardText bound shown) ⟨bound.comparisons, value⟩ := by
  obtain ⟨first, others, hcomparisons, htext⟩ := bound.condition_text
  unfold Bound.IsFinite at hbound
  rw [hcomparisons] at hbound ⊢
  rw [guardText, htext]
  have hend := map (fun _ => Branch.mk (first :: others) value) (expect ";\n")
  refine (condition hbound).bind (behind ") return " (h.bind hend ?_)) ?_
  · exact fun _ _ => rfl
  · exact fun _ _ => ⟨rfl, rfl⟩

/-- Guards in lines of their own, and the answer without a guard, read as the
statements they are. -/
theorem body {guards : List β} {bound : β → Bound} {shown : β → String} {value : β → α}
    {otherwise : String} {last : α}
    (hbound : ∀ g ∈ guards, (bound g).IsFinite)
    (hshown : ∀ g ∈ guards, Reads NoDigit answer (shown g).toList (value g))
    (hlast : Reads NoDigit answer otherwise.toList last) :
    Reads Anything (Reader.body answer)
      (unlines (guards.map (fun g => armLine (bound g) (shown g)) ++
        [returnLine otherwise, "\x7d"])).toList
      (.ofGuards (guards.map fun g => (bound g, value g)) last) := by
  have hbranches := each "    if (" (fun g => Branch.mk (bound g).comparisons (value g))
    (by decide) (fun _ => trivial) fun g hg => branch (hbound g hg) (hshown g hg)
  have hend := map (fun _ => Body.mk (guards.map fun g => ⟨(bound g).comparisons, value g⟩) last)
    (expect ";\n\x7d\n")
  have hguards : (unlines (guards.map fun g => armLine (bound g) (shown g))).toList =
      guards.flatMap fun g => "    if (".toList ++ guardText (bound g) (shown g) := by
    rw [unlines_text, List.flatMap_map]
    simp only [arm_line_text]
  rw [unlines_append, String.toList_append, hguards, return_line_text, Body.ofGuards, List.map_map]
  refine hbranches.bind (behind "    return " (hlast.bind hend fun _ _ => rfl)) ?_
  exact fun _ _ => ⟨trivial, rfl⟩

end Source.Reads

/-- Behind a header, a source reads as statements with the given guards, and running them answers
every sample in the given way. -/
def Source.Means {α : Type} (source header : String) (answer : Reader α) (guards : List (Bound × α))
    (otherwise : α) (evaluate : Single → α) : Prop :=
  ∃ body, Reader.bodyAfter? header answer source = some body ∧ body.guards? = some guards ∧
    body.otherwise = otherwise ∧ ∀ s, body.run s = evaluate s

/-- Source that was made from a header and the lines of guards means what the guards say. -/
theorem Source.means_of_lines {α β : Type} {answer : Reader α} (header : String) (items : List β)
    (bound : β → Bound) (shown : β → String) (meant : β → α) {otherwise : String} {last : α}
    (hbound : ∀ x ∈ items, (bound x).IsFinite)
    (hshown : ∀ x ∈ items, Reads NoDigit answer (shown x).toList (meant x))
    (hlast : Reads NoDigit answer otherwise.toList last) :
    Means (header ++ unlines (items.map (fun x => ProgramSource.armLine (bound x) (shown x)) ++
        [ProgramSource.returnLine otherwise, "\x7d"])) header answer
      (items.map fun x => (bound x, meant x)) last
      fun s => ((items.find? fun x => (bound x).admits s).map meant).getD last := by
  refine ⟨.ofGuards (items.map fun x => (bound x, meant x)) last, ?_, Body.guards_of_guards _ _,
    rfl, ?_⟩
  · have hheader (text : List Char) :
        header.toList.isPrefixOf? (header.toList ++ text) = some text := by simp
    rw [Reader.bodyAfter?, String.toList_append, hheader, Option.bind_some]
    exact (Reads.body hbound hshown hlast).whole trivial
  · intro s
    rw [Body.run_of_guards, List.find?_map, Option.map_map]
    rfl

end Groundcover
