import Groundcover.Log

/-!
Computations as functions on the states they run in: where a computation starts decides its answer
and where it ends, and what it logs on the way makes no difference to either.
-/

namespace Groundcover

instance : LawfulMonad Logged := LawfulMonad.mk' Logged
  (fun x => congrArg (Logged.mk x.value) (List.append_nil x.records))
  (fun _ _ => rfl)
  (fun _ _ _ => congrArg (Logged.mk _) (List.append_assoc ..))

/-- A view of computations that keeps the answer and the state and drops the log. -/
class Execution (m : Type → Type) [Monad m] [Journal m] (σ : outParam Type) where
  exec : {α : Type} → m α → σ → α × σ
  exec_pure : ∀ {α : Type} (a : α) (s : σ), exec (pure a) s = (a, s)
  exec_bind : ∀ {α β : Type} (x : m α) (f : α → m β) (s : σ),
    exec (x >>= f) s = exec (f (exec x s).1) (exec x s).2
  exec_note : ∀ (r : Record) (s : σ), exec (Journal.note r) s = ((), s)

namespace Execution

attribute [simp] exec_pure exec_bind exec_note

instance {σ : Type} : Execution (StateT σ Logged) σ where
  exec x s := (x.run s).value
  exec_pure _ _ := rfl
  exec_bind _ _ _ := rfl
  exec_note _ _ := rfl

variable {m : Type → Type} [Monad m] [Journal m] {σ : Type} [Execution m σ]

/-- Under a state, a note is made in what lies below. -/
theorem note_run {τ : Type} (r : Record) (t : τ) :
    (Journal.note r : StateT τ m Unit).run t = Journal.note r >>= fun u => pure (u, t) := rfl

/-- A state on top of another one becomes part of the whole state. -/
instance {τ : Type} : Execution (StateT τ m) (τ × σ) where
  exec x s := ((exec (x.run s.1) s.2).1.1, (exec (x.run s.1) s.2).1.2, (exec (x.run s.1) s.2).2)
  exec_pure a s := by simp
  exec_bind x f s := by simp
  exec_note r s := by simp [note_run]

variable {τ α β : Type}

theorem exec_stateT (x : StateT τ m α) (t : τ) (s : σ) :
    exec x (t, s) = ((exec (x.run t) s).1.1, (exec (x.run t) s).1.2, (exec (x.run t) s).2) := rfl

theorem exec_run (x : StateT τ m α) (t : τ) (s : σ) :
    exec (x.run t) s = (((exec x (t, s)).1, (exec x (t, s)).2.1), (exec x (t, s)).2.2) := rfl

@[simp] theorem exec_lift (x : m α) (t : τ) (s : σ) :
    exec (StateT.lift x : StateT τ m α) (t, s) = ((exec x s).1, t, (exec x s).2) := by
  simp [exec_stateT, StateT.lift, StateT.run]

@[simp] theorem exec_get (t : τ) (s : σ) : exec (get : StateT τ m τ) (t, s) = (t, t, s) := by
  simp [exec_stateT]

@[simp] theorem exec_set (new t : τ) (s : σ) :
    exec (set new : StateT τ m PUnit) (t, s) = ((), new, s) := by
  simp [exec_stateT]

@[simp] theorem exec_map [LawfulMonad m] (f : α → β) (x : m α) (s : σ) :
    exec (f <$> x) s = (f (exec x s).1, (exec x s).2) := by
  rw [map_eq_pure_bind, exec_bind, exec_pure]

/-- Notes for each element of a list leave no trace in the state. -/
@[simp] theorem exec_notes (record : α → Record) (items : List α) (s : σ) :
    exec (forM items fun a => (Journal.note (record a) : m Unit)) s = ((), s) := by
  induction items with
  | nil => simp
  | cons a items ih => simp [ih]

@[simp] theorem exec_records (records : List Record) (s : σ) :
    exec (records.forM Journal.note : m PUnit) s = ((), s) := exec_notes id records s

@[simp] theorem exec_tell (x : Logged α) (s : σ) : exec (x.tell : m α) s = (x.value, s) := by
  simp only [Logged.tell, exec_bind, exec_records, exec_pure]

end Execution

end Groundcover
