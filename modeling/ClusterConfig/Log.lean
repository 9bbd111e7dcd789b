/-
# Logged computations

A run reports what it does as a sequence of events, and the log of a run that fails ends with
the last event before the failure. A computation is therefore a log together with a result, and
one computation after another adds to the log only when the first one succeeds.
-/
import ClusterConfig.Failure
import ClusterConfig.Keys.Layout

namespace ClusterConfig

open Text

/-! ## Events -/

/-- What a run reports. -/
inductive Event where
  | resolved (index size : Nat) (layout : KeyLayout)
  | readingKeys (path : Path)
  | optionalAbsent (path : Path)
  | assembled (peers keygroups : Nat)
  | written (path : Path) (peers keygroups : Nat)
  deriving DecidableEq, Repr

/-- How much an event matters. -/
inductive Level where
  | info
  | debug
  deriving DecidableEq, Repr

namespace Event

/-- Only the end of a successful run is more than a detail. -/
def level : Event → Level
  | written .. => .info
  | _ => .debug

/-- The wording of an event. -/
def message : Event → String
  | resolved index size layout =>
    "resolved cluster layout node_index=" ++ showNat index ++ " total_nodes=" ++ showNat size ++
      " variant=" ++ layout.title
  | readingKeys path => "reading key file path=" ++ path.text
  | optionalAbsent path => "optional file absent path=" ++ path.text
  | assembled peers keygroups =>
    "built peer set and keygroups peers=" ++ showNat peers ++ " keygroups=" ++ showNat keygroups
  | written path peers keygroups =>
    "node config written path=" ++ path.text ++ " peers=" ++ showNat peers ++
      " keygroups=" ++ showNat keygroups

/-- An event as a line of the log. -/
def line (event : Event) : String :=
  match event.level with
  | .info => "INFO " ++ event.message
  | .debug => "DEBUG " ++ event.message

end Event

/-! ## Computations -/

/-- A computation that reports events and may fail. -/
structure Logged (α : Type) where
  log : List Event
  result : Except Failure α

namespace Logged

variable {α β : Type}

/-- Runs one computation after another, which is left out when the first one fails. -/
def andThen (first : Logged α) (next : α → Logged β) : Logged β :=
  match first.result with
  | .error failure => ⟨first.log, .error failure⟩
  | .ok a => ⟨first.log ++ (next a).log, (next a).result⟩

instance : Monad Logged where
  pure a := ⟨[], .ok a⟩
  bind := andThen

/-- Reports an event. -/
def note (event : Event) : Logged Unit := ⟨[event], .ok ()⟩

/-- A result that is reported by no event. -/
def ofExcept (result : Except Failure α) : Logged α := ⟨[], result⟩

/-- The outcome of a computation and what it reported. -/
@[ext] theorem ext {first second : Logged α} (hlog : first.log = second.log)
    (hresult : first.result = second.result) : first = second := by
  obtain ⟨_, _⟩ := first
  obtain ⟨_, _⟩ := second
  exact congr (congrArg mk hlog) hresult

@[simp] theorem pure_eq (a : α) : (pure a : Logged α) = ⟨[], .ok a⟩ := rfl

@[simp] theorem bind_ok (log : List Event) (a : α) (next : α → Logged β) :
    (⟨log, .ok a⟩ : Logged α) >>= next = ⟨log ++ (next a).log, (next a).result⟩ := rfl

@[simp] theorem bind_error (log : List Event) (failure : Failure) (next : α → Logged β) :
    (⟨log, .error failure⟩ : Logged α) >>= next = ⟨log, .error failure⟩ := rfl

/-- The result of a sequence is the sequence of the results. -/
@[simp] theorem result_bind (first : Logged α) (next : α → Logged β) :
    (first >>= next).result = first.result.bind fun a => (next a).result := by
  obtain ⟨log, failure | a⟩ := first <;> rfl

/-- A sequence succeeds when both of its steps do. -/
theorem result_bind_eq_ok_iff {first : Logged α} {next : α → Logged β} {b : β} :
    (first >>= next).result = .ok b ↔ ∃ a, first.result = .ok a ∧ (next a).result = .ok b := by
  rw [result_bind]
  exact bind_eq_ok_iff

/-- A sequence fails when its first step does, or its second step after the first. -/
theorem result_bind_eq_error_iff {first : Logged α} {next : α → Logged β} {failure : Failure} :
    (first >>= next).result = .error failure ↔
      first.result = .error failure ∨
        ∃ a, first.result = .ok a ∧ (next a).result = .error failure := by
  rw [result_bind]
  cases first.result <;> simp [Except.bind]

/-- A computation followed by its own result is the computation. -/
theorem map_id (computation : Logged α) : id <$> computation = computation := by
  obtain ⟨log, failure | a⟩ := computation <;> simp [Functor.map, andThen]

/-- Sequences of three computations do not depend on how they are grouped. -/
theorem bind_assoc {γ : Type} (first : Logged α) (second : α → Logged β) (third : β → Logged γ) :
    first >>= second >>= third = first >>= fun a => second a >>= third := by
  obtain ⟨log, failure | a⟩ := first
  · rfl
  · rcases h : second a with ⟨more, failure | b⟩ <;> simp [h]

instance : LawfulMonad Logged :=
  LawfulMonad.mk' Logged map_id (fun _ _ => by simp) bind_assoc

end Logged

end ClusterConfig
