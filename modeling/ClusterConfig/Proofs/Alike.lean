/-
# Computations that are alike

Two runs on different files are compared step by step. Their results are alike when both of them
fail in the same way, or both of them succeed and a given relation holds between their values; the
runs are alike when they have reported the same events, too. Main statement: two sequences are alike
when their first steps are, and their second steps are for related values (`Logged.Alike.bind`).
-/
import ClusterConfig.Log

namespace ClusterConfig

/-! ## Results -/

/-- Two results are alike when they are the same fault, or values in a relation. -/
inductive Alike {ε α β : Type} (related : α → β → Prop) : Except ε α → Except ε β → Prop
  | error (fault : ε) : Alike related (.error fault) (.error fault)
  | ok {a : α} {b : β} (h : related a b) : Alike related (.ok a) (.ok b)

namespace Alike

variable {ε δ α β : Type} {related : α → β → Prop} {first : Except ε α} {second : Except ε β}

/-- A result is alike to itself when its value is related to itself. -/
theorem refl {related : α → α → Prop} (h : ∀ a, related a a) (result : Except ε α) :
    Alike related result result := by
  cases result with
  | error fault => exact .error fault
  | ok a => exact .ok (h a)

/-- Results that are alike under equality are the same. -/
theorem eq {first second : Except ε α} (h : Alike Eq first second) : first = second := by
  cases h with
  | error fault => rfl
  | ok h => rw [h]

/-- A result that is alike to a value is a value in the relation. -/
theorem exists_of_ok {a : α} (h : Alike related first second) (ha : first = .ok a) :
    ∃ b, second = .ok b ∧ related a b := by
  cases h with
  | error fault => contradiction
  | ok h =>
    obtain rfl := Except.ok.inj ha
    exact ⟨_, rfl, h⟩

/-- Results that are alike are alike with another wording of their faults. -/
theorem mapError (h : Alike related first second) (wording : ε → δ) :
    Alike related (first.mapError wording) (second.mapError wording) := by
  cases h with
  | error fault => exact .error (wording fault)
  | ok h => exact .ok h

end Alike

/-! ## Logged computations -/

namespace Logged

/-- Two computations are alike when they report the same events and have results that are alike. -/
structure Alike {α β : Type} (related : α → β → Prop) (first : Logged α) (second : Logged β) :
    Prop where
  log_eq : first.log = second.log
  result_alike : ClusterConfig.Alike related first.result second.result

namespace Alike

variable {α β γ δ : Type} {related : α → β → Prop} {after : γ → δ → Prop}

/-- Computations that are alike under equality are the same. -/
theorem eq {first second : Logged α} (h : first.Alike Eq second) : first = second :=
  ext h.log_eq h.result_alike.eq

/-- Related values are alike as computations. -/
theorem pure {a : α} {b : β} (h : related a b) :
    (Pure.pure a : Logged α).Alike related (Pure.pure b : Logged β) :=
  ⟨rfl, .ok h⟩

/-- Results that are alike are alike as computations. -/
theorem ofExcept {first : Except Failure α} {second : Except Failure β}
    (h : ClusterConfig.Alike related first second) :
    (Logged.ofExcept first).Alike related (Logged.ofExcept second) :=
  ⟨rfl, h⟩

/-- **Two sequences are alike** when their first steps are, and their second steps for related
values. -/
theorem bind {first : Logged α} {second : Logged β} {next : α → Logged γ} {other : β → Logged δ}
    (h : first.Alike related second)
    (hnext : ∀ a b, related a b → (next a).Alike after (other b)) :
    (first >>= next).Alike after (second >>= other) := by
  obtain ⟨log, result⟩ := first
  obtain ⟨log', result'⟩ := second
  obtain ⟨hlog, hresult⟩ := h
  obtain rfl : log = log' := hlog
  cases hresult with
  | error failure => exact ⟨rfl, .error failure⟩
  | ok h =>
    obtain ⟨hmore, hend⟩ := hnext _ _ h
    refine ⟨?_, hend⟩
    rw [bind_ok, bind_ok, hmore]

/-- After the same first step, two sequences are alike when their second steps are for its value. -/
theorem bind_same {computation : Logged α} {next : α → Logged γ} {other : α → Logged δ}
    (hnext : ∀ a, computation.result = .ok a → (next a).Alike after (other a)) :
    (computation >>= next).Alike after (computation >>= other) := by
  have hself : computation.Alike (fun a b => a = b ∧ computation.result = .ok a) computation := by
    refine ⟨rfl, ?_⟩
    cases computation.result with
    | error failure => exact .error failure
    | ok a => exact .ok ⟨rfl, rfl⟩
  apply hself.bind
  rintro a b ⟨rfl, ha⟩
  exact hnext a ha

end Alike

end Logged

end ClusterConfig
