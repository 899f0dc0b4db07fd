/-
Computations that return a value together with the log of the events they caused.

The log records what a value cannot show: which addresses an imperative routine
touched on the way to its result.  A safety property of the routine is a predicate
on events that holds along the whole log.
-/
import Mathlib.Data.List.Basic

structure Logged (ε α : Type) where
  result : α
  events : List ε

namespace Logged

variable {ε δ α β : Type}

def value (self : Logged ε α) : α := self.result

def log (self : Logged ε α) : List ε := self.events

instance : Monad (Logged ε) where
  pure value := ⟨value, []⟩
  bind first next := ⟨(next first.value).value, first.log ++ (next first.value).log⟩

def emit (event : ε) : Logged ε Unit := ⟨(), [event]⟩

def emitIf (condition : Prop) [Decidable condition] (event : ε) : Logged ε Unit :=
  ⟨(), if condition then [event] else []⟩

def mapLog (rename : ε → δ) (computation : Logged ε α) : Logged δ α :=
  ⟨computation.value, computation.log.map rename⟩

@[simp] theorem value_pure (value : α) : (pure value : Logged ε α).value = value :=
  rfl

@[simp] theorem value_bind (first : Logged ε α) (next : α → Logged ε β) :
    (first >>= next).value = (next first.value).value := by
  cases first
  rfl

@[simp] theorem log_bind (first : Logged ε α) (next : α → Logged ε β) :
    (first >>= next).log = first.log ++ (next first.value).log := by
  cases first
  rfl

@[simp] theorem value_mapLog (rename : ε → δ) (computation : Logged ε α) :
    (computation.mapLog rename).value = computation.value := by
  cases computation
  rfl

@[simp] theorem value_ite (condition : Prop) [Decidable condition]
    (yes no : Logged ε α) :
    (if condition then yes else no).value =
      if condition then yes.value else no.value :=
  apply_ite value condition yes no

/-- Every event of the computation satisfies the predicate. -/
def Safe (allowed : ε → Prop) (computation : Logged ε α) : Prop :=
  ∀ event, event ∈ computation.log → allowed event

variable (allowed : ε → Prop)

@[simp] theorem safe_pure (value : α) : Safe allowed (pure value : Logged ε α) := by
  intro event member
  cases member

@[simp] theorem safe_emit (event : ε) : Safe allowed (emit event) ↔ allowed event := by
  simp [Safe, emit, log]

@[simp] theorem safe_emitIf (condition : Prop) [Decidable condition] (event : ε) :
    Safe allowed (emitIf condition event) ↔ (condition → allowed event) := by
  by_cases holds : condition
  · simp [Safe, emitIf, log, holds]
  · simp [Safe, emitIf, log, holds]

@[simp] theorem safe_bind (first : Logged ε α) (next : α → Logged ε β) :
    Safe allowed (first >>= next) ↔
      Safe allowed first ∧ Safe allowed (next first.value) := by
  constructor
  · intro safe
    exact ⟨fun event member => safe event (List.mem_append_left _ member),
      fun event member => safe event (List.mem_append_right _ member)⟩
  · rintro ⟨safeFirst, safeNext⟩ event member
    rcases List.mem_append.mp member with inFirst | inNext
    · exact safeFirst event inFirst
    · exact safeNext event inNext

@[simp] theorem safe_mapLog (rename : δ → ε) (computation : Logged δ α) :
    Safe allowed (computation.mapLog rename) ↔
      Safe (fun event => allowed (rename event)) computation := by
  simp [Safe, mapLog, log]

theorem safe_ite (condition : Prop) [Decidable condition] (yes no : Logged ε α) :
    Safe allowed (if condition then yes else no) ↔
      (condition → Safe allowed yes) ∧ (¬ condition → Safe allowed no) := by
  by_cases holds : condition
  · simp [holds]
  · simp [holds]

end Logged
