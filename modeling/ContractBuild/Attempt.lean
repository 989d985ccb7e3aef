import ContractBuild.Engine.Basic
import ContractBuild.Log.Record

/-!
# Attempts

An attempt ends in a result or a failure, and leaves a trail either way: the log records written,
the objects made by calling classes and factories, the calls of engines and of producers. It
changes nothing else, so whatever is written as an attempt cannot touch the disk or the channels:
that resolving, loading and compiling leave both alone is a matter of types and needs no proof.

Calling an engine puts the call on the trail before the engine answers, and producing an artifact
puts the artifact there, so that a failure in the middle does not hide that something was asked.
An engine is a function of the call; engines with a memory of their own are not modelled.

The `runFrom` lemmas give each operation as a step from one trail to the next. Proofs about stages
that are made of attempts use these and never unfold the monad.
-/

namespace ContractBuild

/-- What an attempt leaves behind. -/
structure Trail where
  log : List Log.Record := []
  /-- How many objects were made. -/
  made : Nat := 0
  calls : List Engine.Call := []
  /-- The artifacts whose producers were called. -/
  produced : List Artifact := []

abbrev Attempt := ExceptT Failure (StateM Trail)

namespace Attempt

/-- Runs an attempt from a trail. -/
def runFrom {α : Type} (a : Attempt α) (t : Trail) : Except Failure α × Trail :=
  StateT.run (ExceptT.run a) t

/-- Ends in a failure. -/
def fail {α : Type} (f : Failure) : Attempt α := throw f

/-- The result of a computation that leaves no trail. -/
def ofExcept {α : Type} (x : Except Failure α) : Attempt α := ExceptT.mk (pure x)

/-- Adds a record to the log. -/
def record (r : Log.Record) : Attempt Unit :=
  modify fun t => { t with log := t.log ++ [r] }

/-- Calls an engine. -/
def call (e : Engine) (c : Engine.Call) : Attempt (Except Failure Compiled) := do
  modify fun t => { t with calls := t.calls ++ [c] }
  return e.compile c

/-- Calls the producer of an artifact. -/
def produce (r : Compiled) (a : Artifact) : Attempt Value := do
  modify fun t => { t with produced := t.produced ++ [a] }
  ofExcept (r.produce a)

/-- The record of a refusal with technical details. -/
def refusalRecord (r : Refusal) (details : String) : Log.Record where
  level := .error
  event := "nccs_error"
  logger := "nccs_core.errors"
  fields := [("error_type", .str r.typeName), ("user_message", .str r.message),
    ("internal_details", .str details)]

/-- Refuses to go on. Details go to the log; without details nothing is logged. -/
def refuse {α : Type} (r : Refusal) (details : String := "") : Attempt α := do
  if details ≠ "" then record (refusalRecord r details)
  fail (.refused r)

/-! ## Running an attempt step by step -/

variable {α β : Type}

@[simp] theorem runFrom_pure (a : α) (t : Trail) : (pure a : Attempt α).runFrom t = (.ok a, t) :=
  rfl

theorem runFrom_bind (x : Attempt α) (f : α → Attempt β) (t : Trail) :
    (x >>= f).runFrom t =
      match x.runFrom t with
      | (.ok a, t) => (f a).runFrom t
      | (.error e, t) => (.error e, t) := by
  simp only [runFrom, ExceptT.run_bind, StateT.run_bind]
  rcases StateT.run (ExceptT.run x) t with ⟨a | a, u⟩ <;> rfl

theorem runFrom_bind_eq_ok_iff {x : Attempt α} {f : α → Attempt β} {b : β} {t t' : Trail} :
    (x >>= f).runFrom t = (.ok b, t') ↔
      ∃ a t₁, x.runFrom t = (.ok a, t₁) ∧ (f a).runFrom t₁ = (.ok b, t') := by
  rw [runFrom_bind]
  rcases x.runFrom t with ⟨e | a, t₁⟩ <;> simp [and_assoc]

/-- Two stages fail if the first fails, or the second after it. -/
theorem runFrom_bind_eq_error_iff {x : Attempt α} {f : α → Attempt β} {e : Failure}
    {t t' : Trail} :
    (x >>= f).runFrom t = (.error e, t') ↔
      x.runFrom t = (.error e, t')
        ∨ ∃ a t₁, x.runFrom t = (.ok a, t₁) ∧ (f a).runFrom t₁ = (.error e, t') := by
  rw [runFrom_bind]
  rcases x.runFrom t with ⟨e | a, t₁⟩ <;> simp [and_assoc]

/-- The same of the failure alone, whatever the trail. -/
theorem fst_runFrom_bind_eq_error_iff {x : Attempt α} {f : α → Attempt β} {e : Failure}
    {t : Trail} :
    ((x >>= f).runFrom t).1 = .error e ↔
      (x.runFrom t).1 = .error e
        ∨ ∃ a t₁, x.runFrom t = (.ok a, t₁) ∧ ((f a).runFrom t₁).1 = .error e := by
  rw [runFrom_bind]
  rcases x.runFrom t with ⟨e | a, t₁⟩ <;> simp [and_assoc]

@[simp] theorem runFrom_fail (f : Failure) (t : Trail) :
    (fail f : Attempt α).runFrom t = (.error f, t) := rfl

@[simp] theorem runFrom_ofExcept (x : Except Failure α) (t : Trail) :
    (ofExcept x).runFrom t = (x, t) := rfl

@[simp] theorem runFrom_record (r : Log.Record) (t : Trail) :
    (record r).runFrom t = (.ok (), { t with log := t.log ++ [r] }) := rfl

@[simp] theorem runFrom_call (e : Engine) (c : Engine.Call) (t : Trail) :
    (call e c).runFrom t = (.ok (e.compile c), { t with calls := t.calls ++ [c] }) := rfl

@[simp] theorem runFrom_produce (r : Compiled) (a : Artifact) (t : Trail) :
    (produce r a).runFrom t = (r.produce a, { t with produced := t.produced ++ [a] }) := rfl

/-- The trail with the record of a refusal, which is written only if there are details. -/
def noted (t : Trail) (r : Refusal) (details : String) : Trail :=
  if details = "" then t else { t with log := t.log ++ [refusalRecord r details] }

@[simp] theorem runFrom_refuse (r : Refusal) (details : String) (t : Trail) :
    (refuse r details : Attempt α).runFrom t = (.error (.refused r), noted t r details) := by
  unfold refuse noted
  by_cases h : details = ""
  · simp [h]
  · simp [h, runFrom_bind]

end Attempt

end ContractBuild
