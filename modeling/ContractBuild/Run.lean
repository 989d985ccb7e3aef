import ContractBuild.Attempt
import ContractBuild.Disk.Basic

/-!
# Runs

A run is an attempt that may also change the disk and write lines to the two channels of the user
(`OutputChannel` of the program). Channels accept every line: a channel that fails is not
modelled.

`catchRefusal` is how a build takes refusals in, the only failures that it turns into an outcome.
The state is kept as it was when the refusal came, also the disk: nothing that a run did is undone
by its failure.

As for attempts there is a `runFrom` lemma for each operation, and two for the sequence of two
stages: when it ends in a result (`runFrom_bind_eq_ok_iff`) and when in a failure
(`runFrom_bind_eq_error_iff`).
-/

namespace ContractBuild

/-- Where a line for the user goes. -/
inductive Channel where
  | out
  | err
  deriving DecidableEq, Repr

/-- A line written to a channel. -/
structure Line where
  channel : Channel
  text : String
  deriving DecidableEq, Repr

/-- The state of a run. -/
structure Run where
  disk : Disk
  /-- The lines written so far. -/
  lines : List Line := []
  trail : Trail := {}

abbrev Running := ExceptT Failure (StateM Run)

namespace Running

/-- Runs from a state. -/
def runFrom {α : Type} (r : Running α) (s : Run) : Except Failure α × Run :=
  StateT.run (ExceptT.run r) s

/-- An attempt as a run: disk and channels stay as they are. -/
def attempt {α : Type} (a : Attempt α) : Running α :=
  ExceptT.mk fun s => let (x, t) := a.runFrom s.trail; (x, { s with trail := t })

/-- Ends in a failure. -/
def fail {α : Type} (f : Failure) : Running α := throw f

/-- Writes a line to a channel. -/
def writeLine (channel : Channel) (text : String) : Running Unit :=
  modify fun s => { s with lines := s.lines ++ [⟨channel, text⟩] }

/-- Adds a record to the log. -/
def record (r : Log.Record) : Running Unit := attempt (Attempt.record r)

/-- Refuses to go on, with details for the log. -/
def refuse {α : Type} (r : Refusal) (details : String := "") : Running α :=
  attempt (Attempt.refuse r details)

/-- Goes on after a refusal, which becomes the result. Other failures go through. -/
def catchRefusal {α : Type} (r : Running α) : Running (Except Refusal α) :=
  ExceptT.mk fun s =>
    match r.runFrom s with
    | (.ok a, s) => (.ok (.ok a), s)
    | (.error (.refused x), s) => (.ok (.error x), s)
    | (.error f, s) => (.error f, s)

/-! ## Running step by step -/

variable {α β : Type}

@[simp] theorem runFrom_pure (a : α) (s : Run) : (pure a : Running α).runFrom s = (.ok a, s) := rfl

theorem runFrom_bind (x : Running α) (f : α → Running β) (s : Run) :
    (x >>= f).runFrom s =
      match x.runFrom s with
      | (.ok a, s) => (f a).runFrom s
      | (.error e, s) => (.error e, s) := by
  simp only [runFrom, ExceptT.run_bind, StateT.run_bind]
  rcases StateT.run (ExceptT.run x) s with ⟨a | a, u⟩ <;> rfl

theorem runFrom_bind_eq_ok_iff {x : Running α} {f : α → Running β} {b : β} {s s' : Run} :
    (x >>= f).runFrom s = (.ok b, s') ↔
      ∃ a s₁, x.runFrom s = (.ok a, s₁) ∧ (f a).runFrom s₁ = (.ok b, s') := by
  rw [runFrom_bind]
  rcases x.runFrom s with ⟨e | a, s₁⟩ <;> simp [and_assoc]

/-- Two stages fail if the first fails, or the second after it. -/
theorem runFrom_bind_eq_error_iff {x : Running α} {f : α → Running β} {e : Failure} {s s' : Run} :
    (x >>= f).runFrom s = (.error e, s') ↔
      x.runFrom s = (.error e, s')
        ∨ ∃ a s₁, x.runFrom s = (.ok a, s₁) ∧ (f a).runFrom s₁ = (.error e, s') := by
  rw [runFrom_bind]
  rcases x.runFrom s with ⟨e | a, s₁⟩ <;> simp [and_assoc]

@[simp] theorem runFrom_get (s : Run) : (get : Running Run).runFrom s = (.ok s, s) := rfl

@[simp] theorem runFrom_modify (f : Run → Run) (s : Run) :
    (modify f : Running PUnit).runFrom s = (.ok (), f s) := rfl

@[simp] theorem runFrom_attempt (a : Attempt α) (s : Run) :
    (attempt a).runFrom s
      = ((a.runFrom s.trail).1, { s with trail := (a.runFrom s.trail).2 }) := rfl

@[simp] theorem runFrom_fail (f : Failure) (s : Run) :
    (fail f : Running α).runFrom s = (.error f, s) := rfl

@[simp] theorem runFrom_writeLine (channel : Channel) (text : String) (s : Run) :
    (writeLine channel text).runFrom s
      = (.ok (), { s with lines := s.lines ++ [⟨channel, text⟩] }) := rfl

@[simp] theorem runFrom_record (r : Log.Record) (s : Run) :
    (record r).runFrom s
      = (.ok (), { s with trail := { s.trail with log := s.trail.log ++ [r] } }) := rfl

@[simp] theorem runFrom_refuse (r : Refusal) (details : String) (s : Run) :
    (refuse r details : Running α).runFrom s
      = (.error (.refused r), { s with trail := Attempt.noted s.trail r details }) := by
  rw [refuse, runFrom_attempt, Attempt.runFrom_refuse]

theorem runFrom_catchRefusal (r : Running α) (s : Run) :
    (catchRefusal r).runFrom s =
      match r.runFrom s with
      | (.ok a, s) => (.ok (.ok a), s)
      | (.error (.refused x), s) => (.ok (.error x), s)
      | (.error f, s) => (.error f, s) := rfl

end Running

end ContractBuild
