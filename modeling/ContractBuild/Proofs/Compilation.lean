import ContractBuild.Proofs.Engine.Refusals

/-!
# One call of an engine

The compilation of a target is one call of the engine between two records of the log. It has a
result exactly if the engine answers (`run_eq_ok_iff`), and what it refuses is that the engine is
gone (`run_refuses_iff`); every other error of the engine goes through.
-/

namespace ContractBuild.Compilation

variable {e : Engine} {target : Target} {options : Options} {r : Compiled} {t t' : Trail}

/-- The trail after an engine was called. -/
def calledTrail (c : Engine.Call) (t : Trail) : Trail := { t with calls := t.calls ++ [c] }

/-- One call of an engine: it answers, it is gone, or its failure goes through. -/
theorem runFrom_callEngine (e : Engine) (c : Engine.Call) (t : Trail) :
    (callEngine e c).runFrom t =
      match e.compile c with
      | .ok r => (.ok r, calledTrail c t)
      | .error (.foreign x) =>
        if x.isUnavailable then
          (.error (.refused unavailable), Attempt.noted (calledTrail c t) unavailable x.details)
        else (.error (.foreign x), calledTrail c t)
      | .error f => (.error f, calledTrail c t) := by
  rw [callEngine, Attempt.runFrom_bind, Attempt.runFrom_call]
  cases e.compile c with
  | ok r => rfl
  | error f =>
    cases f with
    | foreign x =>
      simp only
      split
      next => exact Attempt.runFrom_refuse ..
      next => rfl
    | _ => rfl

/-- A request with an input is a call between two records. -/
theorem run_of_input {r : Request} {input : Engine.Input} (h : r.input? = .ok input) :
    run e r options = (do
    Attempt.record (startedRecord e r options)
    let c ← callEngine e ⟨input, options⟩
    Attempt.record (finishedRecord e r c)
    return c) := by
  cases r with
  | unknown kind typeName => exact absurd h (by simp [Request.input?])
  | mode m =>
    cases m with
    | directory p => exact absurd h (by simp [Request.input?])
    | inline text =>
      obtain rfl := Except.ok.inj h
      rfl
    | target target =>
      cases target with
      | project p =>
        obtain rfl := Except.ok.inj h
        rfl
      | sources s =>
        obtain rfl := Except.ok.inj h
        rfl

/-- What the engine is called with for a target. -/
def call (target : Target) (options : Options) : Engine.Call :=
  match target with
  | .project p => ⟨.project p, options⟩
  | .sources s => ⟨.sources s.files, options⟩

@[simp]
theorem options_call (target : Target) (options : Options) :
    (call target options).options = options := by
  cases target <;> rfl

/-- The trail after the record of a compilation's start. -/
def startedTrail (e : Engine) (target : Target) (options : Options) (t : Trail) : Trail :=
  { t with log := t.log ++ [startedRecord e (.mode (.target target)) options] }

/-- The trail after the record of a compilation's end. -/
def finishedTrail (e : Engine) (target : Target) (r : Compiled) (t : Trail) : Trail :=
  { t with log := t.log ++ [finishedRecord e (.mode (.target target)) r] }

/-- The compilation of a target is one call of the engine. -/
theorem runFrom_run (e : Engine) (target : Target) (options : Options) (t : Trail) :
    (run e (.mode (.target target)) options).runFrom t =
      match (callEngine e (call target options)).runFrom (startedTrail e target options t) with
      | (.ok r, t) => (.ok r, finishedTrail e target r t)
      | (.error f, t) => (.error f, t) := by
  have hrun : run e (.mode (.target target)) options = (do
      Attempt.record (startedRecord e (.mode (.target target)) options)
      let c ← callEngine e (call target options)
      Attempt.record (finishedRecord e (.mode (.target target)) c)
      return c) := by
    cases target <;> rfl
  rw [hrun, Attempt.runFrom_bind, Attempt.runFrom_record]
  simp only [Attempt.runFrom_bind]
  rw [startedTrail]
  cases (callEngine e (call target options)).runFrom
    { t with log := t.log ++ [startedRecord e (.mode (.target target)) options] } with
  | mk answer u => cases answer <;> rfl

/-- The trail after the answer of an engine. -/
def answeredTrail (e : Engine) (target : Target) (options : Options) (r : Compiled) (t : Trail) :
    Trail :=
  finishedTrail e target r (calledTrail (call target options) (startedTrail e target options t))

/-- A compilation has a result exactly if the engine answers. -/
theorem run_eq_ok_iff :
    (run e (.mode (.target target)) options).runFrom t = (.ok r, t') ↔
      e.compile (call target options) = .ok r ∧ t' = answeredTrail e target options r t := by
  rw [runFrom_run, runFrom_callEngine]
  cases e.compile (call target options) with
  | ok a =>
    simp only [Prod.mk.injEq, Except.ok.injEq]
    constructor
    · rintro ⟨rfl, rfl⟩
      exact ⟨rfl, rfl⟩
    · rintro ⟨rfl, rfl⟩
      exact ⟨rfl, rfl⟩
  | error f =>
    cases f with
    | foreign y => by_cases hy : y.isUnavailable <;> simp [hy]
    | _ => simp

/-- What a compilation refuses, if the engine refuses nothing itself. -/
theorem run_refuses_iff {x : Refusal} (he : e.NoRefusals) :
    (∃ t', (run e (.mode (.target target)) options).runFrom t = (.error (.refused x), t')) ↔
      (∃ y, e.compile (call target options) = .error (.foreign y) ∧ y.isUnavailable = true)
        ∧ x = unavailable := by
  have hcall := he.call (call target options)
  rw [runFrom_run, runFrom_callEngine]
  cases h : e.compile (call target options) with
  | ok a => simp
  | error f =>
    cases f with
    | foreign y =>
      by_cases hy : y.isUnavailable
      · simpa [hy] using eq_comm
      · simp [hy]
    | refused z => exact absurd h (hcall z)
    | _ => simp

end ContractBuild.Compilation
