import ContractBuild.Build.Basic
import ContractBuild.Command.Arguments
import ContractBuild.Command.Error
import ContractBuild.Console
import ContractBuild.Log.Setup
import ContractBuild.Settings.Basic

/-!
# Sessions

A session is one run of the command line: it starts from a disk, prints messages, leaves a trail,
and comes to an end in one of a few ways (`Interruption`), each with its exit code. The ways are
kept apart by what the program does with them, not by what is shown: a usage error as it is raised
(`misread`) is another ending than one that was turned into an input error (`usage`).

A usage error has the exit code 2 of its own, which the program keeps for a directory without
sources. `asInputError` (`_as_input_error` of the program) gives it another one, and whoever runs
a stage of the program has to put that around it. Nothing else changes an exit code on the way
out.

A failure that no command expects ends a session with the code of the failure
(`Failure.exitCode`): 1, or the code that a request to end the process names.

Like runs, sessions have a `runFrom` lemma for each operation. A run becomes a part of a session
by `ofRunning`, which prints its lines as they are.

What the framework prints of a usage error is left out, and so are the messages of its own that it
prints for a request to end.
-/

namespace ContractBuild.Command

/-- The circumstances of a session. -/
structure Context where
  host : Host
  registry : Engine.Registry := {}
  /-- An engine that takes the place of any that the arguments or the settings name. -/
  engine : Option Engine.Source := none

/-- How a session ends before a command has done its work. -/
inductive Interruption where
  /-- The version was asked for. -/
  | version
  /-- Help was asked for. -/
  | help
  /-- A usage error with its own exit code: something is wrong with the arguments, or there are
  none. -/
  | misread (e : Option UsageError)
  /-- No arguments were given at all, which is answered with help. -/
  | noArguments
  | usage (e : UsageError)
  | error (e : Error)
  /-- A failure that no command expects. -/
  | failure (f : Failure)
  deriving DecidableEq, Repr

/-- The exit code of a session that ends early. -/
def Interruption.exitCode : Interruption → Nat
  | version | help => 0
  | misread _ => 2
  | error e => e.exitCode
  | failure f => f.exitCode
  | noArguments | usage _ => 1

/-- Gives a usage error the exit code of a bad input. -/
def Interruption.asInputError : Interruption → Interruption
  | misread none => noArguments
  | misread (some e) => usage e
  | i => i

/-- The state of a session. -/
structure Session where
  disk : Disk
  /-- The messages printed so far. -/
  messages : List Message := []
  trail : Trail := {}
  log : Log.Setup := .initial
  noColor : Bool := false

abbrev Commanding := ExceptT Interruption (StateM Session)

namespace Commanding

/-- Runs from a state. -/
def runFrom {α : Type} (c : Commanding α) (s : Session) : Except Interruption α × Session :=
  StateT.run (ExceptT.run c) s

/-- Ends the session early. -/
def interrupt {α : Type} (i : Interruption) : Commanding α := throw i

/-- Ends the session if something is wrong with the arguments. -/
def ofUsage {α : Type} : Except UsageError α → Commanding α
  | .ok a => pure a
  | .error e => interrupt (.misread (some e))

/-- A stage whose usage errors have the exit code of a bad input. -/
def asInputError {α : Type} (c : Commanding α) : Commanding α :=
  ExceptT.mk fun s => let (x, s) := c.runFrom s; (x.mapError Interruption.asInputError, s)

/-- Prints a message. -/
def print (m : Message) : Commanding Unit :=
  modify fun s => { s with messages := s.messages ++ [m] }

/-- Prints help and ends the session, which has asked for it or has no arguments. -/
def help {α : Type} (lines : List String) (reason : Interruption := .help) : Commanding α := do
  lines.forM fun line => print (.plain ⟨.out, line⟩)
  interrupt reason

/-- A run as part of a session. Its lines are printed as they are. -/
def ofRunning {α : Type} (r : Running α) : Commanding (Except Failure α) :=
  ExceptT.mk fun s =>
    let (x, t) := r.runFrom { disk := s.disk, trail := s.trail }
    (.ok x, { s with
      disk := t.disk
      messages := s.messages ++ t.lines.map .plain
      trail := t.trail })

/-- Ends the session if a failure is met that no command expects. -/
def ofExcept {α : Type} : Except Failure α → Commanding α
  | .ok a => pure a
  | .error f => interrupt (.failure f)

/-- The settings in force. What cannot be read in the settings file is told if the log shows
warnings; invalid settings end the session. -/
def settings (host : Host) : Commanding Settings := do
  let s ← get
  let warnings ← ofExcept (Settings.fileWarnings host s.disk)
  if s.log.shows .warning then
    warnings.forM fun w => print (.plain ⟨.err, w⟩)
  match ← ofExcept (Settings.read host s.disk) with
  | .valid s => return s
  | .invalid issues => interrupt (.error (invalidSettings issues))

/-! ## Running step by step -/

variable {α β : Type}

@[simp] theorem runFrom_pure (a : α) (s : Session) :
    (pure a : Commanding α).runFrom s = (.ok a, s) := rfl

theorem runFrom_bind (c : Commanding α) (f : α → Commanding β) (s : Session) :
    (c >>= f).runFrom s =
      match c.runFrom s with
      | (.ok a, s) => (f a).runFrom s
      | (.error i, s) => (.error i, s) := by
  simp only [runFrom, ExceptT.run_bind, StateT.run_bind]
  rcases StateT.run (ExceptT.run c) s with ⟨i | a, u⟩ <;> rfl

/-- After a stage with a result the session goes on. -/
theorem runFrom_bind_of_ok {c : Commanding α} {f : α → Commanding β} {a : α} {s s₁ : Session}
    (h : c.runFrom s = (.ok a, s₁)) : (c >>= f).runFrom s = (f a).runFrom s₁ := by
  rw [runFrom_bind, h]

theorem runFrom_bind_eq_ok_iff {c : Commanding α} {f : α → Commanding β} {b : β}
    {s s' : Session} :
    (c >>= f).runFrom s = (.ok b, s') ↔
      ∃ a s₁, c.runFrom s = (.ok a, s₁) ∧ (f a).runFrom s₁ = (.ok b, s') := by
  rw [runFrom_bind]
  rcases c.runFrom s with ⟨i | a, s₁⟩ <;> simp [and_assoc]

theorem runFrom_bind_eq_error_iff {c : Commanding α} {f : α → Commanding β} {i : Interruption}
    {s s' : Session} :
    (c >>= f).runFrom s = (.error i, s') ↔
      c.runFrom s = (.error i, s')
        ∨ ∃ a s₁, c.runFrom s = (.ok a, s₁) ∧ (f a).runFrom s₁ = (.error i, s') := by
  rw [runFrom_bind]
  rcases c.runFrom s with ⟨i | a, s₁⟩ <;> simp [and_assoc]

@[simp] theorem runFrom_get (s : Session) :
    (get : Commanding Session).runFrom s = (.ok s, s) := rfl

@[simp] theorem runFrom_modify (f : Session → Session) (s : Session) :
    (modify f : Commanding PUnit).runFrom s = (.ok (), f s) := rfl

@[simp] theorem runFrom_interrupt (i : Interruption) (s : Session) :
    (interrupt i : Commanding α).runFrom s = (.error i, s) := rfl

@[simp] theorem runFrom_ofExcept_ok (a : α) (s : Session) :
    (ofExcept (.ok a)).runFrom s = (.ok a, s) := rfl

@[simp] theorem runFrom_print (m : Message) (s : Session) :
    (print m).runFrom s = (.ok (), { s with messages := s.messages ++ [m] }) := rfl

@[simp] theorem runFrom_asInputError (c : Commanding α) (s : Session) :
    (asInputError c).runFrom s
      = ((c.runFrom s).1.mapError Interruption.asInputError, (c.runFrom s).2) := rfl

@[simp] theorem runFrom_ofRunning (r : Running α) (s : Session) :
    (ofRunning r).runFrom s =
      let u := (r.runFrom { disk := s.disk, trail := s.trail }).2
      (.ok (r.runFrom { disk := s.disk, trail := s.trail }).1,
        { s with
          disk := u.disk
          messages := s.messages ++ u.lines.map .plain
          trail := u.trail }) := rfl

/-- Messages are printed one after another. -/
theorem runFrom_forM_print (m : α → Message) (as : List α) (s : Session) :
    (as.forM fun a => print (m a)).runFrom s
      = (.ok (), { s with messages := s.messages ++ as.map m }) := by
  induction as generalizing s with
  | nil => simp [List.forM]
  | cons a as ih =>
    refine (runFrom_bind_of_ok (runFrom_print (m a) s)).trans ?_
    rw [ih]
    simp

end Commanding

/-- The console of a session. -/
def Session.console (s : Session) : Console :=
  ({ noColor := s.noColor } : Console).printAll s.messages

/-- The log records that a session shows. -/
def Session.records (s : Session) : List Log.Record := s.log.shown s.trail.log

/-- The exit code of a session. -/
def exitCode {α : Type} : Except Interruption α → Nat
  | .ok _ => 0
  | .error i => i.exitCode

/-- The path arguments of a command. Any text is a path, except that the null character in it makes
it unusable. -/
def pathArguments (texts : List String) : Commanding (List String) :=
  if texts.any fun s => s.toList.contains '\x00' then
    Commanding.interrupt (.failure .nulInPath)
  else pure texts

end ContractBuild.Command
