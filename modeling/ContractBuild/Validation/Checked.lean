import ContractBuild.Document.Basic
import ContractBuild.Validation.Issue

/-!
# Checked values

The result of checking an input is a value or the list of all issues. Checks combine as an
applicative functor that collects the issues of every part, so a record reports all its fields at
once, in the order in which they are checked (`seq`). That is how the models of the program
(`CompilerOptions`, `OutputLayout`, `BuildOutcome` and the others) report what is wrong with their
fields.

A `Check` takes a document. `under` puts a step in front of the places of its issues, so the check
of a field need not know where the field stands. `required` and `optional` look a field up among
the members of a record, and `noOthers` refuses the members that no field has; the three together
are a record (`record`).

Checks are lazy about nothing: a later field is checked also if an earlier one is wrong.
-/

namespace ContractBuild.Validation

/-- A value, or the issues of the input that should have given it. -/
inductive Checked (α : Type) where
  | valid (a : α)
  | invalid (issues : List Issue)
  deriving DecidableEq, Repr

namespace Checked

def map {α β : Type} (f : α → β) : Checked α → Checked β
  | valid a => valid (f a)
  | invalid issues => invalid issues

/-- Both parts are needed, and both are reported. -/
def seq {α β : Type} : Checked (α → β) → Checked α → Checked β
  | valid f, valid a => valid (f a)
  | valid _, invalid js => invalid js
  | invalid is, valid _ => invalid is
  | invalid is, invalid js => invalid (is ++ js)

instance : Applicative Checked where
  pure := valid
  map := map
  seq f a := seq f (a ())

def toExcept {α : Type} : Checked α → Except (List Issue) α
  | valid a => .ok a
  | invalid is => .error is

/-- Continues with a second check of a valid value. -/
def andThen {α β : Type} (a : Checked α) (f : α → Checked β) : Checked β :=
  match a with
  | valid a => f a
  | invalid is => invalid is

/-- Puts the issues of a value below the step that leads to it. -/
def under {α : Type} (step : Place) : Checked α → Checked α
  | valid a => valid a
  | invalid is => invalid (is.map fun i => { i with place := step :: i.place })

/-- A value that breaks a rule where it stands. -/
def broken {α : Type} (rule : Rule) : Checked α := invalid [⟨[], rule⟩]

/-! ## Valid parts -/

variable {α β : Type} {x : Checked α} {b : β}

theorem map_eq_valid_iff {f : α → β} : f <$> x = .valid b ↔ ∃ a, x = .valid a ∧ f a = b := by
  cases x <;> simp [Functor.map, Checked.map]

theorem seq_eq_valid_iff {f : Checked (α → β)} :
    f <*> x = .valid b ↔ ∃ g a, f = .valid g ∧ x = .valid a ∧ g a = b := by
  cases f <;> cases x <;> simp [Seq.seq, Checked.seq]

theorem under_eq_valid_iff {step : Place} {a : α} : x.under step = .valid a ↔ x = .valid a := by
  cases x <;> simp [under]

end Checked

/-- A check of an input value. -/
abbrev Check (α : Type) := Document → Checked α

/-! ## Fields of a record -/

/-- Looks up the value of a field. -/
def member? (members : List (Document × Document)) (name : String) : Option Document :=
  (Document.dict members).get? name

/-- A field that must be given. -/
def required {α : Type} (members : List (Document × Document)) (name : String) (check : Check α) :
    Checked α :=
  match member? members name with
  | some v => (check v).under (.field name)
  | none => .invalid [⟨[.field name], .required⟩]

/-- A field with a default, which is not checked. -/
def optional {α : Type} (members : List (Document × Document)) (name : String) (default : α)
    (check : Check α) : Checked α :=
  match member? members name with
  | some v => (check v).under (.field name)
  | none => .valid default

/-- The fields given beyond the known ones, in the order of the input. -/
def noOthers (members : List (Document × Document)) (known : List String) : Checked Unit :=
  let others := members.filterMap fun m =>
    match m.1 with
    | .str s => if known.contains s then none else some (Issue.mk [.field s] .noSuchField)
    | _ => none
  if others.isEmpty then .valid () else .invalid others

/-- A record read from a dictionary. -/
def record {α : Type} (typeName : String) (check : List (Document × Document) → Checked α) :
    Check α
  | .dict members => check members
  | _ => .broken (.record typeName)

end ContractBuild.Validation
