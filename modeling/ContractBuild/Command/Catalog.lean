import ContractBuild.Command.Modules

/-!
# Catalogs of commands

`LazyGroup` of the program as a store of commands. A catalog holds registered commands, and
references to commands that are loaded when they are first asked for. A command that was loaded
once is kept, and a registered command hides a reference of the same name. A load that fails is
not kept: the next request tries again.

`get` returns the catalog with which the next request goes on. Besides the commands that were
loaded it remembers the modules that were imported, also by loads that failed, because a module
that was imported shows as an attribute of its package later. `names` is a function of the
registered names and the references alone, so what is listed does not depend on what was loaded.

Commands are known by where they come from (`Origin`): two requests give the same object exactly
if they give the same handle. Importing a module does not change a catalog.
-/

namespace ContractBuild.Command

/-- Where a command comes from. -/
inductive Origin where
  | registered
  | held (moduleName attr : String)
  deriving DecidableEq, Repr

/-- A command object: its own name and where it comes from. -/
structure Handle where
  name : String
  origin : Origin
  deriving DecidableEq, Repr

/-- The commands of a program. -/
structure Catalog where
  registered : List String := []
  /-- References `module:attribute` by the names of the commands. -/
  references : List (String × String) := []
  /-- The commands loaded so far. -/
  loaded : List (String × Handle) := []
  /-- The modules imported so far, also for loads that failed. -/
  imported : Imported := []

namespace Catalog

/-- The commands of this program. -/
def builtin : List (String × String) :=
  [("compile", "nccs_cli.commands.compile:compile_cmd"),
    ("resolve", "nccs_cli.commands.resolve:resolve")]

/-- The names of all commands, each once, in order. -/
def names (c : Catalog) : List String :=
  ((c.registered ++ c.references.map (·.1)).mergeSort fun a b => decide (a ≤ b)).eraseDups

/-- Loads the command that a reference names. -/
def load (modules : Universe) (imported : Imported) (name reference : String) :
    Except Failure Handle × Imported :=
  let (moduleName, attr?) := splitReference reference
  let attr := attr?.getD ""
  let (found, imported) := Module.load modules imported moduleName
  (do
    match ← (← found).get imported attr with
    | .object (.command own) => return ⟨own, .held moduleName attr⟩
    | _ => throw (.misuse (.notCommand name reference)), imported)

/-- Looks up a command by its name. -/
def get (modules : Universe) (c : Catalog) (name : String) :
    Except Failure (Option Handle) × Catalog :=
  if c.registered.contains name then (.ok (some ⟨name, .registered⟩), c)
  else
    match c.references.lookup name with
    | none => (.ok none, c)
    | some reference =>
      match c.loaded.lookup name with
      | some h => (.ok (some h), c)
      | none =>
        match load modules c.imported name reference with
        | (.ok h, imported) =>
          (.ok (some h), { c with loaded := c.loaded ++ [(name, h)], imported })
        | (.error f, imported) => (.error f, { c with imported })

end Catalog

end ContractBuild.Command
