import ContractBuild.Build.InMemory
import ContractBuild.Command.Construction
import ContractBuild.Document.Reader
import ContractBuild.Engine.Samples
import ContractBuild.Failure.Construction
import ContractBuild.Main
import ContractBuild.Proofs.Artifact.Interrupted
import ContractBuild.Proofs.Build.Again
import ContractBuild.Proofs.Build.Agreement
import ContractBuild.Proofs.Build.Calls
import ContractBuild.Proofs.Build.Confinement
import ContractBuild.Proofs.Build.Delivery
import ContractBuild.Proofs.Build.Details
import ContractBuild.Proofs.Build.Directory
import ContractBuild.Proofs.Build.Effects
import ContractBuild.Proofs.Build.Endings
import ContractBuild.Proofs.Build.Named
import ContractBuild.Proofs.Build.Transcript
import ContractBuild.Proofs.Console.Channels
import ContractBuild.Proofs.Console.Markup
import ContractBuild.Proofs.Command.ExitCodes
import ContractBuild.Proofs.Command.LoadedOnce
import ContractBuild.Proofs.Command.Prediction
import ContractBuild.Proofs.Command.Selection
import ContractBuild.Proofs.Disk.Lexical
import ContractBuild.Proofs.Disk.Opens
import ContractBuild.Proofs.Document.Compact
import ContractBuild.Proofs.Document.Conformity
import ContractBuild.Proofs.Document.ReadBack
import ContractBuild.Proofs.Document.Unwritable
import ContractBuild.Proofs.Engine.Default
import ContractBuild.Proofs.Engine.Escapes
import ContractBuild.Proofs.Engine.Wording
import ContractBuild.Proofs.Sources.Listed
import ContractBuild.Sink
import ContractBuild.Validation.Assign
import ContractBuild.Workspace
