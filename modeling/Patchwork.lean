import Patchwork.Main
import Patchwork.Machine
import Patchwork.Storage.Memory
import Patchwork.Proofs.Text.LineCount
import Patchwork.Proofs.DuplicateRemoval.Rules
import Patchwork.Proofs.StepInsertion.LineEndings
import Patchwork.Proofs.StepInsertion.Sites
import Patchwork.Proofs.StepInsertion.WholeLines
import Patchwork.Proofs.Engine.Memory
import Patchwork.Proofs.Engine.Series
import Patchwork.Proofs.Engine.Machine
import Patchwork.Proofs.FileTree.Rewrite
import Patchwork.Proofs.JobCommand.Run
import Patchwork.Proofs.JobCommand.DryRun
import Patchwork.Proofs.StepInsertion.Repetition
import Patchwork.Proofs.DuplicateRemoval.KeptLines
import Patchwork.Proofs.DuplicateRemoval.Repetition
import Patchwork.Proofs.JobCommand.InOrder
import Patchwork.Proofs.Json.RoundTrip
import Patchwork.Proofs.Outcome.Report
import Patchwork.Proofs.PatchCommand.AllOrNothing
import Patchwork.Proofs.JobFile.OneSetting
import Patchwork.Proofs.Explanation
import Patchwork.Proofs.JobCommand.OutputModes
import Patchwork.Proofs.SameSettings
import Patchwork.Proofs.Placeholder.Pass
import Patchwork.Proofs.Placeholder.Pieces
import Patchwork.Proofs.DuplicateRemoval.Threshold
import Patchwork.Proofs.DuplicateRemoval.LineEndings
import Patchwork.Proofs.StepInsertion.Locality
import Patchwork.Proofs.Engine.Warning
import Patchwork.Proofs.Engine.Preview
import Patchwork.Proofs.Engine.Commutation
import Patchwork.Proofs.FileTree.ReadBack
import Patchwork.Proofs.JobFile.Requirements
import Patchwork.Proofs.JobFile.PlaceholderValue
import Patchwork.Proofs.CommandLine.Flags
import Patchwork.Proofs.PatchCommand.Written
import Patchwork.Proofs.Reporting
