import Scenarist.Main
import Scenarist.Log.Session
import Scenarist.Proofs.Text.Pattern
import Scenarist.Proofs.Feature.NormalForm
import Scenarist.Proofs.Literal.Reading
import Scenarist.Proofs.Literal.ReadBack
import Scenarist.Proofs.Step.Classification
import Scenarist.Proofs.Script.Statement
import Scenarist.Proofs.Script.Interpreted
import Scenarist.Proofs.Script.Parameters
import Scenarist.Proofs.Script.Outline
import Scenarist.Proofs.Script.PlaywrightJsReading
import Scenarist.Proofs.Script.Naming
import Scenarist.Proofs.Script.Distinct
import Scenarist.Proofs.Script.PytestPlaywrightReading
import Scenarist.Proofs.Settings.Lookup
import Scenarist.Proofs.Settings.Settled
import Scenarist.Proofs.Settings.Setting
import Scenarist.Proofs.Settings.Overrides
import Scenarist.Proofs.Settings.Endless
import Scenarist.Proofs.Disk.Change
import Scenarist.Proofs.Disk.Listing
import Scenarist.Proofs.Run.Perform
import Scenarist.Proofs.Run.Yield
import Scenarist.Proofs.Run.Discovery
import Scenarist.Proofs.Run.Batch
import Scenarist.Proofs.Run.Frame
import Scenarist.Proofs.Run.Independence
import Scenarist.Proofs.Run.Loading
import Scenarist.Proofs.Run.Precedence
import Scenarist.Proofs.Run.Reporting
import Scenarist.Proofs.Disk.Folders
import Scenarist.Proofs.Disk.Root
import Scenarist.Proofs.Run.Effect
import Scenarist.Proofs.Run.Containment
import Scenarist.Proofs.Run.Rerun
import Scenarist.Proofs.Disk.Alike
import Scenarist.Proofs.Run.Spoilt
import Scenarist.Proofs.Run.Consulting
import Scenarist.Proofs.CommandLine.Exit
import Scenarist.Proofs.Feature.Orphans
import Scenarist.Proofs.Log.Uniform
import Scenarist.Proofs.Script.Allocation
import Scenarist.Proofs.Script.Identifier
import Scenarist.Proofs.Step.Shadowing
import Scenarist.Proofs.Script.Pressing
import Scenarist.Proofs.Text.Search
import Scenarist.Proofs.Step.Expectation
import Scenarist.Proofs.Step.Capture
import Scenarist.Proofs.Step.Label
import Scenarist.Proofs.Script.Clicking
import Scenarist.Proofs.Text.Tokens
import Scenarist.Proofs.Text.Replacement
import Scenarist.Proofs.Literal.Passages
import Scenarist.Proofs.Step.Destination
import Scenarist.Proofs.Settings.Merging
import Scenarist.Proofs.Settings.Substitution
import Scenarist.Proofs.Settings.Agreement
import Scenarist.Proofs.Literal.Exactness
import Scenarist.Proofs.Literal.Pairing
import Scenarist.Proofs.Literal.Selector
import Scenarist.Proofs.Script.Lexis
import Scenarist.Proofs.Script.Commenting
