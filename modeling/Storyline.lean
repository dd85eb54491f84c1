import Storyline.CommandLine.Disk
import Storyline.Finding
import Storyline.Main
import Storyline.Placeholder
import Storyline.Timeline
import Storyline.Proofs.Dsl.Episode
import Storyline.Proofs.Dsl.FixedPoint
import Storyline.Proofs.Dsl.Nesting
import Storyline.Proofs.Dsl.Pause
import Storyline.Proofs.Encoding.Block
import Storyline.Proofs.Encoding.Scenario
import Storyline.Proofs.Transcript.Reopen
import Storyline.Proofs.Scenario.Frame
import Storyline.Proofs.Scenario.Hydrate
import Storyline.Proofs.Scenario.Union
import Storyline.Proofs.Sql.Agreement
import Storyline.Proofs.Sql.Prepared
import Storyline.Proofs.Sql.Reference
import Storyline.Proofs.Code
import Storyline.Proofs.Placeholder
import Storyline.Proofs.Finding.Compact
import Storyline.Proofs.Finding.Count
import Storyline.Proofs.Finding.Criteria
import Storyline.Proofs.Finding.Export
import Storyline.Proofs.Finding.Reload
import Storyline.Proofs.Finding.Script
import Storyline.Proofs.Line.Edit
import Storyline.Proofs.Line.Write
import Storyline.Proofs.Script.Recast
import Storyline.Proofs.Timeline.Operation
import Storyline.Proofs.Timeline.Edit
import Storyline.Proofs.Timeline.Inverse
import Storyline.Proofs.Script.Grammar
import Storyline.Proofs.Script.Layout
import Storyline.Proofs.Script.Pattern
import Storyline.Proofs.CommandLine.Disk
import Storyline.Proofs.CommandLine.Job
import Storyline.Proofs.CommandLine.Perform
import Storyline.Proofs.CommandLine.Arguments
import Storyline.Proofs.CommandLine.Run
