import PipeGraph.Catalog.Basic
import PipeGraph.Catalog.Signature
import PipeGraph.CommandLine.Options
import PipeGraph.CommandLine.Run
import PipeGraph.Compiler
import PipeGraph.Editor.Graph
import PipeGraph.Editor.Reader
import PipeGraph.Engine
import PipeGraph.Error
import PipeGraph.Graph.Build
import PipeGraph.Graph.Classification
import PipeGraph.Graph.Extraction
import PipeGraph.Graph.Model
import PipeGraph.Graph.Role
import PipeGraph.Json.Complaints
import PipeGraph.Json.Document
import PipeGraph.Json.Keep
import PipeGraph.Json.Number
import PipeGraph.Json.Parser
import PipeGraph.Json.Quoted
import PipeGraph.Json.Record
import PipeGraph.Json.Value
import PipeGraph.Literal
import PipeGraph.Log.Event
import PipeGraph.Log.Logged
import PipeGraph.Main
import PipeGraph.Operator
import PipeGraph.Source.Flag
import PipeGraph.Source.Render
import PipeGraph.Text.Part
import PipeGraph.Text.Printable
import PipeGraph.Text.Quoted
import PipeGraph.Text.Run
import PipeGraph.Text.Terminal
import PipeGraph.Tree.Input
import PipeGraph.Tree.Normalize
import PipeGraph.Tree.Outline
import PipeGraph.Tree.Syntax
import PipeGraph.Proofs.Building
import PipeGraph.Proofs.Edges
import PipeGraph.Proofs.Walk
import PipeGraph.Proofs.Budget
import PipeGraph.Proofs.Unfolding
import PipeGraph.Proofs.Termination
import PipeGraph.Proofs.Readability
import PipeGraph.Proofs.Violations
import PipeGraph.Proofs.Artifacts
import PipeGraph.Proofs.Simulation
import PipeGraph.Proofs.Reordering
import PipeGraph.Proofs.Pruning
import PipeGraph.Proofs.Expressiveness
import PipeGraph.Proofs.Normalization
import PipeGraph.Proofs.Strictness
import PipeGraph.Proofs.NodeOrder
import PipeGraph.Proofs.Renaming
import PipeGraph.Proofs.JsonGrammar
import PipeGraph.Proofs.JsonReading
import PipeGraph.Proofs.Records
import PipeGraph.Proofs.RecordReaders
import PipeGraph.Proofs.GraphForm
import PipeGraph.Proofs.GraphWriting
import PipeGraph.Proofs.GraphReading
import PipeGraph.Proofs.KeptValues
import PipeGraph.Proofs.CatalogLoading
import PipeGraph.Proofs.CommandLineRun
import PipeGraph.Proofs.Defects
import PipeGraph.Proofs.Validation
import PipeGraph.Proofs.Safeguards
import PipeGraph.Proofs.TypeMappings
import PipeGraph.Proofs.Balance
import PipeGraph.Proofs.Events
import PipeGraph.Proofs.Branches
import PipeGraph.Proofs.CatalogCheck
import PipeGraph.Proofs.WalkLog
import PipeGraph.Proofs.CompileLog
import PipeGraph.Proofs.Drawing
import PipeGraph.Proofs.DrawingLength
import PipeGraph.Proofs.ValueRoundTrip
import PipeGraph.Proofs.CatalogSearch
import PipeGraph.Proofs.FlagRecovery
import PipeGraph.Proofs.ShortForm
