import TraceLens.Main
import TraceLens.Workbench.Rerun
import TraceLens.Highlight.Language
import TraceLens.Proofs.Bytecode.ControlFlow
import TraceLens.Proofs.Pane.Rendering
import TraceLens.Proofs.Source.Marking
import TraceLens.Proofs.Pane.History
import TraceLens.Proofs.Recorder.FirstEvents
import TraceLens.Proofs.Recorder.Limit
import TraceLens.Proofs.Highlight.LookUps
import TraceLens.Proofs.Graph.EdgeRoles
import TraceLens.Proofs.Graph.DotText
import TraceLens.Proofs.Graph.BreakpointMarks
import TraceLens.Proofs.Pane.LayoutFailures
import TraceLens.Proofs.Pane.ShownText
import TraceLens.Proofs.CommandLine.PageText
import TraceLens.Proofs.Workbench.StateChanges
import TraceLens.Proofs.Workbench.Reruns
import TraceLens.Proofs.Bytecode.Cuts
import TraceLens.Proofs.Bytecode.Offsets
import TraceLens.Proofs.Bytecode.Extents
import TraceLens.Proofs.Bytecode.Columns
import TraceLens.Proofs.CommandLine.ListingLines
import TraceLens.Proofs.CommandLine.StepsReport
import TraceLens.Proofs.Bytecode.LookUps
import TraceLens.Proofs.Bytecode.SourceLabels
import TraceLens.Proofs.Source.LibraryLabels
import TraceLens.Proofs.Source.Splitting
import TraceLens.Proofs.Graph.LabelLines
import TraceLens.Proofs.Highlight.LineCuts
