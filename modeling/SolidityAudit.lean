import SolidityAudit.Detection.Pipeline
import SolidityAudit.Main
import SolidityAudit.Proofs.Files.Route
import SolidityAudit.Proofs.Files.Tree
import SolidityAudit.Proofs.Files.Walk
import SolidityAudit.Proofs.Files.Directories
import SolidityAudit.Proofs.Files.ScratchPath
import SolidityAudit.Proofs.Detection.CleanUp
import SolidityAudit.Proofs.Detection.Reports
import SolidityAudit.Proofs.Detection.Substitution
import SolidityAudit.Proofs.Analysis.Faults
import SolidityAudit.Proofs.Json.Lexemes
import SolidityAudit.Proofs.Json.Tokens
import SolidityAudit.Proofs.Json.LineEnds
import SolidityAudit.Proofs.Json.RoundTrip
import SolidityAudit.Proofs.Report.DeclaredTypes
import SolidityAudit.Proofs.Report.Publication
import SolidityAudit.Proofs.Text.Split
import SolidityAudit.Proofs.Risk.Severities
import SolidityAudit.Proofs.Source.Grammar
import SolidityAudit.Proofs.Source.Coverage
import SolidityAudit.Proofs.Source.Nesting
import SolidityAudit.Proofs.Interface.SharedFunctions
import SolidityAudit.Proofs.Source.Quiet
import SolidityAudit.Proofs.Source.Printing
import SolidityAudit.Proofs.Source.RoundTrip
import SolidityAudit.Proofs.Source.Variables
import SolidityAudit.Proofs.Interface.Accessors
import SolidityAudit.Proofs.Detection.Returns
import SolidityAudit.Proofs.Explorer.Attempts
import SolidityAudit.Proofs.Explorer.Lookups
import SolidityAudit.Proofs.Interface.Compilation
import SolidityAudit.Proofs.Interface.Rereading
import SolidityAudit.Proofs.Analysis.Agreement
import SolidityAudit.Proofs.Files.Contents
import SolidityAudit.Proofs.Fault
import SolidityAudit.Proofs.Files.Refusals
import SolidityAudit.Proofs.CommandLine.Subjects
import SolidityAudit.Proofs.Journal.Sinks
import SolidityAudit.Proofs.CommandLine.Endings
import SolidityAudit.Proofs.Explorer.Backoff
import SolidityAudit.Proofs.Interface.Identifiers
import SolidityAudit.Proofs.Risk.Saturation
import SolidityAudit.Proofs.Explorer.Bundles
import SolidityAudit.Proofs.Interface.Parameters
import SolidityAudit.Proofs.Detection.StyleIssues
import SolidityAudit.Proofs.Interface.DeclaredNames
import SolidityAudit.Proofs.Interface.WellFormed
import SolidityAudit.Proofs.Source.Extension
import SolidityAudit.Proofs.Source.Markers
import SolidityAudit.Proofs.Detection.Layouts
import SolidityAudit.Proofs.Detection.Findings
import SolidityAudit.Proofs.Detection.FileScans
import SolidityAudit.Proofs.Risk.Labels
import SolidityAudit.Proofs.Interface.Segments
