import MetaLint.Issue.Parser
import MetaLint.Tool.Script
import MetaLint.Collector.Shared
import MetaLint.Finder.Shared
import MetaLint.Main
import MetaLint.Proofs.Grouping
import MetaLint.Proofs.Sorting
import MetaLint.Proofs.Merging
import MetaLint.Proofs.Accounting
import MetaLint.Proofs.Directives
import MetaLint.Proofs.Reading
import MetaLint.Proofs.Consistency
import MetaLint.Proofs.Finishing
import MetaLint.Proofs.Cleaning
import MetaLint.Proofs.Agreement
import MetaLint.Proofs.Undisturbed
import MetaLint.Proofs.Verdict
import MetaLint.Proofs.Isolation
import MetaLint.Proofs.DirectivePattern
import MetaLint.Proofs.Logging
import MetaLint.Proofs.Arrival
import MetaLint.Proofs.ProjectFiles
import MetaLint.Proofs.Reloading
import MetaLint.Proofs.Suppressing
import MetaLint.Proofs.Tabulating
import MetaLint.Proofs.Templates
import MetaLint.Proofs.WholeReports
import MetaLint.Proofs.EnabledNames
import MetaLint.Proofs.WrittenTargets
import MetaLint.Proofs.FlawPlaces
import MetaLint.Proofs.FileNames
import MetaLint.Proofs.ReadingInTurns
import MetaLint.Proofs.ToolFindings
import MetaLint.Proofs.BuiltinTools
import MetaLint.Proofs.Columns
import MetaLint.Proofs.Announcing
import MetaLint.Proofs.RacingReaders
import MetaLint.Proofs.Splitting
import MetaLint.Proofs.AgreeingViews
import MetaLint.Proofs.Accepting
import MetaLint.Proofs.CompositeKey
import MetaLint.Proofs.TidyText
import MetaLint.Proofs.StandingMarkers
import MetaLint.Proofs.MarkerExpression
import MetaLint.Proofs.Growing
import MetaLint.Proofs.KeyPaths
import MetaLint.Proofs.Overriding
import MetaLint.Proofs.RuleTable
import MetaLint.Proofs.Narrowing
import MetaLint.Proofs.Tracking
import MetaLint.Proofs.Capturing
import MetaLint.Proofs.ReportRows
import MetaLint.Proofs.ShownPaths
import MetaLint.Proofs.JoinedTexts
