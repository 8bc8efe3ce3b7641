import BuildSummary.Main
import BuildSummary.Proofs.Runs
import BuildSummary.Proofs.Window
import BuildSummary.Proofs.Reading
import BuildSummary.Proofs.SameFiles
import BuildSummary.Proofs.TestSummary
import BuildSummary.Proofs.Gate
import BuildSummary.Proofs.Cppcheck
import BuildSummary.Proofs.Parts
import BuildSummary.Proofs.PrintedLines
import BuildSummary.Proofs.PrintedWords
import BuildSummary.Proofs.Telling
import BuildSummary.Proofs.RoundTrip
import BuildSummary.Proofs.Unfinished
import BuildSummary.Proofs.Refusal
import BuildSummary.Proofs.Growth
import BuildSummary.Proofs.Evidence
import BuildSummary.Proofs.History
import BuildSummary.Proofs.Listing
import BuildSummary.Proofs.Decoding
import BuildSummary.Proofs.Replacement
import BuildSummary.Proofs.ByteLines
import BuildSummary.Proofs.Totals
import BuildSummary.Proofs.TrailingBlanks
import BuildSummary.Proofs.Trimming
import BuildSummary.Proofs.Provenance
import BuildSummary.Proofs.WellFormed
import BuildSummary.Proofs.LastRun
import BuildSummary.Proofs.Explanation
import BuildSummary.Proofs.Outcome
import BuildSummary.Proofs.TableWidth
import BuildSummary.Proofs.BuildWidth
import BuildSummary.Proofs.OpenRun
import BuildSummary.Proofs.Noise
import BuildSummary.Proofs.ListedFiles
import BuildSummary.Proofs.SummaryLines
import BuildSummary.Proofs.FailedTests
import BuildSummary.Proofs.Diagnostics
import BuildSummary.Proofs.Readers
import BuildSummary.Proofs.Observations
import BuildSummary.Proofs.Concatenation
import BuildSummary.Proofs.TableLayout
import BuildSummary.Proofs.Wrapping
import BuildSummary.Proofs.ChangedFilesRoom
import BuildSummary.Proofs.TableRoom
import BuildSummary.Proofs.DifferingFiles
