import Tabstave.Main
import Tabstave.Proofs.Document.Passes
import Tabstave.Proofs.Document.Recovery
import Tabstave.Proofs.Stave.Comment
import Tabstave.Proofs.Stave.Continuation
import Tabstave.Proofs.Stave.Shape
import Tabstave.Proofs.Stave.Locality
import Tabstave.Proofs.Stave.Moved
import Tabstave.Proofs.Document.Report
import Tabstave.Proofs.Sorting.Permutation
import Tabstave.Proofs.Number.Nearest
import Tabstave.Proofs.Number.Shortest
import Tabstave.Proofs.Json.Numeral
import Tabstave.Proofs.Json.Reader
import Tabstave.Proofs.Json.RoundTrip
import Tabstave.Proofs.Json.Record
import Tabstave.Proofs.Document.ReportData
import Tabstave.Proofs.Cli.Arguments
import Tabstave.Proofs.Cli.CommandLine
import Tabstave.Proofs.Document.Source
import Tabstave.Proofs.Cli.Agreement
import Tabstave.Proofs.Text.Breaks
import Tabstave.Proofs.Cli.Ending
import Tabstave.Proofs.Cli.Verbatim
import Tabstave.Proofs.Line.Assignment
import Tabstave.Proofs.Stave.Padded
import Tabstave.Proofs.Document.Reading
import Tabstave.Proofs.Stave.Sweep
import Tabstave.Proofs.Document.Extension
import Tabstave.Proofs.Settings.Merge
