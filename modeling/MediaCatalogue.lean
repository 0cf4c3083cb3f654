import MediaCatalogue.Main
import MediaCatalogue.Proofs.Text.Lines
import MediaCatalogue.Proofs.Text.Grid
import MediaCatalogue.Proofs.Formula.Frame
import MediaCatalogue.Proofs.Formula.Acceptance
import MediaCatalogue.Proofs.FirstOccurrence
import MediaCatalogue.Proofs.Spans
import MediaCatalogue.Proofs.Formula.Nesting
import MediaCatalogue.Proofs.Formula.Compiled
import MediaCatalogue.Proofs.Formula.Cancel
import MediaCatalogue.Proofs.Formula.RoundTrip
import MediaCatalogue.Proofs.Formula.Display
import MediaCatalogue.Proofs.Query.Clauses
import MediaCatalogue.Proofs.Query.GeneratedFormula
import MediaCatalogue.Proofs.Query.LeftFold
import MediaCatalogue.Proofs.Query.Faults
import MediaCatalogue.Proofs.Query.Spelling
import MediaCatalogue.Proofs.Catalogue.Keys
import MediaCatalogue.Proofs.Json.Text
import MediaCatalogue.Proofs.Json.Number
import MediaCatalogue.Proofs.Json.RoundTrip
import MediaCatalogue.Proofs.Files.Path
import MediaCatalogue.Proofs.Files.Ancestors
import MediaCatalogue.Proofs.Config.Discovery
import MediaCatalogue.Proofs.Files.Tree
import MediaCatalogue.Proofs.Media.Json
import MediaCatalogue.Proofs.Catalogue.Storage
import MediaCatalogue.Proofs.Catalogue.Positions
import MediaCatalogue.Proofs.Query.Slot
import MediaCatalogue.Proofs.CommandLine.Effect
import MediaCatalogue.Proofs.CommandLine.Display
import MediaCatalogue.Proofs.CommandLine.Remove
import MediaCatalogue.Proofs.Config.Nearest
import MediaCatalogue.Proofs.Config.Global
import MediaCatalogue.Proofs.Config.Precedence
import MediaCatalogue.Proofs.Toml.Text
import MediaCatalogue.Proofs.Toml.Document
import MediaCatalogue.Proofs.Files.Absolute
import MediaCatalogue.Proofs.Config.Saved
import MediaCatalogue.Proofs.CommandLine.Settings
import MediaCatalogue.Proofs.CommandLine.Search
import MediaCatalogue.Proofs.CommandLine.Check
import MediaCatalogue.Proofs.Files.Change
import MediaCatalogue.Proofs.CommandLine.Changes
import MediaCatalogue.Proofs.Config.Template
import MediaCatalogue.Proofs.Config.Silent
import MediaCatalogue.Proofs.CommandLine.Initialise
import MediaCatalogue.Proofs.Formula.Leaves
import MediaCatalogue.Proofs.Pattern.Anchor
import MediaCatalogue.Proofs.CommandLine.Warnings
import MediaCatalogue.Proofs.Query.Joined
import MediaCatalogue.Proofs.CommandLine.TypeFilter
import MediaCatalogue.Proofs.Query.Minutes
import MediaCatalogue.Proofs.Query.Comparison
import MediaCatalogue.Proofs.Media.Comparison
import MediaCatalogue.Proofs.Query.Pieces
import MediaCatalogue.Proofs.Formula.TruthTable
import MediaCatalogue.Proofs.CommandLine.Explanation
import MediaCatalogue.Proofs.Pattern.Word
import MediaCatalogue.Proofs.Media.Case
import MediaCatalogue.Proofs.Formula.Continuation
import MediaCatalogue.Proofs.Formula.Blame
import MediaCatalogue.Proofs.Config.Tilde
