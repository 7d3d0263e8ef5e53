import LineReview.Main
import LineReview.Proofs.Identifier
import LineReview.Proofs.Review.Site
import LineReview.Proofs.Review.Reference
import LineReview.Proofs.Review.Exactness
import LineReview.Proofs.Advice
import LineReview.Proofs.Rating
import LineReview.Proofs.Review.Concatenation
import LineReview.Proofs.Review.Margin
import LineReview.Proofs.Review.Language
import LineReview.Proofs.Json.Text
import LineReview.Proofs.Json.Numeral
import LineReview.Proofs.Json.Document
import LineReview.Proofs.Json.Record
import LineReview.Proofs.Report.Document
import LineReview.Proofs.Report.Sarif
import LineReview.Proofs.Report.Escape
import LineReview.Proofs.Report.Style
import LineReview.Proofs.Report.Panel
import LineReview.Proofs.FileSystem.Walk
import LineReview.Proofs.FileSystem.Growth
import LineReview.Proofs.Command.Start
import LineReview.Proofs.Config.Validity
import LineReview.Proofs.Config.Loading
import LineReview.Proofs.Command.Source
import LineReview.Proofs.Command.Review
import LineReview.Proofs.Command.Gate
import LineReview.Proofs.Command.Blame
import LineReview.Proofs.Text.Search
import LineReview.Proofs.Rule.OptionalChaining
import LineReview.Proofs.Rule.Repair
import LineReview.Proofs.Number.Shortest
import LineReview.Proofs.Number.Text
import LineReview.Proofs.Assistant.Request
import LineReview.Proofs.Json.Decoding
import LineReview.Proofs.Assistant.Reply
import LineReview.Proofs.Command.Explain
import LineReview.Proofs.Command.Starter
import LineReview.Proofs.Review.Ground
import LineReview.Proofs.Text.Occurrence
import LineReview.Proofs.Rule.Repetition
import LineReview.Proofs.Yaml.Scalar
import LineReview.Proofs.Yaml.Entry
import LineReview.Proofs.Yaml.Document
import LineReview.Proofs.Yaml.Field
import LineReview.Proofs.Config.Document
import LineReview.Proofs.Text.Run
import LineReview.Proofs.Review.Proposal
import LineReview.Proofs.Rule.Rewriting
import LineReview.Proofs.Config.Shadowing
import LineReview.Proofs.Text.LetterCase
import LineReview.Proofs.Name
import LineReview.Proofs.Catalogue
import LineReview.Proofs.Text.Trim
import LineReview.Proofs.FileSystem.Extension
import LineReview.Proofs.Config.LanguageChoice
import LineReview.Proofs.CommandLine.Group
import LineReview.Proofs.CommandLine.Reading
import LineReview.Proofs.CommandLine.Invocation
