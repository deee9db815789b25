import AccessStream.Command.Arguments
import AccessStream.Command.Explanation
import AccessStream.Command.Invocation
import AccessStream.Command.Listing
import AccessStream.Command.Plan
import AccessStream.Command.Report
import AccessStream.Decimal.Binary64
import AccessStream.Decision
import AccessStream.Evaluation
import AccessStream.Files.Path
import AccessStream.Files.Tree
import AccessStream.Json.Fault
import AccessStream.Json.Items
import AccessStream.Json.Members
import AccessStream.Json.Quoted
import AccessStream.Json.Reader
import AccessStream.Json.Skip
import AccessStream.Json.Value
import AccessStream.Log.Entry
import AccessStream.Main
import AccessStream.Policy.Basic
import AccessStream.Policy.Document
import AccessStream.Policy.Format
import AccessStream.Policy.Json
import AccessStream.Policy.Load
import AccessStream.Policy.Validation
import AccessStream.Proofs.AttributeSet
import AccessStream.Proofs.AttributeSet.History
import AccessStream.Proofs.AttributeSet.Written
import AccessStream.Proofs.Command.Checking
import AccessStream.Proofs.Command.Diagnostics
import AccessStream.Proofs.Command.Explanation
import AccessStream.Proofs.Command.Ignored
import AccessStream.Proofs.Command.Preparation
import AccessStream.Proofs.Command.Printed
import AccessStream.Proofs.Decimal
import AccessStream.Proofs.Fields
import AccessStream.Proofs.Files.Path
import AccessStream.Proofs.Json.Cut
import AccessStream.Proofs.Json.FirstFault
import AccessStream.Proofs.Json.Number
import AccessStream.Proofs.Json.Object
import AccessStream.Proofs.Json.Pretty
import AccessStream.Proofs.Json.Quoted
import AccessStream.Proofs.Json.Value
import AccessStream.Proofs.Json.Written
import AccessStream.Proofs.Policy.Absence
import AccessStream.Proofs.Policy.Acceptance
import AccessStream.Proofs.Policy.Document
import AccessStream.Proofs.Policy.Extension
import AccessStream.Proofs.Policy.FirstFlaw
import AccessStream.Proofs.Policy.Json
import AccessStream.Proofs.Policy.Meaning
import AccessStream.Proofs.Policy.Mentions
import AccessStream.Proofs.Policy.Order
import AccessStream.Proofs.Policy.Outcomes
import AccessStream.Proofs.Policy.Parts
import AccessStream.Proofs.Policy.Refusal
import AccessStream.Proofs.Policy.Standard
import AccessStream.Proofs.Policy.Toml
import AccessStream.Proofs.Policy.Validation
import AccessStream.Proofs.Record
import AccessStream.Proofs.Settings.Agreement
import AccessStream.Proofs.Settings.Arrival
import AccessStream.Proofs.Settings.Choice
import AccessStream.Proofs.Settings.Documents
import AccessStream.Proofs.Settings.Place
import AccessStream.Proofs.Settings.Precedence
import AccessStream.Proofs.Settings.Resolution
import AccessStream.Proofs.Settings.Variables
import AccessStream.Proofs.Stream.Blanks
import AccessStream.Proofs.Stream.Cut
import AccessStream.Proofs.Stream.Emission
import AccessStream.Proofs.Stream.Events
import AccessStream.Proofs.Stream.Failures
import AccessStream.Proofs.Stream.Reader
import AccessStream.Proofs.Stream.Records
import AccessStream.Proofs.Stream.Rejections
import AccessStream.Proofs.Stream.Requests
import AccessStream.Proofs.Stream.Run
import AccessStream.Proofs.Stream.TrailingBlanks
import AccessStream.Proofs.Stream.Unflushed
import AccessStream.Proofs.Stream.Verdict
import AccessStream.Proofs.Text.Blank
import AccessStream.Proofs.Text.Front
import AccessStream.Proofs.Text.Order
import AccessStream.Proofs.Text.Utf8
import AccessStream.Proofs.Toml.Dialect
import AccessStream.Proofs.Toml.Distinct
import AccessStream.Proofs.Toml.Document
import AccessStream.Proofs.Toml.Key
import AccessStream.Proofs.Toml.Quoted
import AccessStream.Proofs.Toml.Tree
import AccessStream.Proofs.Toml.Value
import AccessStream.Record
import AccessStream.Request
import AccessStream.Request.Json
import AccessStream.Settings.Basic
import AccessStream.Settings.Environment
import AccessStream.Settings.File
import AccessStream.Settings.Layers
import AccessStream.Stream.Frame
import AccessStream.Stream.Options
import AccessStream.Stream.Pipeline
import AccessStream.Stream.Source
import AccessStream.Text.Alphanumeric
import AccessStream.Text.Blank
import AccessStream.Text.Cased
import AccessStream.Text.Lowercase
import AccessStream.Text.Utf8
import AccessStream.Toml.Blank
import AccessStream.Toml.Datetime
import AccessStream.Toml.Key
import AccessStream.Toml.Quoted
import AccessStream.Toml.Reader
import AccessStream.Toml.Tree
import AccessStream.Toml.Value
import AccessStream.Toml.Word
