import Triage.Alert
import Triage.Analysis
import Triage.Backend.Client
import Triage.Backend.Error
import Triage.Backend.Exchange
import Triage.Backend.HostName
import Triage.Backend.Url
import Triage.Cascade
import Triage.CommandLine.Arguments
import Triage.CommandLine.Outcome
import Triage.CommandLine.Token
import Triage.CommandLine.Usage
import Triage.Completion
import Triage.Config.Basic
import Triage.Config.Dotenv
import Triage.Decimal.Binary64
import Triage.Decimal.Notation
import Triage.Decimal.Numeral
import Triage.Decimal.Shortest
import Triage.Decision
import Triage.Extraction
import Triage.Failure
import Triage.Files
import Triage.Interpretation
import Triage.Json.Basic
import Triage.Json.Printer
import Triage.Json.Reader
import Triage.Keyword
import Triage.Log.Context
import Triage.Log.Layout
import Triage.Log.Line
import Triage.Main
import Triage.Metrics
import Triage.Policy.Basic
import Triage.Policy.Document
import Triage.Policy.PatternSpec
import Triage.Policy.Standard
import Triage.Predicate
import Triage.Prompt
import Triage.Proofs.Address
import Triage.Proofs.Run
import Triage.Recognition
import Triage.Regex.Alternatives
import Triage.Regex.Basic
import Triage.Regex.CharSet
import Triage.Regex.CharTest
import Triage.Regex.Escape
import Triage.Regex.Group
import Triage.Regex.Matcher
import Triage.Regex.Reader
import Triage.Regex.Reading
import Triage.Regex.Repetition
import Triage.Regex.Token
import Triage.Reply.Object
import Triage.Report.Basic
import Triage.Report.Moment
import Triage.Report.Option
import Triage.Report.Summary
import Triage.Report.Tool
import Triage.Rules
import Triage.Schema.Checked
import Triage.Schema.Field
import Triage.Schema.Issue
import Triage.Session
import Triage.Store
import Triage.Template
import Triage.Text.Basic
import Triage.Text.Case
import Triage.Text.CharClass
import Triage.Text.Point
import Triage.Text.Quoted
import Triage.Text.Table.Alphanumeric
import Triage.Text.Table.Case
import Triage.Text.Table.Decimal
import Triage.Text.Table.HostName
import Triage.Text.Table.Identifier
import Triage.Text.Table.Name
import Triage.Text.Table.Unprintable
import Triage.Text.Utf8
import Triage.Proofs.Exchange
import Triage.Proofs.Cascade
import Triage.Proofs.Consultation
import Triage.Proofs.Schema
import Triage.Proofs.Settings
import Triage.Proofs.Alert
import Triage.Proofs.Rules
import Triage.Proofs.Denylist
import Triage.Proofs.Interpretation
import Triage.Proofs.Recognition
import Triage.Proofs.Policy
import Triage.Proofs.Document
import Triage.Proofs.Store
import Triage.Proofs.Requests
import Triage.Proofs.Status
import Triage.Proofs.Independence
import Triage.Proofs.Braces
import Triage.Proofs.Recovery
import Triage.Proofs.Placeholder
import Triage.Proofs.Substitution
import Triage.Proofs.Summary
import Triage.Proofs.Record
import Triage.Proofs.Resolution
import Triage.Proofs.Origin
import Triage.Proofs.Attachment
import Triage.Proofs.Presence
import Triage.Proofs.Completion
import Triage.Proofs.Isolation
import Triage.Proofs.Mark
import Triage.Proofs.Steady
import Triage.Proofs.Survey
import Triage.Proofs.Analysis
import Triage.Proofs.Succession
import Triage.Proofs.Provenance
import Triage.Proofs.Count
import Triage.Proofs.Course
import Triage.Proofs.Account
import Triage.Proofs.Magnitude
import Triage.Proofs.WellFormed
import Triage.Proofs.Restatement
import Triage.Proofs.Keyword
import Triage.Proofs.Groups
import Triage.Proofs.Unchecked
import Triage.Proofs.Matching
import Triage.Proofs.Numeral
import Triage.Proofs.Captured
import Triage.Proofs.Standard
import Triage.Proofs.Condition
import Triage.Proofs.Precedence
import Triage.Proofs.Layering
import Triage.Proofs.Fault
import Triage.Proofs.Outcome
import Triage.Proofs.Composition
import Triage.Proofs.Filling
import Triage.Proofs.Literal
import Triage.Proofs.Projection
import Triage.Proofs.Words
import Triage.Proofs.Separation
import Triage.Proofs.Reproduction
import Triage.Proofs.Proposal
import Triage.Proofs.Outline
import Triage.Proofs.Cutting
import Triage.Proofs.Items
import Triage.Proofs.Walk
import Triage.Proofs.Likeness
import Triage.Proofs.Agreement
import Triage.Proofs.Snapshot
import Triage.Proofs.Scheme
import Triage.Proofs.Legacy
import Triage.Proofs.Balance
