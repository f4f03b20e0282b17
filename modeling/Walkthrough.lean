import Walkthrough.Binary64.Basic
import Walkthrough.Binary64.Text
import Walkthrough.Bindings
import Walkthrough.CommandLine.Execution
import Walkthrough.CommandLine.Words
import Walkthrough.Converter
import Walkthrough.Document.Fault
import Walkthrough.Document.File
import Walkthrough.Document.Outline
import Walkthrough.Document.Shape
import Walkthrough.Engine.Advance
import Walkthrough.Engine.Basic
import Walkthrough.Engine.Protocol
import Walkthrough.Error
import Walkthrough.Evaluator
import Walkthrough.Exchange
import Walkthrough.Graph
import Walkthrough.Host
import Walkthrough.Identifier
import Walkthrough.Json.Basic
import Walkthrough.Json.Reader
import Walkthrough.Json.Shape
import Walkthrough.Main
import Walkthrough.Overrides
import Walkthrough.Pool
import Walkthrough.Proofs.Binary64.Whole
import Walkthrough.Proofs.Document.Declared
import Walkthrough.Proofs.Document.Denotation
import Walkthrough.Proofs.Document.Layout
import Walkthrough.Proofs.Document.Loading
import Walkthrough.Proofs.Document.Records
import Walkthrough.Proofs.Document.Spelling
import Walkthrough.Proofs.Engine.Accounting
import Walkthrough.Proofs.Engine.Assessment
import Walkthrough.Proofs.Engine.Balance
import Walkthrough.Proofs.Engine.Call
import Walkthrough.Proofs.Engine.Conditions
import Walkthrough.Proofs.Engine.Defined
import Walkthrough.Proofs.Engine.Drive
import Walkthrough.Proofs.Engine.Errors
import Walkthrough.Proofs.Engine.Flawless
import Walkthrough.Proofs.Engine.Fuel
import Walkthrough.Proofs.Engine.Isolation
import Walkthrough.Proofs.Engine.Items
import Walkthrough.Proofs.Engine.Ledger
import Walkthrough.Proofs.Engine.Lineage
import Walkthrough.Proofs.Engine.Meaning
import Walkthrough.Proofs.Engine.Moments
import Walkthrough.Proofs.Engine.NameSafety
import Walkthrough.Proofs.Engine.Nesting
import Walkthrough.Proofs.Engine.Raised
import Walkthrough.Proofs.Engine.Reach
import Walkthrough.Proofs.Engine.Records
import Walkthrough.Proofs.Engine.Rounds
import Walkthrough.Proofs.Engine.Simulation
import Walkthrough.Proofs.Engine.Snapshots
import Walkthrough.Proofs.Engine.Syntax
import Walkthrough.Proofs.Engine.Termination
import Walkthrough.Proofs.Engine.Throughout
import Walkthrough.Proofs.Engine.Tree
import Walkthrough.Proofs.Engine.Turn
import Walkthrough.Proofs.Exchange
import Walkthrough.Proofs.Fallible
import Walkthrough.Proofs.Graph.Headings
import Walkthrough.Proofs.Graph.Links
import Walkthrough.Proofs.Graph.Script
import Walkthrough.Proofs.Graph.WellFormed
import Walkthrough.Proofs.Json.Canonical
import Walkthrough.Proofs.Json.Reading
import Walkthrough.Proofs.Json.Scalar
import Walkthrough.Proofs.Merging
import Walkthrough.Proofs.Pool.Moves
import Walkthrough.Proofs.Pool.Schedules
import Walkthrough.Proofs.RequestMaker.Causes
import Walkthrough.Proofs.RequestMaker.Headers
import Walkthrough.Proofs.RequestMaker.Hygiene
import Walkthrough.Proofs.Result.Children
import Walkthrough.Proofs.Result.Mirror
import Walkthrough.Proofs.Result.Passes
import Walkthrough.Proofs.Result.Places
import Walkthrough.Proofs.Scope.Bound
import Walkthrough.Proofs.Scope.Observed
import Walkthrough.Proofs.Scope.Shadowing
import Walkthrough.Proofs.Session.Reports
import Walkthrough.Proofs.Session.Returns
import Walkthrough.Proofs.Template.Congruence
import Walkthrough.Proofs.Template.Digits
import Walkthrough.Proofs.Template.Integers
import Walkthrough.Proofs.Template.Judging
import Walkthrough.Proofs.Template.Names
import Walkthrough.Proofs.Template.Reading
import Walkthrough.Proofs.Template.Sealed
import Walkthrough.Proofs.Template.Tolerance
import Walkthrough.Proofs.Template.Truth
import Walkthrough.Proofs.Validation.Issues
import Walkthrough.Proofs.Validation.Places
import Walkthrough.Proofs.Validation.Resolves
import Walkthrough.Proofs.Validation.Walk
import Walkthrough.Proofs.Yaml.Meaning
import Walkthrough.Report
import Walkthrough.RequestMaker
import Walkthrough.Result
import Walkthrough.Scenario
import Walkthrough.Scope
import Walkthrough.Session
import Walkthrough.Settings
import Walkthrough.Shape
import Walkthrough.Step
import Walkthrough.Template.Arguments
import Walkthrough.Template.Conversion
import Walkthrough.Template.Directive
import Walkthrough.Template.Eval
import Walkthrough.Template.Evaluator
import Walkthrough.Template.Expr
import Walkthrough.Template.Fault
import Walkthrough.Template.Filter
import Walkthrough.Template.Items
import Walkthrough.Template.Operator
import Walkthrough.Template.Parser
import Walkthrough.Template.Test
import Walkthrough.Template.Token
import Walkthrough.Template.Value
import Walkthrough.Text.Base64
import Walkthrough.Text.Case
import Walkthrough.Text.CaseTable
import Walkthrough.Text.Composition
import Walkthrough.Text.CompositionTable
import Walkthrough.Text.Hexadecimal
import Walkthrough.Text.Hidden
import Walkthrough.Text.Mark
import Walkthrough.Text.Number
import Walkthrough.Text.Parts
import Walkthrough.Text.Pieces
import Walkthrough.Text.Rows
import Walkthrough.Text.Silent
import Walkthrough.Text.Stretch
import Walkthrough.Text.Utf8
import Walkthrough.Transport
import Walkthrough.Url.Basic
import Walkthrough.Url.Direction
import Walkthrough.Url.Domain
import Walkthrough.Url.Fault
import Walkthrough.Url.Joining
import Walkthrough.Url.LetterTable
import Walkthrough.Url.Letters
import Walkthrough.Url.Machine
import Walkthrough.Url.Percent
import Walkthrough.Url.Punycode
import Walkthrough.Url.Reader
import Walkthrough.Validation
import Walkthrough.Yaml.Layout
import Walkthrough.Yaml.Node
import Walkthrough.Yaml.Place
import Walkthrough.Yaml.Scalar
import Walkthrough.Yaml.Token
import Walkthrough.Yaml.Value
import Walkthrough.Yaml.Written
