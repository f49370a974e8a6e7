import FlowPlan.Build
import FlowPlan.Collection
import FlowPlan.CommandLine.Arguments
import FlowPlan.CommandLine.Execute
import FlowPlan.Component
import FlowPlan.Date.Basic
import FlowPlan.Date.Text
import FlowPlan.Decimal.Binary
import FlowPlan.Decimal.Layout
import FlowPlan.Decimal.Reader
import FlowPlan.Decimal.Shortest
import FlowPlan.Document.Basic
import FlowPlan.Edge
import FlowPlan.Engine.Basic
import FlowPlan.Engine.Plan
import FlowPlan.Entity
import FlowPlan.Error
import FlowPlan.FileTree
import FlowPlan.Json.Number
import FlowPlan.Json.Printer
import FlowPlan.Json.Reader
import FlowPlan.Log
import FlowPlan.Main
import FlowPlan.Mismatch
import FlowPlan.Model.Basic
import FlowPlan.Model.File
import FlowPlan.Model.Load
import FlowPlan.Model.Text
import FlowPlan.Node.Basic
import FlowPlan.Node.Entity
import FlowPlan.Output
import FlowPlan.Parameter.Basic
import FlowPlan.Parameter.Entity
import FlowPlan.Path
import FlowPlan.Proofs.Admission
import FlowPlan.Proofs.Agreement
import FlowPlan.Proofs.Alike
import FlowPlan.Proofs.Attempt
import FlowPlan.Proofs.Attribution
import FlowPlan.Proofs.Build
import FlowPlan.Proofs.Building
import FlowPlan.Proofs.Calendar
import FlowPlan.Proofs.Check
import FlowPlan.Proofs.Collection
import FlowPlan.Proofs.Commands
import FlowPlan.Proofs.Comparison
import FlowPlan.Proofs.Compilation
import FlowPlan.Proofs.Component
import FlowPlan.Proofs.Cyclic
import FlowPlan.Proofs.DateText
import FlowPlan.Proofs.Demand
import FlowPlan.Proofs.Denial
import FlowPlan.Proofs.Diagnosis
import FlowPlan.Proofs.Distinct
import FlowPlan.Proofs.Entry
import FlowPlan.Proofs.Failure
import FlowPlan.Proofs.Fault
import FlowPlan.Proofs.FirstFailure
import FlowPlan.Proofs.Foundation
import FlowPlan.Proofs.History
import FlowPlan.Proofs.KeptKeys
import FlowPlan.Proofs.KeyOrder
import FlowPlan.Proofs.Ledger
import FlowPlan.Proofs.Level
import FlowPlan.Proofs.Limits
import FlowPlan.Proofs.Loading
import FlowPlan.Proofs.Loads
import FlowPlan.Proofs.Lookup
import FlowPlan.Proofs.Missed
import FlowPlan.Proofs.Network
import FlowPlan.Proofs.NodeEntry
import FlowPlan.Proofs.NodeView
import FlowPlan.Proofs.Operation
import FlowPlan.Proofs.OrderFreedom
import FlowPlan.Proofs.Outcome
import FlowPlan.Proofs.Override
import FlowPlan.Proofs.ParameterEntry
import FlowPlan.Proofs.Place
import FlowPlan.Proofs.Precedence
import FlowPlan.Proofs.Progress
import FlowPlan.Proofs.Proper
import FlowPlan.Proofs.Protocol
import FlowPlan.Proofs.Reach
import FlowPlan.Proofs.Reader
import FlowPlan.Proofs.Rearrangement
import FlowPlan.Proofs.Recording
import FlowPlan.Proofs.Reference
import FlowPlan.Proofs.Registration
import FlowPlan.Proofs.Registry
import FlowPlan.Proofs.Reload
import FlowPlan.Proofs.Reordering
import FlowPlan.Proofs.Repetition
import FlowPlan.Proofs.Resolution
import FlowPlan.Proofs.Result
import FlowPlan.Proofs.Round
import FlowPlan.Proofs.Rounds
import FlowPlan.Proofs.Schedule
import FlowPlan.Proofs.Schema
import FlowPlan.Proofs.Standstill
import FlowPlan.Proofs.StepName
import FlowPlan.Proofs.Succession
import FlowPlan.Proofs.Timestepper
import FlowPlan.Proofs.Transcript
import FlowPlan.Proofs.Turns
import FlowPlan.Proofs.UnknownKeys
import FlowPlan.Proofs.Untyped
import FlowPlan.Proofs.Volume
import FlowPlan.Proofs.WellFormed
import FlowPlan.Quantity
import FlowPlan.Recorder
import FlowPlan.Registry
import FlowPlan.Resolution
import FlowPlan.Schema
import FlowPlan.Section
import FlowPlan.Settings
import FlowPlan.Strictness
import FlowPlan.Table
import FlowPlan.Text.Blank
import FlowPlan.Text.Case
import FlowPlan.Text.Digit
import FlowPlan.Text.Hidden
import FlowPlan.Text.Lowercase
import FlowPlan.Text.Quoted
import FlowPlan.Text.Range
import FlowPlan.Timestepper
import FlowPlan.Toml.Reader
import FlowPlan.Toml.Table
import FlowPlan.Toml.Text
import FlowPlan.Yaml.Block
import FlowPlan.Yaml.Flow
import FlowPlan.Yaml.Node
import FlowPlan.Yaml.Reader
import FlowPlan.Yaml.Scalar
import FlowPlan.Yaml.Source
import FlowPlan.Yaml.Tag
import FlowPlan.Yaml.Token
import FlowPlan.Yaml.Tokens
import FlowPlan.Yaml.Writer
