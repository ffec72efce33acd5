import AgentSpec.Agent.Decode
import AgentSpec.Agent.Encode
import AgentSpec.Agent.Request
import AgentSpec.Agent.RequestFile
import AgentSpec.Agent.Stored
import AgentSpec.Assistant.Basic
import AgentSpec.Assistant.Error
import AgentSpec.Assistant.Exchange
import AgentSpec.Assistant.Prompt
import AgentSpec.Assistant.Request
import AgentSpec.Assistant.Status
import AgentSpec.CommandLine.Arguments
import AgentSpec.CommandLine.EnvFile
import AgentSpec.CommandLine.Execution
import AgentSpec.Compile.Basic
import AgentSpec.Compile.Error
import AgentSpec.Compile.Outcome
import AgentSpec.Compile.Persist
import AgentSpec.Compile.Run
import AgentSpec.Compile.Settings
import AgentSpec.Compile.Synthesis
import AgentSpec.Connection.Catalog
import AgentSpec.Connection.Phrase
import AgentSpec.Decimal.Binary64
import AgentSpec.Decimal.Digits
import AgentSpec.Decimal.Power
import AgentSpec.Decimal.Shortest
import AgentSpec.Dictionary
import AgentSpec.Enrich.Addition
import AgentSpec.Enrich.Basic
import AgentSpec.Enrich.Credential
import AgentSpec.Enrich.DisplayField
import AgentSpec.Enrich.Issue
import AgentSpec.Enrich.Output
import AgentSpec.Enrich.Reference
import AgentSpec.Enrich.Warning
import AgentSpec.Graph.Basic
import AgentSpec.Graph.Decode
import AgentSpec.Graph.Encode
import AgentSpec.Graph.Lookup
import AgentSpec.Graph.Shape
import AgentSpec.Graph.Violation
import AgentSpec.Json.Basic
import AgentSpec.Json.Cursor
import AgentSpec.Json.Document
import AgentSpec.Json.Flaw
import AgentSpec.Json.Numeral
import AgentSpec.Json.Printer
import AgentSpec.Json.Quote
import AgentSpec.Json.Reader
import AgentSpec.Json.Record
import AgentSpec.Json.Refusal
import AgentSpec.Json.Scan
import AgentSpec.Json.Written
import AgentSpec.Main
import AgentSpec.Program.Basic
import AgentSpec.Program.Milestone
import AgentSpec.Program.Run
import AgentSpec.Proofs.Agent.Codec
import AgentSpec.Proofs.Agent.RoundTrip
import AgentSpec.Proofs.Assistant.Fence
import AgentSpec.Proofs.Compile.Addition
import AgentSpec.Proofs.Compile.Admission
import AgentSpec.Proofs.Compile.Candidates
import AgentSpec.Proofs.Compile.Concurrent
import AgentSpec.Proofs.Compile.Counts
import AgentSpec.Proofs.Compile.Displayable
import AgentSpec.Proofs.Compile.Lossless
import AgentSpec.Proofs.Compile.Permitted
import AgentSpec.Proofs.Compile.Phases
import AgentSpec.Proofs.Compile.Progress
import AgentSpec.Proofs.Compile.Rejection
import AgentSpec.Proofs.Compile.Served
import AgentSpec.Proofs.Compile.Soundness
import AgentSpec.Proofs.Compile.Synthesis
import AgentSpec.Proofs.Compile.Tables
import AgentSpec.Proofs.Connection.Collected
import AgentSpec.Proofs.Connection.Keyword
import AgentSpec.Proofs.Connection.Phrase
import AgentSpec.Proofs.Enrich.Conservative
import AgentSpec.Proofs.Enrich.Credentials
import AgentSpec.Proofs.Enrich.Demands
import AgentSpec.Proofs.Enrich.Design
import AgentSpec.Proofs.Enrich.Display
import AgentSpec.Proofs.Enrich.Draft
import AgentSpec.Proofs.Enrich.Fields
import AgentSpec.Proofs.Enrich.Idempotent
import AgentSpec.Proofs.Enrich.Merge
import AgentSpec.Proofs.Enrich.Outputs
import AgentSpec.Proofs.Enrich.Required
import AgentSpec.Proofs.Enrich.Scope
import AgentSpec.Proofs.Graph.Closed
import AgentSpec.Proofs.Graph.Codec
import AgentSpec.Proofs.Graph.Conditions
import AgentSpec.Proofs.Graph.Shape
import AgentSpec.Proofs.Json.Codec
import AgentSpec.Proofs.Json.Decoded
import AgentSpec.Proofs.Json.Plain
import AgentSpec.Proofs.Lists
import AgentSpec.Proofs.Names
import AgentSpec.Proofs.Persist.Branches
import AgentSpec.Proofs.Persist.Calls
import AgentSpec.Proofs.Persist.Coding
import AgentSpec.Proofs.Persist.Completed
import AgentSpec.Proofs.Persist.Confined
import AgentSpec.Proofs.Persist.Fitting
import AgentSpec.Proofs.Persist.Known
import AgentSpec.Proofs.Persist.Order
import AgentSpec.Proofs.Persist.Readback
import AgentSpec.Proofs.Persist.Sound
import AgentSpec.Proofs.Persist.Stages
import AgentSpec.Proofs.Persist.Stopping
import AgentSpec.Proofs.Persist.Strands
import AgentSpec.Proofs.Persist.Unrefused
import AgentSpec.Proofs.Results
import AgentSpec.Proofs.Store.Admitted
import AgentSpec.Proofs.Store.Agents
import AgentSpec.Proofs.Store.FieldLog
import AgentSpec.Proofs.Store.Frame
import AgentSpec.Proofs.Store.Grown
import AgentSpec.Proofs.Store.Lawful
import AgentSpec.Proofs.Store.Listing
import AgentSpec.Proofs.Store.Reached
import AgentSpec.Proofs.Store.Readable
import AgentSpec.Proofs.Store.Reading
import AgentSpec.Proofs.Store.Rows
import AgentSpec.Proofs.Store.Shared
import AgentSpec.Proofs.Text.Order
import AgentSpec.Proofs.Time.Calendar
import AgentSpec.Proofs.Time.Written
import AgentSpec.Proofs.Trace.Basic
import AgentSpec.Proofs.Trace.Ended
import AgentSpec.Proofs.Trace.Interleaving
import AgentSpec.Proofs.Trace.Register
import AgentSpec.Proofs.Trace.Runs
import AgentSpec.Proofs.Trace.Sequence
import AgentSpec.Proofs.Trace.Writes
import AgentSpec.Report.Agent
import AgentSpec.Report.Grid
import AgentSpec.Store.Call
import AgentSpec.Store.Error
import AgentSpec.Store.Journal
import AgentSpec.Store.Load
import AgentSpec.Store.Location
import AgentSpec.Store.Numeral
import AgentSpec.Store.Overwrite
import AgentSpec.Store.Row
import AgentSpec.Store.Write
import AgentSpec.Text.Blank
import AgentSpec.Text.CaseTable
import AgentSpec.Text.CasedTable
import AgentSpec.Text.Casing
import AgentSpec.Text.Fragment
import AgentSpec.Text.HiddenTable
import AgentSpec.Text.Label
import AgentSpec.Text.LetterTable
import AgentSpec.Text.Lines
import AgentSpec.Text.Names
import AgentSpec.Text.Numeral
import AgentSpec.Text.Quoted
import AgentSpec.Text.Ranges
import AgentSpec.Text.Width
import AgentSpec.Text.Width.Character
import AgentSpec.Text.Width.EmojiTable
import AgentSpec.Text.Width.Sequel
import AgentSpec.Text.Width.Table
import AgentSpec.Text.Word
import AgentSpec.Text.WordTable
import AgentSpec.Time.Instant
import AgentSpec.Time.Scan
