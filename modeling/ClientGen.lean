import ClientGen.Api.Description
import ClientGen.Api.Operation
import ClientGen.Api.PathTemplate
import ClientGen.Collections.Distinct
import ClientGen.CommandLine.Arguments
import ClientGen.CommandLine.Commands
import ClientGen.CommandLine.Help
import ClientGen.CommandLine.Report
import ClientGen.Config.Basic
import ClientGen.Config.Loading
import ClientGen.Config.Reading
import ClientGen.Console
import ClientGen.Digest
import ClientGen.Document.Calendar
import ClientGen.Document.Shown
import ClientGen.Document.Value
import ClientGen.Emission.FunctionName
import ClientGen.Emission.Operations
import ClientGen.Emission.Types
import ClientGen.Emission.Validators
import ClientGen.Emission.Workspace
import ClientGen.Enumeration
import ClientGen.Error
import ClientGen.Failure
import ClientGen.Formatter
import ClientGen.Graph.Closure
import ClientGen.Graph.Cycles
import ClientGen.Graph.Dependencies
import ClientGen.Graph.Order
import ClientGen.Graph.Reference
import ClientGen.Json.Quoted
import ClientGen.Json.Reader
import ClientGen.Json.Writer
import ClientGen.Log
import ClientGen.Machine.Basic
import ClientGen.Machine.Disk
import ClientGen.Machine.Files
import ClientGen.Main
import ClientGen.Naming
import ClientGen.Number.Binary64
import ClientGen.Number.Digits
import ClientGen.Number.Reading
import ClientGen.Number.Shortest
import ClientGen.Output.Layout
import ClientGen.Output.Manifest
import ClientGen.Output.Writer
import ClientGen.Partition
import ClientGen.Path
import ClientGen.Plan
import ClientGen.Proofs.Collections
import ClientGen.Proofs.Config.Reading
import ClientGen.Proofs.Emission.Agreement
import ClientGen.Proofs.Emission.Alike
import ClientGen.Proofs.Emission.Attribution
import ClientGen.Proofs.Emission.Contract
import ClientGen.Proofs.Emission.Coverage
import ClientGen.Proofs.Emission.DepthGuard
import ClientGen.Proofs.Emission.Evaluation
import ClientGen.Proofs.Emission.Fields
import ClientGen.Proofs.Emission.Ground
import ClientGen.Proofs.Emission.GuardReports
import ClientGen.Proofs.Emission.History
import ClientGen.Proofs.Emission.Identity
import ClientGen.Proofs.Emission.LocalNames
import ClientGen.Proofs.Emission.Lowered
import ClientGen.Proofs.Emission.OperationSchemas
import ClientGen.Proofs.Emission.Overlap
import ClientGen.Proofs.Emission.Qualified
import ClientGen.Proofs.Emission.Restored
import ClientGen.Proofs.Emission.SameRun
import ClientGen.Proofs.Emission.Steps
import ClientGen.Proofs.Emission.Termination
import ClientGen.Proofs.Emission.TypeFile
import ClientGen.Proofs.Emission.TypeLowering
import ClientGen.Proofs.Emission.TypeSteps
import ClientGen.Proofs.Emission.ValidatorEmission
import ClientGen.Proofs.Emission.ValidatorFile
import ClientGen.Proofs.Emission.ValidatorLowering
import ClientGen.Proofs.Emission.ValidatorSteps
import ClientGen.Proofs.Enumeration.Bookkeeping
import ClientGen.Proofs.Enumeration.Names
import ClientGen.Proofs.Enumeration.Questions
import ClientGen.Proofs.Enumeration.Stability
import ClientGen.Proofs.Graph.Circular
import ClientGen.Proofs.Graph.Closure
import ClientGen.Proofs.Graph.Cycles
import ClientGen.Proofs.Graph.Dependencies
import ClientGen.Proofs.Graph.Discovery
import ClientGen.Proofs.Graph.Order
import ClientGen.Proofs.Graph.Overlap
import ClientGen.Proofs.Graph.Questions
import ClientGen.Proofs.Graph.Reported
import ClientGen.Proofs.Json.Literals
import ClientGen.Proofs.Json.Records
import ClientGen.Proofs.Json.Values
import ClientGen.Proofs.Machine.Beside
import ClientGen.Proofs.Machine.Changes
import ClientGen.Proofs.Machine.Directories
import ClientGen.Proofs.Machine.Disk
import ClientGen.Proofs.Machine.Files
import ClientGen.Proofs.Machine.Outcome
import ClientGen.Proofs.Mentions
import ClientGen.Proofs.Naming.Identifiers
import ClientGen.Proofs.Naming.Keys
import ClientGen.Proofs.Naming.Numbered
import ClientGen.Proofs.Naming.Words
import ClientGen.Proofs.Outcome
import ClientGen.Proofs.Output.DryRun
import ClientGen.Proofs.Output.Foresight
import ClientGen.Proofs.Output.Manifest
import ClientGen.Proofs.Output.Places
import ClientGen.Proofs.Output.Regeneration
import ClientGen.Proofs.Output.Remembering
import ClientGen.Proofs.Output.Sessions
import ClientGen.Proofs.Output.Survival
import ClientGen.Proofs.Output.Writer
import ClientGen.Proofs.Partition
import ClientGen.Proofs.Path.Numbers
import ClientGen.Proofs.Path.Relative
import ClientGen.Proofs.Path.Segments
import ClientGen.Proofs.Pieces
import ClientGen.Proofs.Plan.Addresses
import ClientGen.Proofs.Plan.ApiFile
import ClientGen.Proofs.Plan.ArgumentNames
import ClientGen.Proofs.Plan.Attribution
import ClientGen.Proofs.Plan.Endpoints
import ClientGen.Proofs.Plan.Faults
import ClientGen.Proofs.Plan.Files
import ClientGen.Proofs.Plan.FunctionNames
import ClientGen.Proofs.Plan.HookText
import ClientGen.Proofs.Plan.Hooks
import ClientGen.Proofs.Plan.Integrity
import ClientGen.Proofs.Plan.Operations
import ClientGen.Proofs.Plan.Ownership
import ClientGen.Proofs.Plan.Parts
import ClientGen.Proofs.Plan.Planning
import ClientGen.Proofs.Plan.References
import ClientGen.Proofs.Plan.Reports
import ClientGen.Proofs.Plan.Schemas
import ClientGen.Proofs.Plan.Selective
import ClientGen.Proofs.Plan.Slots
import ClientGen.Proofs.Plan.Steps
import ClientGen.Proofs.Plan.UsableNames
import ClientGen.Proofs.Registry
import ClientGen.Proofs.Run.Conflicts
import ClientGen.Proofs.Run.Isolation
import ClientGen.Proofs.Run.Paths
import ClientGen.Proofs.Run.Writing
import ClientGen.Proofs.Schema.Contents
import ClientGen.Proofs.Schema.Documents
import ClientGen.Proofs.Schema.Malformed
import ClientGen.Proofs.Schema.Pointers
import ClientGen.Proofs.Schema.Positions
import ClientGen.Proofs.Schema.References
import ClientGen.Proofs.Specification.Documents
import ClientGen.Proofs.Specification.Fetching
import ClientGen.Proofs.Specification.FileHistory
import ClientGen.Proofs.Specification.Keeping
import ClientGen.Proofs.Template.Builtin
import ClientGen.Proofs.Template.Pieces
import ClientGen.Proofs.Template.Shapes
import ClientGen.Proofs.Text.Comment
import ClientGen.Proofs.Text.Kept
import ClientGen.Proofs.TypeScript.Enumerations
import ClientGen.Proofs.TypeScript.Tokens
import ClientGen.Run
import ClientGen.Schema.Node
import ClientGen.Schema.Reading
import ClientGen.Specification.AddressCache
import ClientGen.Specification.FileCache
import ClientGen.Specification.Loading
import ClientGen.Template.Builtin
import ClientGen.Template.Names
import ClientGen.Template.Override
import ClientGen.Template.Reading
import ClientGen.Template.Render
import ClientGen.Template.Syntax
import ClientGen.Text.Base64
import ClientGen.Text.Cased
import ClientGen.Text.Chars
import ClientGen.Text.Compatible
import ClientGen.Text.Half
import ClientGen.Text.Identifier
import ClientGen.Text.Lower
import ClientGen.Text.Pointer
import ClientGen.Text.Printable
import ClientGen.Text.Quoted
import ClientGen.Text.Utf8
import ClientGen.TypeScript.Declaration
import ClientGen.TypeScript.Type
import ClientGen.TypeScript.Validator
import ClientGen.Yaml.Cursor
import ClientGen.Yaml.Fault
import ClientGen.Yaml.Lexer
import ClientGen.Yaml.Node
import ClientGen.Yaml.Reader
import ClientGen.Yaml.Scalar
import ClientGen.Yaml.Token
