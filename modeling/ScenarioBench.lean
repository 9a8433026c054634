import ScenarioBench.Bench.Action
import ScenarioBench.Bench.Command
import ScenarioBench.Bench.Context
import ScenarioBench.Bench.Environment
import ScenarioBench.Bench.Failure
import ScenarioBench.Bench.Journal
import ScenarioBench.Bench.Rules
import ScenarioBench.Bench.ScratchFiles
import ScenarioBench.Bench.Wait
import ScenarioBench.Bench.World
import ScenarioBench.CommandLine.Commands
import ScenarioBench.CommandLine.Grammar
import ScenarioBench.CommandLine.Invocation
import ScenarioBench.CommandLine.Program
import ScenarioBench.CommandLine.Reader
import ScenarioBench.CommandLine.Session
import ScenarioBench.Config
import ScenarioBench.Data.Binary64
import ScenarioBench.Data.Decimal
import ScenarioBench.Data.Dictionary
import ScenarioBench.Files.OsError
import ScenarioBench.Files.Path
import ScenarioBench.Files.Placement
import ScenarioBench.Files.Tree
import ScenarioBench.Glob
import ScenarioBench.Http.Encoding
import ScenarioBench.Http.Error
import ScenarioBench.Http.Exchange
import ScenarioBench.Http.Host
import ScenarioBench.Http.Message
import ScenarioBench.Http.Name.Direction
import ScenarioBench.Http.Name.Domain
import ScenarioBench.Http.Name.Joining
import ScenarioBench.Http.Name.Mark
import ScenarioBench.Http.Name.Plainness
import ScenarioBench.Http.Name.Punycode
import ScenarioBench.Http.Name.Replacement
import ScenarioBench.Http.Url
import ScenarioBench.Json.Fault
import ScenarioBench.Json.Reader
import ScenarioBench.Json.Record
import ScenarioBench.Json.Value
import ScenarioBench.Launch.Check
import ScenarioBench.Launch.Compiler
import ScenarioBench.Launch.DryRun
import ScenarioBench.Launch.Error
import ScenarioBench.Launch.JobConfig
import ScenarioBench.Launch.JobContext
import ScenarioBench.Launch.JobId
import ScenarioBench.Launch.Sample
import ScenarioBench.Launch.Service
import ScenarioBench.Launch.ServiceBinding
import ScenarioBench.Launch.Standalone
import ScenarioBench.Launch.Streamtool
import ScenarioBench.Launch.Submission
import ScenarioBench.Launch.Topology
import ScenarioBench.Proofs.Cancellation
import ScenarioBench.Proofs.CaseCourse
import ScenarioBench.Proofs.CaseTasks
import ScenarioBench.Proofs.Dispatch
import ScenarioBench.Proofs.Lifecycle
import ScenarioBench.Proofs.Reporting
import ScenarioBench.Run.Dispatch
import ScenarioBench.Run.Report
import ScenarioBench.Run.TestList
import ScenarioBench.Scenario.Basic
import ScenarioBench.Scenario.Catalogue
import ScenarioBench.Scenario.Scripted
import ScenarioBench.Text.Lines
import ScenarioBench.Text.Octets
import ScenarioBench.Text.Printable
import ScenarioBench.Text.Quoted
import ScenarioBench.Text.Search
import ScenarioBench.Toml.Draft
import ScenarioBench.Toml.Reader
import ScenarioBench.Toml.Scalar
import ScenarioBench.Toml.Value
import ScenarioBench.Vocabulary.Composite
import ScenarioBench.Vocabulary.Names
import ScenarioBench.Vocabulary.Target
import ScenarioBench.Proofs.Removal
import ScenarioBench.Proofs.BuiltinTasks
import ScenarioBench.Proofs.Stopping
import ScenarioBench.Proofs.Gates
import ScenarioBench.Proofs.Ranking
import ScenarioBench.Proofs.EnvironmentCheck
import ScenarioBench.Proofs.Evidence
import ScenarioBench.Proofs.Waiting
import ScenarioBench.Proofs.JobSettings
import ScenarioBench.Proofs.Submitting
import ScenarioBench.Proofs.DryRunFidelity
import ScenarioBench.Proofs.Indifference
import ScenarioBench.Proofs.AbsolutePaths
import ScenarioBench.Proofs.Procedures
import ScenarioBench.Proofs.CommandPlaces
import ScenarioBench.Proofs.GlobLanguage
import ScenarioBench.Proofs.Entries
import ScenarioBench.Proofs.Tidying
import ScenarioBench.Proofs.GlobSearch
import ScenarioBench.Proofs.CredentialSources
import ScenarioBench.Proofs.OutputVerification
import ScenarioBench.Proofs.CancelCredentials
import ScenarioBench.Proofs.JobIds
import ScenarioBench.Proofs.ConfigMaps
import ScenarioBench.Proofs.OctetOrder
import ScenarioBench.Proofs.SubmissionParameters
import ScenarioBench.Proofs.BoundServices
import ScenarioBench.Proofs.GivenValues
import ScenarioBench.Proofs.CompositeNames
import ScenarioBench.Proofs.TestLists
import ScenarioBench.Proofs.PatternRemoval
import ScenarioBench.Proofs.OutputPlaces
import ScenarioBench.Proofs.SearchPaths
import ScenarioBench.Proofs.CapturedVariables
import ScenarioBench.Proofs.Transcripts
import ScenarioBench.Proofs.DocumentKeys
import ScenarioBench.Proofs.ConfigurationFiles
import ScenarioBench.Rehearsal.Octetwise
import ScenarioBench.Rehearsal.Precision
import ScenarioBench.Rehearsal.Shell.Arithmetic
import ScenarioBench.Rehearsal.Shell.Builtin.Options
import ScenarioBench.Rehearsal.Shell.Builtin.Plain
import ScenarioBench.Rehearsal.Shell.Builtin.Signals
import ScenarioBench.Rehearsal.Shell.Builtin.Variables
import ScenarioBench.Rehearsal.Shell.Condition
import ScenarioBench.Rehearsal.Shell.EditScript
import ScenarioBench.Rehearsal.Shell.Expansion
import ScenarioBench.Rehearsal.Shell.Expression
import ScenarioBench.Rehearsal.Shell.ExpressionReader
import ScenarioBench.Rehearsal.Shell.Format
import ScenarioBench.Rehearsal.Shell.Host
import ScenarioBench.Rehearsal.Shell.Interpreter
import ScenarioBench.Rehearsal.Shell.Machine
import ScenarioBench.Rehearsal.Shell.Naming
import ScenarioBench.Rehearsal.Shell.Opening
import ScenarioBench.Rehearsal.Shell.Pattern
import ScenarioBench.Rehearsal.Shell.Program
import ScenarioBench.Rehearsal.Shell.Reader
import ScenarioBench.Rehearsal.Shell.Script
import ScenarioBench.Rehearsal.Shell.Source
import ScenarioBench.Rehearsal.Shell.Utilities.Columns
import ScenarioBench.Rehearsal.Shell.Utilities.Comparison
import ScenarioBench.Rehearsal.Shell.Utilities.Contents
import ScenarioBench.Rehearsal.Shell.Utilities.Editing
import ScenarioBench.Rehearsal.Shell.Utilities.Listing
import ScenarioBench.Rehearsal.Shell.Utilities.Naming
import ScenarioBench.Rehearsal.Shell.Utilities.Numbers
import ScenarioBench.Rehearsal.Shell.Utilities.Placing
import ScenarioBench.Rehearsal.Shell.Utilities.Plain
import ScenarioBench.Rehearsal.Shell.Utilities.Searching
import ScenarioBench.Rehearsal.Shell.Utilities.Sorting
import ScenarioBench.Rehearsal.Shell.Utilities.Starting
import ScenarioBench.Rehearsal.Shell.Utility
import ScenarioBench.Rehearsal.Shell.WordReader
import ScenarioBench.Main
