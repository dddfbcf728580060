import ToolParams.Main
import ToolParams.Json.Access
import ToolParams.Proofs.Action
import ToolParams.Proofs.Outcome
import ToolParams.Proofs.Store.Assignment
import ToolParams.Proofs.Store.Session
import ToolParams.Proofs.ParameterFile.Reading
import ToolParams.Proofs.Files.Routes
import ToolParams.Proofs.Files.Writing
import ToolParams.Proofs.Files.Clearing
import ToolParams.Proofs.OrderedMap
import ToolParams.Proofs.ParameterFile.Writing
import ToolParams.Proofs.ParameterFile.Comparing
import ToolParams.Proofs.Run.Stages
import ToolParams.Proofs.Run.Reachable
import ToolParams.Proofs.Run.Undoing
import ToolParams.Proofs.Number.Rounding
import ToolParams.Proofs.Number.Shortest
import ToolParams.Proofs.Number.Reading
import ToolParams.Proofs.ParameterFile.Columns
import ToolParams.Proofs.ParameterFile.Lines
import ToolParams.Proofs.Schema.Reader
import ToolParams.Proofs.Store.Agreement
import ToolParams.Proofs.ParameterFile.Values
import ToolParams.Proofs.ParameterFile.RoundTrip
import ToolParams.Proofs.Run.Rereading
import ToolParams.Proofs.Store.Lookup
import ToolParams.Proofs.ParameterFile.Determining
import ToolParams.Proofs.SearchPath
import ToolParams.Proofs.Scope.Entering
import ToolParams.Proofs.Scope.Discipline
import ToolParams.Proofs.Schema.Rewriting
import ToolParams.Proofs.ParameterFile.FixedPoint
import ToolParams.Proofs.Files.Separate
import ToolParams.Proofs.ParameterFile.StackFiles
import ToolParams.Proofs.ParameterFile.Overflow
import ToolParams.Proofs.Registry.Loading
import ToolParams.Proofs.Files.Emptying
import ToolParams.Proofs.Scope.Releasing
import ToolParams.Proofs.ParameterFile.Declared
import ToolParams.Proofs.Store.Ordering
import ToolParams.Proofs.Run.Binding
import ToolParams.Proofs.Store.Following
import ToolParams.Proofs.Store.Ranges
import ToolParams.Proofs.Store.RawForms
import ToolParams.Proofs.ParameterFile.Verifying
import ToolParams.Proofs.ParameterFile.Grammar
import ToolParams.Proofs.Store.NormalForm
import ToolParams.Proofs.Number.Ordering
import ToolParams.Proofs.Number.Whole
import ToolParams.Proofs.ParameterFile.Integers
import ToolParams.Proofs.ParameterFile.Folding
import ToolParams.Proofs.Files.Joining
import ToolParams.Proofs.Files.Walking
import ToolParams.Proofs.Files.Copying
import ToolParams.Proofs.Files.Filling
import ToolParams.Proofs.Scope.Populating
import ToolParams.Proofs.Scope.Traces
import ToolParams.Proofs.Files.Climbing
import ToolParams.Proofs.Files.Making
import ToolParams.Proofs.Scope.Copying
import ToolParams.Proofs.Scope.Withdrawing
import ToolParams.Proofs.Scope.Finding
import ToolParams.Proofs.Scope.Overlaying
import ToolParams.Proofs.ParameterFile.Redirects
import ToolParams.Proofs.ParameterFile.Differing
import ToolParams.Proofs.ParameterFile.Numerals
import ToolParams.Proofs.Files.Neighbours
import ToolParams.Proofs.ParameterFile.Spilling
import ToolParams.Proofs.Store.Abbreviating
import ToolParams.Proofs.Store.NumericOptions
import ToolParams.Proofs.Schema.WellFormed
import ToolParams.Proofs.Run.CommandWords
import ToolParams.Proofs.CommandLine
import ToolParams.Proofs.Environment
import ToolParams.Proofs.ParameterFile.Rearranging
