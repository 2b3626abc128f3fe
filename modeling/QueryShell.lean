import QueryShell.Http.Environment
import QueryShell.Main
import QueryShell.Proofs.Statement.Grammar
import QueryShell.Proofs.Statement.Splitting
import QueryShell.Proofs.Statement.Covering
import QueryShell.Proofs.Statement.Feeding
import QueryShell.Proofs.Statement.Registers
import QueryShell.Proofs.Statement.Forgetting
import QueryShell.Proofs.Statement.Entries
import QueryShell.Proofs.Statement.Inputs
import QueryShell.Proofs.Program.Runs
import QueryShell.Proofs.Program.Printing
import QueryShell.Proofs.Program.Ensures
import QueryShell.Proofs.Program.Logs
import QueryShell.Proofs.Connection.Keeping
import QueryShell.Proofs.Connection.History
import QueryShell.Proofs.Connection.Transactions
import QueryShell.Proofs.Connection.Handle
import QueryShell.Proofs.Connection.Representation
import QueryShell.Proofs.Connection.Refusals
import QueryShell.Proofs.Connection.Holdings
import QueryShell.Proofs.Connection.Custody
import QueryShell.Proofs.Connection.Sessions
import QueryShell.Proofs.Connection.Connecting
import QueryShell.Proofs.Connection.Interruption
import QueryShell.Proofs.Connection.Turns
import QueryShell.Proofs.Connection.FailedConnect
import QueryShell.Proofs.Connection.Switching
import QueryShell.Proofs.Connection.Retrying
import QueryShell.Proofs.Connection.OwnQueries
import QueryShell.Proofs.Connection.Consistency
import QueryShell.Proofs.Json.Members
import QueryShell.Proofs.Json.Values
import QueryShell.Proofs.Json.Tokens
import QueryShell.Proofs.Json.RoundTrip
import QueryShell.Proofs.Json.OneLine
import QueryShell.Proofs.Outcome.Plain
import QueryShell.Proofs.Command.Names
import QueryShell.Proofs.Command.Lines
import QueryShell.Proofs.Command.Listing
import QueryShell.Proofs.Shell.Executing
import QueryShell.Proofs.Shell.Parameters
import QueryShell.Proofs.Shell.Retyping
import QueryShell.Proofs.Shell.LastError
import QueryShell.Proofs.Files.Storage
import QueryShell.Proofs.Files.LineByLine
import QueryShell.Proofs.History.Reading
import QueryShell.Proofs.History.RoundTrip
import QueryShell.Proofs.History.Reopening
import QueryShell.Proofs.Http.Traffic
import QueryShell.Proofs.Http.Answers
import QueryShell.Proofs.Http.Chaining
import QueryShell.Proofs.Http.Retrying
import QueryShell.Proofs.Http.Bodies
import QueryShell.Proofs.Http.References
import QueryShell.Proofs.Http.Carrying
import QueryShell.Proofs.Http.Codes
import QueryShell.Proofs.Http.Addresses
import QueryShell.Proofs.Http.Interrupts
import QueryShell.Proofs.Program.Threads
import QueryShell.Proofs.Loop.Interleaving
import QueryShell.Proofs.Loop.Cancellation
import QueryShell.Proofs.Loop.Windows
import QueryShell.Proofs.Loop.Frames
import QueryShell.Proofs.Loop.Execution
import QueryShell.Proofs.Loop.Probing
import QueryShell.Proofs.Loop.Telling
import QueryShell.Proofs.Loop.ExitCode
