import RegisterMachine.Text.CharClass
import RegisterMachine.Text.Alphanumeric
import RegisterMachine.Text.ExtendingMark
import RegisterMachine.Text.DefaultIgnorable
import RegisterMachine.Text.Unprintable
import RegisterMachine.Text.WhiteSpace
import RegisterMachine.Text.Quoted
import RegisterMachine.Decimal
import RegisterMachine.Word
import RegisterMachine.Report
import RegisterMachine.Stateful
import RegisterMachine.Assembly.Token
import RegisterMachine.Assembly.Lexeme
import RegisterMachine.Assembly.Scanner
import RegisterMachine.Assembly.Instruction
import RegisterMachine.Assembly.Program
import RegisterMachine.Assembly.Reader
import RegisterMachine.Assembly.Dialogue
import RegisterMachine.Machine.Fault
import RegisterMachine.Machine.Storage
import RegisterMachine.Machine.Console
import RegisterMachine.Machine.ByteConsole
import RegisterMachine.Machine.Execution
import RegisterMachine.Command.Request
import RegisterMachine.Command.Toolkit
import RegisterMachine.Command.TermConsole
import RegisterMachine.Command.Folder
import RegisterMachine.Command.Excerpt
import RegisterMachine.Command.Session
import RegisterMachine.Main
import RegisterMachine.Proofs.LexicalGrammar
import RegisterMachine.Proofs.Cutting
import RegisterMachine.Proofs.HandingOut
import RegisterMachine.Proofs.Lexing
import RegisterMachine.Proofs.InstructionGrammar
import RegisterMachine.Proofs.Reading
import RegisterMachine.Proofs.Assembling
import RegisterMachine.Proofs.Reassembling
import RegisterMachine.Proofs.Streams
import RegisterMachine.Proofs.Tiling
import RegisterMachine.Proofs.Joining
import RegisterMachine.Proofs.Cursor
import RegisterMachine.Proofs.Steps
import RegisterMachine.Proofs.IntegerMachine
import RegisterMachine.Proofs.Wrapping
import RegisterMachine.Proofs.Batching
import RegisterMachine.Proofs.Failing
import RegisterMachine.Proofs.Operating
import RegisterMachine.Proofs.Footprint
import RegisterMachine.Proofs.Lockstep
import RegisterMachine.Proofs.InputLines
import RegisterMachine.Proofs.LineByLine
import RegisterMachine.Proofs.Safety
import RegisterMachine.Proofs.Sessions
import RegisterMachine.Proofs.Pipeline
import RegisterMachine.Proofs.Tracing
import RegisterMachine.Proofs.ForwardJumps
import RegisterMachine.Proofs.FullSink
import RegisterMachine.Proofs.SourceLines
import RegisterMachine.Proofs.Excerpts
import RegisterMachine.Proofs.InputIntegers
import RegisterMachine.Proofs.SourceIntegers
import RegisterMachine.Proofs.Bisimulation
import RegisterMachine.Proofs.RegisterAddresses
import RegisterMachine.Proofs.StoredZeros
import RegisterMachine.Proofs.Messages
import RegisterMachine.Proofs.Listings
import RegisterMachine.Proofs.Comments
import RegisterMachine.Proofs.ErrorPlaces
import RegisterMachine.Proofs.CounterSafety
import RegisterMachine.Proofs.Progress
import RegisterMachine.Proofs.StorageMap
