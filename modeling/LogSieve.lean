import LogSieve.FileTree.History
import LogSieve.Invocation
import LogSieve.Line.CursorStack
import LogSieve.Main
import LogSieve.Shelf
import LogSieve.Proofs.Invocation.Agreement
import LogSieve.Proofs.Line.Append
import LogSieve.Proofs.Line.Composition
import LogSieve.Proofs.Line.CursorStack
import LogSieve.Proofs.Line.Joining
import LogSieve.Proofs.Line.Octets
import LogSieve.Proofs.Selection.Cascade
import LogSieve.Proofs.Selection.Nesting
import LogSieve.Proofs.Selection.Records
import LogSieve.Proofs.Sink
import LogSieve.Proofs.Utf8.Segments
import LogSieve.Proofs.Selection.Reprinting
import LogSieve.Proofs.Invocation.Ending
import LogSieve.Proofs.Invocation.Telling
import LogSieve.Proofs.Line.Numbering
import LogSieve.Proofs.FileTree.Readers
import LogSieve.Proofs.Shelf
import LogSieve.Proofs.Growth
import LogSieve.Proofs.Selection.Insertion
