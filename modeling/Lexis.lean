import Lexis.Alphabet
import Lexis.Automaton
import Lexis.Command
import Lexis.Cursor
import Lexis.Diagnostic
import Lexis.Event
import Lexis.Fault
import Lexis.Inspect
import Lexis.Line
import Lexis.Log
import Lexis.Main
import Lexis.Position
import Lexis.Proofs.Account
import Lexis.Proofs.Advance
import Lexis.Proofs.Agreement
import Lexis.Proofs.Blanking
import Lexis.Proofs.Coherence
import Lexis.Proofs.Comment
import Lexis.Proofs.Course
import Lexis.Proofs.Gap
import Lexis.Proofs.Joining
import Lexis.Proofs.Layout
import Lexis.Proofs.Lexeme
import Lexis.Proofs.Lines
import Lexis.Proofs.Literal
import Lexis.Proofs.Locality
import Lexis.Proofs.Lookup
import Lexis.Proofs.Munch
import Lexis.Proofs.Outcome
import Lexis.Proofs.Picture
import Lexis.Proofs.Printout
import Lexis.Proofs.Progress
import Lexis.Proofs.Reading
import Lexis.Proofs.Rendering
import Lexis.Proofs.Requests
import Lexis.Proofs.Splitting
import Lexis.Proofs.Stability
import Lexis.Proofs.Stripping
import Lexis.Proofs.Tiling
import Lexis.Proofs.Trace
import Lexis.Proofs.Verdict
import Lexis.Proofs.Whereabouts
import Lexis.Scan
import Lexis.Scanner
import Lexis.Stream
import Lexis.Text.Columns
import Lexis.Text.Quoted
import Lexis.Text.Slice
import Lexis.Token
