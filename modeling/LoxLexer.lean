import LoxLexer.Main
import LoxLexer.Session.Named
import LoxLexer.Session.History
import LoxLexer.Scan.Items
import LoxLexer.Rendering
import LoxLexer.Monitor
import LoxLexer.Condensed
import LoxLexer.Text.Utf8.Sequence
import LoxLexer.Json.Reader
import LoxLexer.Proofs.Rendered
import LoxLexer.Proofs.Lazy
import LoxLexer.Proofs.Monitored
import LoxLexer.Proofs.Stacked
import LoxLexer.Proofs.Prompted
import LoxLexer.Proofs.Interleaved
import LoxLexer.Proofs.Decoded
import LoxLexer.Proofs.Opened
import LoxLexer.Proofs.Printed
import LoxLexer.Token.Reader
import LoxLexer.Proofs.Listed
import LoxLexer.Proofs.Dumped
import LoxLexer.Proofs.Alike
import LoxLexer.Proofs.Shortened
import LoxLexer.Proofs.Condensed
import LoxLexer.Proofs.Stripped
import LoxLexer.Proofs.Exited
import LoxLexer.Proofs.Resumed
import LoxLexer.Proofs.Bounded
import LoxLexer.Proofs.Decided
import LoxLexer.Proofs.Replaced
import LoxLexer.Proofs.Reported
import LoxLexer.Proofs.Rebuilt
