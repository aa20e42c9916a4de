import PushdownLexer.Main
import PushdownLexer.Proofs.Assembly.Checked
import PushdownLexer.Proofs.Assembly.Comments
import PushdownLexer.Proofs.Assembly.Literal
import PushdownLexer.Proofs.Assembly.Output
import PushdownLexer.Proofs.Assembly.OutputLines
import PushdownLexer.Proofs.Assembly.Overlap
import PushdownLexer.Proofs.Assembly.Pieces
import PushdownLexer.Proofs.Assembly.RoundTrip
import PushdownLexer.Proofs.Assembly.Settings
import PushdownLexer.Proofs.Report.Failure
import PushdownLexer.Proofs.Report.Shown
import PushdownLexer.Proofs.Scan.Acceptance
import PushdownLexer.Proofs.Scan.Anchoring
import PushdownLexer.Proofs.Scan.Certificate
import PushdownLexer.Proofs.Scan.Coverage
import PushdownLexer.Proofs.Scan.Duration
import PushdownLexer.Proofs.Scan.Extension
import PushdownLexer.Proofs.Scan.Guard
import PushdownLexer.Proofs.Scan.Isolation
import PushdownLexer.Proofs.Scan.Kinds
import PushdownLexer.Proofs.Scan.Pending
import PushdownLexer.Proofs.Scan.Registration
import PushdownLexer.Proofs.Scan.Restart
import PushdownLexer.Proofs.Text.Moves
