import TwinQuery.Proofs.Session.Counting
import TwinQuery.Proofs.Session.Delegation
import TwinQuery.Proofs.Session.Enveloping
import TwinQuery.Proofs.Session.Lifecycle
import TwinQuery.Proofs.Session.Transaction
import TwinQuery.Proofs.Session.Usage
import TwinQuery.Proofs.Sql.Quoting
import TwinQuery.Proofs.Statement.FirstFault
import TwinQuery.Proofs.Statement.NullOperand
import TwinQuery.Proofs.Statement.Operation
import TwinQuery.Proofs.Statement.OperatorText
import TwinQuery.Proofs.Statement.Pages
import TwinQuery.Proofs.Statement.Segments
import TwinQuery.Proofs.Statement.Validity
import TwinQuery.Proofs.Text.Cutting
import TwinQuery.Session.Client
