import SspUpdate.Wire
import SspUpdate.Serial.Memory
import SspUpdate.Main
import SspUpdate.Text.Letter
import SspUpdate.Pattern.Fault
import SspUpdate.Pattern.Tree
import SspUpdate.Pattern.Class
import SspUpdate.Pattern.Group
import SspUpdate.Pattern.Reader
import SspUpdate.Pattern.CharSet
import SspUpdate.Pattern.Expr
import SspUpdate.Pattern.Meaning
import SspUpdate.Proofs.FaultlessUpdate
import SspUpdate.Proofs.Verdicts
import SspUpdate.Proofs.Replies
import SspUpdate.Proofs.Reception
import SspUpdate.Proofs.Laws
import SspUpdate.Proofs.Ownership
import SspUpdate.Proofs.UpdateOwnership
import SspUpdate.Proofs.Addressing
import SspUpdate.Proofs.Alternation
import SspUpdate.Proofs.Attempts
import SspUpdate.Proofs.Bounds
import SspUpdate.Proofs.Agreement
import SspUpdate.Proofs.FileTree
import SspUpdate.Proofs.Precedence
import SspUpdate.Proofs.DevicesText
import SspUpdate.Proofs.Remembering
import SspUpdate.Proofs.Tiling
import SspUpdate.Proofs.Retries
import SspUpdate.Proofs.Bystanders
import SspUpdate.Proofs.Reports
import SspUpdate.Proofs.DriverCalls
import SspUpdate.Proofs.ReadTimeout
import SspUpdate.Proofs.PolledReading
import SspUpdate.Proofs.Messages
import SspUpdate.Proofs.Questions
import SspUpdate.Proofs.Selection
import SspUpdate.Proofs.Recognition
import SspUpdate.Proofs.ErrorDetection
import SspUpdate.Proofs.Picking
import SspUpdate.Proofs.FailedSaves
import SspUpdate.Proofs.StartupFile
import SspUpdate.Proofs.AddressText
import SspUpdate.Proofs.Division
