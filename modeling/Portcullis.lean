import Portcullis.Main
import Portcullis.Proofs.Audit.Commitment
import Portcullis.Proofs.Codec.RoundTrip
import Portcullis.Proofs.Gatehouse.Account
import Portcullis.Proofs.Gatehouse.Admission
import Portcullis.Proofs.Gatehouse.Metadata
import Portcullis.Proofs.Policy.Conditions
import Portcullis.Proofs.Policy.ForbidInForce
import Portcullis.Proofs.Policy.Rescue
import Portcullis.Proofs.Policy.RoundTrip
import Portcullis.Proofs.Policy.Truncation
import Portcullis.Proofs.Policy.Verdict
import Portcullis.Proofs.Policy.Explanation
import Portcullis.Proofs.Policy.Naming
import Portcullis.Proofs.Policy.Spacing
import Portcullis.Proofs.Reply.Fences
import Portcullis.Proofs.Gatehouse.Provision
import Portcullis.Proofs.Reply.Acceptance
import Portcullis.Proofs.Policy.Categories
import Portcullis.Proofs.Policy.Comments
import Portcullis.Proofs.Audit.Readability
