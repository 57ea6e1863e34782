import SignedToken.Configuration
import SignedToken.Desk
import SignedToken.Failure.Report
import SignedToken.Making
import SignedToken.View
import SignedToken.Proofs.Base64.Bits
import SignedToken.Proofs.Claims.Accepted
import SignedToken.Proofs.Guard.Stages
import SignedToken.Proofs.Registry.Agreement
import SignedToken.Proofs.Secret.Asymmetric
import SignedToken.Proofs.Token.Conversation
import SignedToken.Proofs.Token.DeclaredAlgorithm
import SignedToken.Proofs.Token.Disabled
import SignedToken.Proofs.Token.Format
import SignedToken.Proofs.Token.Passage
import SignedToken.Proofs.Token.Resolution
import SignedToken.Proofs.Token.Uniqueness
import SignedToken.Proofs.Claims.Member
import SignedToken.Proofs.Keyholder.Width
import SignedToken.Proofs.Header.Documented
import SignedToken.Proofs.Guard.Lifetime
import SignedToken.Proofs.Guard.Discretion
import SignedToken.Proofs.Header.NormalForm
import SignedToken.Proofs.Token.Refresh
import SignedToken.Proofs.Keyholder.Signing
import SignedToken.Proofs.Extractor.Bearer
import SignedToken.Proofs.Base64.Refusal
import SignedToken.Proofs.Desk.Isolation
import SignedToken.Proofs.Key.Loading
import SignedToken.Proofs.Key.Reload
