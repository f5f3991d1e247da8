import PasskeySession.Main
import PasskeySession.Proofs.Amount.Shift
import PasskeySession.Proofs.Amount.Literal
import PasskeySession.Proofs.Policy.Capped
import PasskeySession.Proofs.Policy.Consistent
import PasskeySession.Proofs.Policy.Meaning
import PasskeySession.Proofs.Policy.Reread
import PasskeySession.Proofs.Session.Approval
import PasskeySession.Proofs.Session.Atomic
import PasskeySession.Proofs.Session.Configured
import PasskeySession.Proofs.Session.Gated
import PasskeySession.Proofs.Session.OneSession
import PasskeySession.Proofs.Session.Shown
import PasskeySession.Proofs.WebAuthn.LowerHalf
import PasskeySession.Rehearsal.Stage
import PasskeySession.Proofs.Session.Bare
import PasskeySession.Proofs.Session.Deeds
import PasskeySession.Proofs.Session.Returns
import PasskeySession.Proofs.Session.CacheBlind
import PasskeySession.Proofs.Session.Cacheless
import PasskeySession.Proofs.Amount.Accepted
import PasskeySession.Proofs.Text.Letters
import PasskeySession.Proofs.Policy.Ordered
import PasskeySession.Proofs.Session.LastError
import PasskeySession.Proofs.Session.Replies
import PasskeySession.Proofs.Text.Spelling
import PasskeySession.Proofs.WebAuthn.TypeMember
import PasskeySession.Proofs.WebAuthn.Origin
import PasskeySession.Proofs.WebAuthn.Journal
import PasskeySession.Proofs.WebAuthn.Layout
import PasskeySession.Proofs.Instant.Civil
import PasskeySession.Proofs.Http.Answers
import PasskeySession.Proofs.Session.Ceremonies
import PasskeySession.Proofs.Identifier
import PasskeySession.Proofs.Policy.Sent
import PasskeySession.Proofs.Backend.Config
