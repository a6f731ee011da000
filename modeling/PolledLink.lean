import PolledLink.Bench.Perform
import PolledLink.Buffers
import PolledLink.Frame.Reply
import PolledLink.Link.Host
import PolledLink.Link.Session
import PolledLink.Mailbox
import PolledLink.Peer
import PolledLink.Runner
import PolledLink.Proofs.History
import PolledLink.Proofs.Serving
import PolledLink.Proofs.Passage
import PolledLink.Proofs.Moves
import PolledLink.Proofs.Discipline
import PolledLink.Proofs.Outstanding
import PolledLink.Proofs.Ownership
import PolledLink.Proofs.Balance
import PolledLink.Proofs.WriteStream
import PolledLink.Proofs.ReadStream
import PolledLink.Proofs.FlushFirst
import PolledLink.Proofs.Failure
import PolledLink.Proofs.EarlyCompletion
import PolledLink.Proofs.RunnerRefinement
import PolledLink.Proofs.Drain
import PolledLink.Proofs.Escalation
import PolledLink.Proofs.Reporting
import PolledLink.Proofs.FreshData
import PolledLink.Proofs.EchoRun
import PolledLink.Proofs.ByteQueues
import PolledLink.Proofs.ReplyGrammar
import PolledLink.Proofs.Publication
import PolledLink.Proofs.Checks
import PolledLink.Proofs.CheckedLink
import PolledLink.Proofs.CheckedRunner
import PolledLink.Proofs.Faultless
import PolledLink.Proofs.InPlace
import PolledLink.Proofs.RoundTrip
import PolledLink.Proofs.Fitting
import PolledLink.Proofs.Retry
import PolledLink.Proofs.Strays
import PolledLink.Proofs.Countdown
import PolledLink.Proofs.Setup
import PolledLink.Proofs.Cadence
import PolledLink.Proofs.Opening
import PolledLink.Proofs.EitherOrder
import PolledLink.Proofs.Guards
