import TwinRing.Main
import TwinRing.Script.Direction
import TwinRing.Script.Session
import TwinRing.Proofs.Ring.Contents
import TwinRing.Proofs.Segment.Objects
import TwinRing.Proofs.Ring.Fifo
import TwinRing.Proofs.Ring.Wrap
import TwinRing.Proofs.Direction.Course
import TwinRing.Proofs.Direction.Exchange
import TwinRing.Proofs.Direction.Calls
import TwinRing.Proofs.Direction.Flags
import TwinRing.Proofs.Direction.Servicing
import TwinRing.Proofs.Direction.Delivery
import TwinRing.Proofs.Direction.Progress
import TwinRing.Proofs.Direction.Account
import TwinRing.Proofs.Direction.Custody
import TwinRing.Proofs.Direction.Attribution
import TwinRing.Proofs.Ring.Undoing
import TwinRing.Proofs.Ring.Mapping
import TwinRing.Proofs.Ring.Outcome
import TwinRing.Proofs.Direction.Floor
import TwinRing.Proofs.Direction.Alone
import TwinRing.Proofs.Direction.Sender
import TwinRing.Proofs.Direction.Wakeup
import TwinRing.Proofs.Direction.Closing
import TwinRing.Proofs.Ring.Conduit
import TwinRing.Proofs.Duplex.Basic
import TwinRing.Proofs.Duplex.Wired
import TwinRing.Proofs.Duplex.Building
import TwinRing.Proofs.Duplex.Stream
import TwinRing.Proofs.Direction.Settled
import TwinRing.Proofs.Ring.Residue
import TwinRing.Proofs.Channel.Aborted
import TwinRing.Proofs.Channel.Opened
import TwinRing.Proofs.Commons.Creators
import TwinRing.Proofs.Commons.Sharing
import TwinRing.Proofs.Direction.Lengths
import TwinRing.Proofs.Channel.Lengths
import TwinRing.Proofs.Commons.Channels
import TwinRing.Proofs.Direction.Local
import TwinRing.Proofs.Commons.Sides
import TwinRing.Proofs.Direction.Alike
import TwinRing.Proofs.Channel.Reopening
import TwinRing.Proofs.Commons.Twins
import TwinRing.Proofs.Commons.Restart
import TwinRing.Proofs.Ring.Single
import TwinRing.Proofs.Direction.Crossing
import TwinRing.Proofs.Channel.Caller
import TwinRing.Proofs.Channel.Pairing
import TwinRing.Proofs.Echo.Ends
import TwinRing.Proofs.Echo.Dialogue
import TwinRing.Proofs.Echo.Faithful
import TwinRing.Proofs.Direction.Acceptance
import TwinRing.Proofs.Ring.Effect
import TwinRing.Proofs.Direction.Failing
import TwinRing.Proofs.Direction.Pursuit
import TwinRing.Proofs.Direction.Retrying
import TwinRing.Proofs.Script.Spelling
import TwinRing.Proofs.Config.LastValue
import TwinRing.Proofs.Commons.Counterpart
