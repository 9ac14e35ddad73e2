import TrackerGateway.Gateway
import TrackerGateway.Json.Reader
import TrackerGateway.Main
import TrackerGateway.Proofs.Egts.Stream
import TrackerGateway.Proofs.Gateway.Settling
import TrackerGateway.Proofs.Watch.Frames
import TrackerGateway.Proofs.Session.Identities
import TrackerGateway.Proofs.Session.Calls
import TrackerGateway.Proofs.Session.Agreement
import TrackerGateway.Proofs.Watch.Rescan
import TrackerGateway.Proofs.Egts.Acknowledgment
import TrackerGateway.Proofs.Gateway.Alike
import TrackerGateway.Proofs.Gateway.Independence
import TrackerGateway.Proofs.Watch.Datagram
import TrackerGateway.Proofs.Watch.Commands
import TrackerGateway.Proofs.Watch.Attachment
import TrackerGateway.Proofs.Egts.Replies
import TrackerGateway.Proofs.Watch.Answer
import TrackerGateway.Proofs.Egts.Boundaries
import TrackerGateway.Proofs.Session.Remnant
import TrackerGateway.Proofs.Egts.Forgiveness
import TrackerGateway.Proofs.Watch.Learning
import TrackerGateway.Proofs.Session.Log
import TrackerGateway.Proofs.Gateway.Lifetime
import TrackerGateway.Proofs.Gateway.LastFix
import TrackerGateway.Proofs.Watch.Refusal
import TrackerGateway.Proofs.Session.Numbering
import TrackerGateway.Proofs.Watch.Dating
import TrackerGateway.Proofs.Watch.Accounting
import TrackerGateway.Proofs.Watch.Limit
import TrackerGateway.Proofs.Watch.Surroundings
import TrackerGateway.Proofs.CommandLine.Parameters
import TrackerGateway.Proofs.Egts.Settings
import TrackerGateway.Proofs.Egts.Assembly
import TrackerGateway.Proofs.Guarded.Protocols
import TrackerGateway.Proofs.Config.Options
import TrackerGateway.Proofs.Egts.Corruption
import TrackerGateway.Proofs.Media.Library
import TrackerGateway.Proofs.Config.Persistence
import TrackerGateway.Proofs.Watch.Verdict
import TrackerGateway.Proofs.Guarded.Requests
import TrackerGateway.Proofs.Sentence.Dates
import TrackerGateway.Proofs.Sentence.Runs
import TrackerGateway.Proofs.Sentence.Alignment
