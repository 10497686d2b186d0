import PeerTracker.Main
import PeerTracker.Proofs.Histories
import PeerTracker.Proofs.BadActors
import PeerTracker.Proofs.Totals
import PeerTracker.Proofs.Fields
import PeerTracker.Proofs.Unconnected
import PeerTracker.Proofs.ConnectionIds
import PeerTracker.Proofs.Listings
import PeerTracker.Proofs.Announces
import PeerTracker.Proofs.Demands
import PeerTracker.Proofs.Replies
import PeerTracker.Proofs.Stops
import PeerTracker.Proofs.RequestGrammar
import PeerTracker.Proofs.RequestCodec
import PeerTracker.Proofs.ReplyCodec
import PeerTracker.Proofs.Datagrams
import PeerTracker.Proofs.Arising
import PeerTracker.Proofs.Sweeps
import PeerTracker.Proofs.Loading
import PeerTracker.Proofs.SnapshotCodec
import PeerTracker.Proofs.Snapshots
import PeerTracker.Proofs.ReplyBuffers
import PeerTracker.Proofs.Timeouts
import PeerTracker.Proofs.Bencoding
import PeerTracker.Proofs.Bodies
import PeerTracker.Proofs.AnnounceBodies
import PeerTracker.Proofs.AddressTexts
import PeerTracker.Proofs.Figures
import PeerTracker.Proofs.Queries
import PeerTracker.Proofs.QueryStrings
import PeerTracker.Proofs.Refusals
import PeerTracker.Proofs.Retransmissions
import PeerTracker.Proofs.Transports
import PeerTracker.Proofs.Scrapes
import PeerTracker.Proofs.PeerLists
import PeerTracker.Proofs.SpareRecords
import PeerTracker.Proofs.Hints
import PeerTracker.Proofs.Edits
import PeerTracker.Proofs.FastMode
import PeerTracker.Proofs.Twins
import PeerTracker.Proofs.Providers
import PeerTracker.Proofs.Families
import PeerTracker.Proofs.Backups
import PeerTracker.Proofs.Identifiers
import PeerTracker.Proofs.Intervals
import PeerTracker.Proofs.ReplySizes
import PeerTracker.Proofs.IdleObjects
import PeerTracker.Proofs.PacketQueues
