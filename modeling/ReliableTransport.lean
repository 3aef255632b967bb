import ReliableTransport.Rehearsal.Acceptors
import ReliableTransport.Rehearsal.Batches
import ReliableTransport.Rehearsal.DatagramReceivers
import ReliableTransport.Rehearsal.DatagramSenders
import ReliableTransport.Rehearsal.Excerpt
import ReliableTransport.Rehearsal.Inboxes
import ReliableTransport.Rehearsal.Mailboxes
import ReliableTransport.Rehearsal.Outboxes
import ReliableTransport.Rehearsal.Pipelines
import ReliableTransport.Rehearsal.Pools
import ReliableTransport.Rehearsal.Queues
import ReliableTransport.Rehearsal.Registries
import ReliableTransport.Rehearsal.Streams
import ReliableTransport.Proofs.Frame
import ReliableTransport.Proofs.Batch.Encoding
import ReliableTransport.Proofs.Batch.Runs
import ReliableTransport.Proofs.Mailbox
import ReliableTransport.Proofs.Mailbox.Course
import ReliableTransport.Proofs.Mailbox.Passes
import ReliableTransport.Proofs.Outbox.Collecting
import ReliableTransport.Proofs.Outbox.Turns
import ReliableTransport.Proofs.Outbox.Dispatch
import ReliableTransport.Proofs.Inbox.Delivery
import ReliableTransport.Proofs.Line
import ReliableTransport.Proofs.Queue.Turns
import ReliableTransport.Proofs.Queue.Traffic
import ReliableTransport.Proofs.Queue.Deadlines
import ReliableTransport.Proofs.Outbox.Journal
import ReliableTransport.Proofs.Outbox.Parting
import ReliableTransport.Proofs.Outbox.Closing
import ReliableTransport.Proofs.Outbox.Overlap
import ReliableTransport.Proofs.Outbox.Completion
import ReliableTransport.Proofs.Pool.Search
import ReliableTransport.Proofs.Pool.Service
import ReliableTransport.Proofs.Pool.Balance
import ReliableTransport.Proofs.Pool.Runs
import ReliableTransport.Proofs.Pool.Founding
import ReliableTransport.Proofs.Pool.Draining
import ReliableTransport.Proofs.Pool.Outrunning
import ReliableTransport.Proofs.Pool.Quiet
import ReliableTransport.Proofs.Stream.Reading
import ReliableTransport.Proofs.Stream.Passage
import ReliableTransport.Proofs.Sender.Usage
import ReliableTransport.Proofs.Sender.Circuit
import ReliableTransport.Proofs.Sender.Splicing
import ReliableTransport.Proofs.Acceptor.History
import ReliableTransport.Proofs.Acceptor.Ownership
import ReliableTransport.Proofs.Acceptor.Overtaking
import ReliableTransport.Proofs.Acceptor.Stranding
import ReliableTransport.Proofs.Acceptor.Soundness
import ReliableTransport.Proofs.Receiver.Turns
import ReliableTransport.Proofs.Receiver.Deeds
import ReliableTransport.Proofs.Receiver.Table
import ReliableTransport.Proofs.Receiver.Standing
import ReliableTransport.Proofs.Receiver.Runs
import ReliableTransport.Proofs.Receiver.Notices
import ReliableTransport.Proofs.Receiver.Outlasting
import ReliableTransport.Proofs.Receiver.Stopping
import ReliableTransport.Proofs.Sender.Deeds
import ReliableTransport.Proofs.Sender.Sockets
import ReliableTransport.Proofs.Sender.Connection
import ReliableTransport.Proofs.Sender.Exposure
import ReliableTransport.Proofs.Outbox.Soundness
import ReliableTransport.Proofs.Outbox.Stages
import ReliableTransport.Proofs.Outbox.Pieces
import ReliableTransport.Proofs.Outbox.Disposal
import ReliableTransport.Proofs.Inbox.Course
import ReliableTransport.Proofs.Stream.Extent
import ReliableTransport.Proofs.Inbox.Ledger
import ReliableTransport.Proofs.Inbox.Custody
import ReliableTransport.Proofs.Inbox.Exactness
import ReliableTransport.Proofs.Inbox.Parting
import ReliableTransport.Proofs.Fleet.Errands
import ReliableTransport.Proofs.Fleet.Founding
import ReliableTransport.Proofs.Pool.Lending
import ReliableTransport.Proofs.Fleet.Recovery
import ReliableTransport.Proofs.Outbox.Splitting
import ReliableTransport.Proofs.Outbox.Sharing
import ReliableTransport.Proofs.Pool.Rotation
import ReliableTransport.Proofs.Acceptor.Rounds
import ReliableTransport.Proofs.Acceptor.Unfolding
import ReliableTransport.Proofs.Acceptor.Places
import ReliableTransport.Proofs.Acceptor.Account
import ReliableTransport.Proofs.Acceptor.Handover
import ReliableTransport.Proofs.Receiver.Relaying
import ReliableTransport.Proofs.Registry.Notifying
import ReliableTransport.Proofs.Gathering
import ReliableTransport.Proofs.Transience
import ReliableTransport.Proofs.Batch.Bounds
import ReliableTransport.Proofs.Causes
import ReliableTransport.Proofs.Ranges
import ReliableTransport.Proofs.Stream.Resuming
