import DialogueStore.Engine.Session
import DialogueStore.Main
import DialogueStore.Proofs.LockUse
import DialogueStore.Proofs.Sweep
import DialogueStore.Proofs.Transition
import DialogueStore.Proofs.Tasks
import DialogueStore.Proofs.History
import DialogueStore.Proofs.Serial
import DialogueStore.Proofs.Provenance
import DialogueStore.Proofs.CutOff
import DialogueStore.Proofs.Delivery
import DialogueStore.Proofs.FirstWrite
import DialogueStore.Proofs.RemoteLog
import DialogueStore.Proofs.World
import DialogueStore.Proofs.Lasting
import DialogueStore.Proofs.Reading
import DialogueStore.Proofs.Overtaking
import DialogueStore.Proofs.Matching
import DialogueStore.Proofs.Standalone
import DialogueStore.Proofs.Redaction
import DialogueStore.Proofs.Locality
import DialogueStore.Proofs.Pieces
import DialogueStore.Proofs.PhoneNumbers
import DialogueStore.Proofs.Isolation
import DialogueStore.Proofs.Anonymity
import DialogueStore.Proofs.EmptyFetch
import DialogueStore.Proofs.Repeats
import DialogueStore.Proofs.Turns
import DialogueStore.Proofs.Noninterference
import DialogueStore.Proofs.Cancellation
import DialogueStore.Proofs.CachedHistory
import DialogueStore.Proofs.Freshness
import DialogueStore.Proofs.LockEntries
import DialogueStore.Proofs.SweepReports
import DialogueStore.Proofs.Failures
import DialogueStore.Proofs.Broadcasts
import DialogueStore.Proofs.MapOrder
import DialogueStore.Proofs.Rewriting
import DialogueStore.Proofs.StatedTracker
import DialogueStore.Proofs.Decoding
import DialogueStore.Proofs.ReadBack
import DialogueStore.Proofs.TextReadBack
import DialogueStore.Proofs.Answers
import DialogueStore.Proofs.Putting
import DialogueStore.Proofs.SelfLinks
import DialogueStore.Proofs.SweepTimes
