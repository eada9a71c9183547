import AlarmHistory.Archiver
import AlarmHistory.Main
import AlarmHistory.Store.Script
import AlarmHistory.Proofs.Document.RoundTrip
import AlarmHistory.Proofs.Lifecycle.RelatedHistory
import AlarmHistory.Proofs.Store.Order
import AlarmHistory.Proofs.Writer.Schedule
import AlarmHistory.Proofs.Bulk.Body
import AlarmHistory.Proofs.Writer.Sessions
import AlarmHistory.Proofs.Writer.Stopping
import AlarmHistory.Proofs.Lifecycle.Recording
import AlarmHistory.Proofs.Past.Redelivery
import AlarmHistory.Proofs.Lifecycle.Reduction
import AlarmHistory.Proofs.Past.Rollback
import AlarmHistory.Proofs.Past.Oldest
import AlarmHistory.Proofs.Store.Resending
import AlarmHistory.Proofs.Store.Confinement
import AlarmHistory.Proofs.Lifecycle.RelatedDiff
import AlarmHistory.Proofs.NodeCache
import AlarmHistory.Proofs.Index.Buckets
import AlarmHistory.Proofs.Writer.Chunks
import AlarmHistory.Proofs.Store.Deliveries
import AlarmHistory.Proofs.Store.Calls
