import AlarmHistory.Proofs.Bulk.Body
import AlarmHistory.Proofs.Bulk.Retries
import AlarmHistory.Proofs.Store.History

/- Which documents go over the link again during an upload, whatever the store behind it answers. -/
namespace AlarmHistory.Store.Client
open Bulk
variable {σ : Type} (link : Link (StateM σ)) (c : Client)

end AlarmHistory.Store.Client
