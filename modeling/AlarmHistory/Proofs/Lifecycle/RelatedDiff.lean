import AlarmHistory.Proofs.Lifecycle.Roster
import Mathlib.Data.Finset.Insert
import Mathlib.Data.Finset.SDiff
import Mathlib.Data.Finset.Union
import Mathlib.Data.List.Sort
import Mathlib.Tactic.Tauto

/- The difference between two lists of related alarms as a difference of sets of ids. Its entries
   lead from one set to the other and back again, and there are no more of them than that takes. -/
namespace AlarmHistory

namespace RelatedChange

end RelatedChange

namespace Lifecycle

/-- No id stands twice, and each stands before all larger ones. -/
def Ascending (es : List Entry) : Prop := es.Pairwise fun e f => e.id < f.id

section Roster
variable {e f : Entry} {es : List Entry}

end Roster

namespace OnlyIn
variable {here there : List Alarm} {es : List Entry}

end OnlyIn

section Changes
variable (now : Int64) (es : List Entry) (ids : Finset Int32)

end Changes

section Diff
variable (now : Int64) (previous current : List Alarm)

end Diff
end Lifecycle
end AlarmHistory
