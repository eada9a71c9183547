/- A clock that moves only when told to. Times wrap around at the ends of 64 bits. -/
namespace AlarmHistory

structure Clock where
  now : Int64 := 0
  deriving DecidableEq, Repr

namespace Clock

def set (_ : Clock) (time : Int64) : Clock := ⟨time⟩

def reset (_ : Clock) : Clock := {}

def advance (c : Clock) (ms : UInt64) : Clock := ⟨c.now + ms.toInt64⟩

end Clock
end AlarmHistory
