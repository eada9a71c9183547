import AlarmHistory.Address.Escape
/- Paths of addresses. A path is a list of segments, and dots among them are resolved: one dot
   stands for nothing, and two take back the segment before them. -/
namespace AlarmHistory.Address

def isDot (s : List Char) : Bool := s == ['.'] || s.map lower == "%2e".toList

def isDotDot (s : List Char) : Bool :=
  ["..", ".%2e", "%2e.", "%2e%2e"].any fun d => s.map lower == d.toList

def isDrive (s : List Char) : Bool :=
  match s with
  | [c, d] => isLetter c && (d == ':' || d == '|')
  | _ => false

/-- The segments so far, in reverse. `atDrive` says that the path of a file began with a drive. -/
structure Path where
  done : List (List Char) := []
  atDrive : Bool := false
  deriving DecidableEq, Repr

namespace Path

def push (p : Path) (s : List Char) : Path := { p with done := s :: p.done }

def back (p : Path) : Path :=
  if p.done.head?.any isDrive then p else { p with done := p.done.tail }

/-- One more segment. Behind the last segment there is no slash, so dots leave an empty one there.
   A drive at the very beginning is written with a colon. -/
def add (isFile isLast : Bool) (p : Path) (s : List Char) : Path :=
  let close (p : Path) : Path := if isLast then p.push [] else p
  if isDotDot s then close p.back
  else if isDot s then close p
  else if isFile && p.done.isEmpty && isDrive s then
    { p.push (s.take 1 ++ [':']) with atDrive := true }
  else p.push s

def addAll (isFile : Bool) (p : Path) : List (List Char) → Path
  | [] => p
  | [s] => p.add isFile true s
  | s :: rest => addAll isFile (p.add isFile false s) rest

def segments (isFile : Bool) (p : Path) : List (List Char) :=
  if isFile then
    match p.done.reverse.dropWhile List.isEmpty with
    | [] => [[]]
    | ss => ss
  else p.done.reverse

def ofSegments (isFile : Bool) (ss : List (List Char)) : Path :=
  addAll isFile {} (ss.map (escaped pathEscapes))

def text (isFile : Bool) (p : Path) : List Char :=
  '/' :: ['/'].intercalate (p.segments isFile)

end Path
end AlarmHistory.Address
