import AlarmHistory.Domain.Direction
import AlarmHistory.Domain.Joining
import AlarmHistory.Domain.Mapping
import AlarmHistory.Domain.Punycode
/- Domain names in any script, as the ASCII names that they go by. A label beyond ASCII goes by a
   code behind a mark of its own, and a label that has the mark already must hold the code of a
   label. -/
namespace AlarmHistory.Domain

def codeMark : List Char := ['x', 'n', '-', '-']

def isAscii (label : List Char) : Bool := label.all Punycode.isAscii

def labels : List Char → List (List Char)
  | [] => [[]]
  | c :: rest =>
    match labels rest with
    | l :: more => if c == '.' then [] :: l :: more else (c :: l) :: more
    | [] => [[c]]

/-- A label beyond ASCII: in its one form, of settled characters, with no mark at its front and
   every joiner in place. -/
def isSound (label : List Char) : Bool :=
  composed label == label && label.all isSettled && !label.head?.any isMark &&
    joinersFit [] label

def label? (written : List Char) : Option (List Char) :=
  if codeMark.isPrefixOf written then do
    let label ← Punycode.decode? (written.drop codeMark.length)
    if isAscii label || codeMark.isPrefixOf label || !isSound label then none else some label
  else if isAscii written || isSound written then some written
  else none

def asciiLabel (label : List Char) : List Char :=
  if isAscii label then label else codeMark ++ Punycode.encode label

def asciiName? (name : List Char) : Option (List Char) := do
  let mapped ← name.mapM mapped?
  let labels ← (labels (composed mapped.flatten)).mapM label?
  if showsInOrder labels then some (['.'].intercalate (labels.map asciiLabel)) else none

end AlarmHistory.Domain
