import AlarmHistory.Json.Reading
/- Reading typed values out of JSON. What is wrong is reported where it stands first in the text:
   a value of the wrong shape, or the place where the text stops being JSON.

   A record is written as an object, whose unknown members are skipped and whose known members may
   come once, or as an array of its fields in their order. -/
namespace AlarmHistory.Json

inductive ReadError where
  | mismatch
  | malformed
  | truncated
  deriving DecidableEq, Repr

def Fault.error : Fault → ReadError
  | .malformed => .malformed
  | .truncated => .truncated

def noFault : Option Fault → Except ReadError Unit
  | none => .ok ()
  | some f => .error f.error

abbrev Decoder (α : Type) := Reading → Except ReadError α

namespace Reading

def refuse : Reading → ReadError
  | .broken _ f => f.error
  | .unusable _ => .malformed
  | _ => .mismatch

mutual

/-- A value that nobody asks for: only the text's own faults count. A number that the text breaks
   off is then no number, whatever might have come. -/
def skip : Reading → Except ReadError Unit
  | .arr items stop => do skipItems items; noFault stop
  | .obj members stop => do skipMembers members; noFault stop
  | .unusable stop => noFault stop
  | .broken .number _ => .error .malformed
  | .broken _ f => .error f.error
  | _ => .ok ()

def skipItems : List Reading → Except ReadError Unit
  | [] => .ok ()
  | r :: rest => do skip r; skipItems rest

def skipMembers : List (Key × Reading) → Except ReadError Unit
  | [] => .ok ()
  | (.notText, _) :: _ => .error .malformed
  | (_, r) :: rest => do skip r; skipMembers rest

end

mutual

/-- The plain value, with objects sorted by key. `depth` bounds how many containers may be open at
   once; one more is a fault of the text. -/
def toJson (depth : Nat) : Reading → Except ReadError Json
  | .null => .ok .null
  | .bool b => .ok (.bool b)
  | .int i => .ok (.int i)
  | .float x => .ok (.float x)
  | .str s => .ok (.str s)
  | .unusable _ => .error .malformed
  | .broken _ f => .error f.error
  | .arr items stop => do
    if depth ≤ 1 then throw .malformed
    let items ← toJsonItems (depth - 1) items
    noFault stop
    return .arr items
  | .obj members stop => do
    if depth ≤ 1 then throw .malformed
    let members ← toJsonMembers (depth - 1) members []
    noFault stop
    return .obj members

def toJsonItems (depth : Nat) : List Reading → Except ReadError (List Json)
  | [] => .ok []
  | r :: rest => do
    let v ← toJson depth r
    let vs ← toJsonItems depth rest
    return v :: vs

def toJsonMembers (depth : Nat) :
    List (Key × Reading) → List (String × Json) → Except ReadError (List (String × Json))
  | [], done => .ok done
  | (.unusable, _) :: _, _ | (.notText, _) :: _, _ => .error .malformed
  | (.broken, r) :: _, _ => .error r.refuse
  | (.name k, r) :: rest, done => do
    let v ← toJson depth r
    toJsonMembers depth rest (insertMember k v done)

end

mutual

def depth : Reading → Nat
  | .arr items _ => depthItems items + 1
  | .obj members _ => depthMembers members + 1
  | _ => 1

def depthItems : List Reading → Nat
  | [] => 0
  | r :: rest => max (depth r) (depthItems rest)

def depthMembers : List (Key × Reading) → Nat
  | [] => 0
  | (_, r) :: rest => max (depth r) (depthMembers rest)

end

end Reading

mutual

/-- A value that is already known to be JSON, as a text would have given it. -/
def reading : Json → Reading
  | .null => .null
  | .bool b => .bool b
  | .int i => .int i
  | .float x => .float x
  | .str s => .str s
  | .arr items => .arr (itemReadings items) none
  | .obj members => .obj (memberReadings members) none

def itemReadings : List Json → List Reading
  | [] => []
  | v :: rest => reading v :: itemReadings rest

def memberReadings : List (String × Json) → List (Key × Reading)
  | [] => []
  | (k, v) :: rest => (.name k, reading v) :: memberReadings rest

end

def decodeText (dec : Decoder α) (t : String) : Except ReadError α := do
  let (r, after) := readText t
  let a ← dec r
  noFault after
  return a

def decode (dec : Decoder α) (v : Json) : Except ReadError α :=
  (dec v.reading).mapError fun _ => .mismatch

def maxDepth : Nat := 128

def plain : Decoder Json := Reading.toJson maxDepth

def ofText (t : String) : Except ReadError Json := decodeText plain t

namespace Decoder

def string : Decoder String
  | .str s => .ok s
  | r => .error r.refuse

def bool : Decoder Bool
  | .bool b => .ok b
  | r => .error r.refuse

def integer (low high : Int) : Decoder Int
  | .int i => if low ≤ i ∧ i ≤ high then .ok i else .error .mismatch
  | r => .error r.refuse

def int32 : Decoder Int32 := fun r =>
  (integer Int32.minValue.toInt Int32.maxValue.toInt r).map Int32.ofInt

def int64 : Decoder Int64 := fun r =>
  (integer Int64.minValue.toInt Int64.maxValue.toInt r).map Int64.ofInt

def natural (bits : Nat) : Decoder Nat := fun r =>
  (integer 0 (Nat.pow 2 bits - 1) r).map Int.toNat

def nullable (dec : Decoder α) : Decoder (Option α)
  | .null => .ok none
  | r => (dec r).map some

def items (dec : Decoder α) : List Reading → Except ReadError (List α)
  | [] => .ok []
  | r :: rest => do
    let a ← dec r
    let as ← items dec rest
    return a :: as

def list (dec : Decoder α) : Decoder (List α)
  | .arr rs stop => do
    let as ← items dec rs
    noFault stop
    return as
  | r => .error r.refuse

def members (dec : Decoder α) : List (Key × Reading) → Except ReadError (List (String × α))
  | [] => .ok []
  | (.unusable, _) :: _ | (.notText, _) :: _ => .error .malformed
  | (.broken, r) :: _ => .error r.refuse
  | (.name k, r) :: rest => do
    let a ← dec r
    let as ← members dec rest
    return (k, a) :: as

def table (dec : Decoder α) : Decoder (List (String × α))
  | .obj ms stop => do
    let as ← members dec ms
    noFault stop
    return as
  | r => .error r.refuse

def null : Decoder Unit
  | .null => .ok ()
  | r => .error r.refuse

/-- One of several names: the name as a string, or as the only key of an object with value null.
   Nothing else can begin here, so a number or a word is a fault of the text at once, and so is
   whatever follows the value of the object before its end. -/
def oneOf (names : List (String × α)) : Decoder α
  | .str s => match names.lookup s with
    | some a => .ok a
    | none => .error .mismatch
  | .obj ((.name k, r) :: rest) stop => match names.lookup k with
    | none => .error .mismatch
    | some a => do
      null r
      if rest.isEmpty then noFault stop else throw .malformed
      return a
  | .obj ((.unusable, _) :: _) _ => .error .malformed
  | .obj ((_, r) :: _) _ => .error r.refuse
  | .broken .nothing f | .broken .text f => .error f.error
  | _ => .error .malformed

end Decoder

/-- What a field without a member means. `missing` may be left out of an object but not out of an
   array; `absent` may be left out of both. -/
inductive Absence (α : Type) where
  | required
  | missing (a : α)
  | absent (a : α)

/-- How to read a record. `check` reads one member by itself, if it is a field; `ofMembers` builds
   the record from members that have passed, `ofItems` from the items of an array. -/
structure Record (α : Type) where
  check : String → Option (Reading → Except ReadError Unit)
  ofMembers : (String → Option Reading) → Except ReadError α
  ofItems : List Reading → Option Fault → Except ReadError (α × List Reading)

namespace Record

def pure (a : α) : Record α where
  check _ := none
  ofMembers _ := .ok a
  ofItems items _ := .ok (a, items)

def field (r : Record (β → α)) (name : String) (dec : Decoder β) (absence : Absence β) :
    Record α where
  check k := if k = name then some fun v => (dec v).map fun _ => () else r.check k
  ofMembers get := do
    let f ← r.ofMembers get
    match get name, absence with
    | some v, _ => return f (← dec v)
    | none, .required => throw .mismatch
    | none, .missing b => return f b
    | none, .absent b => return f b
  ofItems items stop := do
    let (f, rest) ← r.ofItems items stop
    match rest, absence with
    | v :: rest, _ => return (f (← dec v), rest)
    | [], .absent b => do noFault stop; return (f b, [])
    | [], _ => do noFault stop; throw .mismatch

def required (r : Record (β → α)) (name : String) (dec : Decoder β) : Record α :=
  r.field name dec .required

/-- A required field of an object that is read after all others, and once only. Its faults come last
   wherever it stands, so this is for values that are known to be JSON, and for records that lie
   within each other: reading such a field twice at every level would take too long. -/
def last (r : Record (β → α)) (name : String) (dec : Decoder β) : Record α :=
  { r.required name dec with
    check := fun k => if k = name then some fun _ => .ok () else r.check k }

def nullable (r : Record (Option β → α)) (name : String) (dec : Decoder β) : Record α :=
  r.field name (.nullable dec) (.missing none)

def optional (r : Record (Option β → α)) (name : String) (dec : Decoder β) : Record α :=
  r.field name (.nullable dec) (.absent none)

def defaulted (r : Record (β → α)) (name : String) (dec : Decoder β) (b : β) : Record α :=
  r.field name dec (.absent b)

def both (r : Record α) (s : Record β) : Record (α × β) where
  check k := (r.check k).or (s.check k)
  ofMembers get := do
    let a ← r.ofMembers get
    let b ← s.ofMembers get
    return (a, b)
  ofItems items stop := do
    let (a, rest) ← r.ofItems items stop
    let (b, rest) ← s.ofItems rest stop
    return ((a, b), rest)

def map (f : α → β) (r : Record α) : Record β where
  check := r.check
  ofMembers get := (r.ofMembers get).map f
  ofItems items stop := (r.ofItems items stop).map fun p => (f p.1, p.2)

/-- The members in text order: a field may come once and must read, anything else is skipped. -/
def scan (r : Record α) : List String → List (Key × Reading) → Except ReadError Unit
  | _, [] => .ok ()
  | _, (.unusable, _) :: _ | _, (.notText, _) :: _ => .error .malformed
  | _, (.broken, v) :: _ => .error v.refuse
  | seen, (.name k, v) :: rest =>
    match r.check k with
    | none => do v.skip; r.scan seen rest
    | some check => do
      if k ∈ seen then throw .mismatch
      check v
      r.scan (k :: seen) rest

def find (members : List (Key × Reading)) (k : String) : Option Reading :=
  members.lookup (.name k)

def decoder (r : Record α) : Decoder α
  | .obj members stop => do
    r.scan [] members
    noFault stop
    r.ofMembers (find members)
  | .arr items stop => do
    let (a, rest) ← r.ofItems items stop
    if rest.isEmpty then noFault stop else throw .malformed
    return a
  | v => .error v.refuse

end Record
end AlarmHistory.Json
