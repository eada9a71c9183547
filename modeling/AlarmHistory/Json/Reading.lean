import AlarmHistory.Json.Value
/- What a JSON text says, up to the place where it stops being JSON. A text is read character by
   character; a fault is kept in the tree at its place, so that a reader of one member is not
   disturbed by a fault that comes after it. -/
namespace AlarmHistory.Json

inductive Fault where
  | malformed
  | truncated
  deriving DecidableEq, Repr

/-- What the text had begun with when a fault came: nothing yet, a string, a number, or a word. -/
inductive Token where
  | nothing
  | text
  | number
  | word
  deriving DecidableEq, Repr

/-- The key of a member. An `unusable` one is a string with half a surrogate pair. After `broken`
   and `notText` nothing more is read: the reading beside them holds the fault in the key, or the
   value that stands where only a key may. -/
inductive Key where
  | name (s : String)
  | unusable
  | broken
  | notText
  deriving DecidableEq, Repr

/-- What is read. `unusable` is a token of the right form that denotes nothing: a string with half
   a surrogate pair, or a number beyond the largest one. It may still be skipped, unless the text
   breaks inside it. -/
inductive Reading where
  | null
  | bool (b : Bool)
  | int (i : Int)
  | float (x : Binary64)
  | str (s : String)
  | arr (items : List Reading) (stop : Option Fault)
  | obj (members : List (Key × Reading)) (stop : Option Fault)
  | unusable (stop : Option Fault)
  | broken (token : Token) (f : Fault)
  deriving Repr, Inhabited

structure Numeral where
  negative : Bool
  whole : List Char
  part : Option (List Char)
  power : Option (Bool × List Char)
  deriving DecidableEq, Repr

namespace Numeral

def limit : Nat := Nat.pow 2 64

def digit (c : Char) : Nat := (Decimal.digitValue? c).getD 0

def take (n : Nat) : List Char → Nat × List Char
  | [] => (n, [])
  | c :: cs => if 10 * n + digit c < limit then take (10 * n + digit c) cs else (n, c :: cs)

def isInteger (n : Numeral) : Bool := n.part.isNone && n.power.isNone

def significand (n : Numeral) : Nat × Int :=
  let (w, beyond) := take 0 n.whole
  let part := n.part.getD []
  let (s, dropped) := take w part
  let written : Int := part.length - dropped.length
  let power : Int := match n.power with
    | none => 0
    | some (false, ds) => Decimal.ofDigits ds
    | some (true, ds) => -(Decimal.ofDigits ds : Int)
  (s, beyond.length - written + power)

def reading (n : Numeral) : Reading :=
  let (s, power) := n.significand
  let exact := n.isInteger && power == 0
  if exact && !n.negative then .int s
  else if exact && n.negative && decide (0 < s ∧ s ≤ Nat.pow 2 63) then .int (-(s : Int))
  else match Binary64.scaled s power with
    | none => .unusable none
    | some x => .float (if n.negative then x.neg else x)

end Numeral

inductive NumeralStage where
  | sign
  | zero
  | whole
  | point
  | part
  | mark
  | markSign
  | power
  deriving DecidableEq, Repr

def NumeralStage.complete : NumeralStage → Bool
  | zero | whole | part | power => true
  | _ => false

/-- Text between quotes. `high` waits for the second half of a surrogate pair. -/
inductive TextStage where
  | plain
  | escape
  | hex (left : Nat) (value : Option Nat) (high : Option Nat)
  | high (first : Nat)
  | highEscape (first : Nat)
  deriving DecidableEq, Repr

/-- A container that is still open, its contents in reverse, and the key of the member that is
   being read. -/
inductive Frame where
  | arr (done : List Reading)
  | obj (done : List (Key × Reading)) (key : Key)
  deriving Repr

def Frame.awaiting (done : List (Key × Reading)) : Frame := .obj done .notText

inductive Mode where
  | value
  | firstItem
  | firstKey
  | nextKey
  | colon
  | after
  | text (isKey : Bool) (stage : TextStage) (done : List Char) (usable : Bool)
  | number (stage : NumeralStage) (n : Numeral)
  | word (rest : List Char) (v : Reading)
  deriving Repr

/-- The state of a scan. `ended` holds the finished value and what is wrong with the text after
   it. -/
inductive Scan where
  | going (frames : List Frame) (mode : Mode)
  | ended (value : Reading) (after : Option Fault)
  deriving Repr

namespace Scan

def enclose : List Frame → Reading → Reading
  | [], r => r
  | .arr done :: fs, r => enclose fs (.arr ((r :: done).reverse) none)
  | .obj done key :: fs, r => enclose fs (.obj (((key, r) :: done).reverse) none)

def cut (frames : List Frame) (r : Reading) : Scan := .ended (enclose frames r) none

def cutAt (frames : List Frame) (t : Token) (f : Fault) : Scan := cut frames (.broken t f)

def stopInside (f : Fault) : List Frame → Scan
  | [] => cutAt [] .nothing f
  | .arr done :: fs => cut fs (.arr done.reverse (some f))
  | .obj done _ :: fs => cut fs (.obj done.reverse (some f))

/-- A finished value joins the container around it; without one it is the whole value. Where a key
   had to stand nothing can follow it. -/
def deliver (frames : List Frame) (r : Reading) : Scan :=
  match frames with
  | [] => .ended r none
  | .arr done :: fs => .going (.arr (r :: done) :: fs) .after
  | .obj done key :: fs =>
    if key = .notText then cut frames r
    else .going (.awaiting ((key, r) :: done) :: fs) .after

def isBlank (c : Char) : Bool := c == ' ' || c == '\n' || c == '\t' || c == '\r'

def isDigit (c : Char) : Bool := (Decimal.digitValue? c).isSome

def startNumber (frames : List Frame) (negative : Bool) (c : Char) : Scan :=
  if c = '0' then .going frames (.number .zero ⟨negative, [c], none, none⟩)
  else if isDigit c then .going frames (.number .whole ⟨negative, [c], none, none⟩)
  else cutAt frames .nothing .malformed

def startValue (frames : List Frame) (c : Char) : Scan :=
  if c = '"' then .going frames (.text false .plain [] true)
  else if c = '[' then .going (.arr [] :: frames) .firstItem
  else if c = '\x7b' then .going (.awaiting [] :: frames) .firstKey
  else if c = 'n' then .going frames (.word ['u', 'l', 'l'] .null)
  else if c = 't' then .going frames (.word ['r', 'u', 'e'] (.bool true))
  else if c = 'f' then .going frames (.word ['a', 'l', 's', 'e'] (.bool false))
  else if c = '-' then .going frames (.number .sign ⟨true, [], none, none⟩)
  else startNumber frames false c

def startKey (frames : List Frame) (c : Char) : Scan :=
  if c = '"' then .going frames (.text true .plain [] true)
  else if c = '[' then cut frames (.arr [] none)
  else if c = '\x7b' then cut frames (.obj [] none)
  else startValue frames c

def continueAfter (frames : List Frame) (c : Char) : Scan :=
  match frames with
  | [] => cutAt [] .nothing .malformed
  | .arr done :: fs =>
    if c = ',' then .going frames .value
    else if c = ']' then deliver fs (.arr done.reverse none)
    else stopInside .malformed frames
  | .obj done _ :: fs =>
    if c = ',' then .going frames .nextKey
    else if c = '\x7d' then deliver fs (.obj done.reverse none)
    else stopInside .malformed frames

def finishText (frames : List Frame) (isKey : Bool) (done : List Char) (usable : Bool) : Scan :=
  if isKey then
    match frames with
    | .obj ms _ :: fs =>
      .going (.obj ms (if usable then .name (String.ofList done.reverse) else .unusable) :: fs)
        .colon
    | _ => cutAt [] .nothing .malformed
  else deliver frames (if usable then .str (String.ofList done.reverse) else .unusable none)

/-- A string that the text breaks off. If it was unusable before, that counts for whoever asks for
   it. -/
def breakText (frames : List Frame) (isKey usable : Bool) (f : Fault) : Scan :=
  if !isKey then cut frames (if usable then .broken .text f else .unusable (some f))
  else match frames with
    | .obj ms _ :: fs => cutAt (.obj ms (if usable then .broken else .unusable) :: fs) .text f
    | _ => cutAt [] .text f

def hexValue? (c : Char) : Option Nat :=
  if '0' ≤ c ∧ c ≤ '9' then some (c.toNat - 48)
  else if 'a' ≤ c ∧ c ≤ 'f' then some (c.toNat - 87)
  else if 'A' ≤ c ∧ c ≤ 'F' then some (c.toNat - 55)
  else none

def simpleEscape? (c : Char) : Option Char :=
  if c = '"' then some '"'
  else if c = '\\' then some '\\'
  else if c = '/' then some '/'
  else if c = 'b' then some '\x08'
  else if c = 'f' then some '\x0c'
  else if c = 'n' then some '\n'
  else if c = 'r' then some '\r'
  else if c = 't' then some '\t'
  else none

def isHigh (n : Nat) : Bool := 0xD800 ≤ n && n < 0xDC00

def isLow (n : Nat) : Bool := 0xDC00 ≤ n && n < 0xE000

def finishHex (frames : List Frame) (isKey : Bool) (done : List Char) (usable : Bool)
    (value : Nat) (high : Option Nat) : Scan :=
  match high with
  | some h =>
    if isLow value then
      .going frames (.text isKey .plain
        (Char.ofNat (0x10000 + (h - 0xD800) * 0x400 + (value - 0xDC00)) :: done) usable)
    else .going frames (.text isKey .plain done false)
  | none =>
    if isHigh value then .going frames (.text isKey (.high value) done usable)
    else if isLow value then .going frames (.text isKey .plain done false)
    else .going frames (.text isKey .plain (Char.ofNat value :: done) usable)

def stepPlain (frames : List Frame) (isKey : Bool) (done : List Char) (usable : Bool)
    (c : Char) : Scan :=
  if c = '"' then finishText frames isKey done usable
  else if c = '\\' then .going frames (.text isKey .escape done usable)
  else if c.toNat < 32 then breakText frames isKey usable .malformed
  else .going frames (.text isKey .plain (c :: done) usable)

def stepEscape (frames : List Frame) (isKey : Bool) (done : List Char) (usable : Bool)
    (high : Option Nat) (c : Char) : Scan :=
  if c = 'u' then .going frames (.text isKey (.hex 4 (some 0) high) done usable)
  else
    let usable := usable && high.isNone
    match simpleEscape? c with
    | some d => .going frames (.text isKey .plain (d :: done) usable)
    | none => breakText frames isKey usable .malformed

def stepHex (frames : List Frame) (isKey : Bool) (done : List Char) (usable : Bool)
    (left : Nat) (value : Option Nat) (high : Option Nat) (c : Char) : Scan :=
  let value := match value, hexValue? c with
    | some n, some d => some (16 * n + d)
    | _, _ => none
  let left := left - c.utf8Size
  if 0 < left then .going frames (.text isKey (.hex left value high) done usable)
  else match value with
    | some n => finishHex frames isKey done usable n high
    | none => breakText frames isKey usable .malformed

def stepText (frames : List Frame) (isKey : Bool) (stage : TextStage) (done : List Char)
    (usable : Bool) (c : Char) : Scan :=
  match stage with
  | .plain => stepPlain frames isKey done usable c
  | .escape => stepEscape frames isKey done usable none c
  | .hex left value high => stepHex frames isKey done usable left value high c
  | .high first =>
    if c = '\\' then .going frames (.text isKey (.highEscape first) done usable)
    else stepPlain frames isKey done false c
  | .highEscape first => stepEscape frames isKey done usable (some first) c

def extendNumber (stage : NumeralStage) (n : Numeral) (c : Char) :
    Option (NumeralStage × Numeral) :=
  let onPower (neg : Bool) (ds : List Char) : Numeral := { n with power := some (neg, ds) }
  let isMark := c == 'e' || c == 'E'
  match stage with
  | .sign =>
    if c = '0' then some (.zero, { n with whole := [c] })
    else if isDigit c then some (.whole, { n with whole := [c] })
    else none
  | .zero =>
    if c = '.' then some (.point, { n with part := some [] })
    else if isMark then some (.mark, n)
    else none
  | .whole =>
    if isDigit c then some (.whole, { n with whole := n.whole ++ [c] })
    else if c = '.' then some (.point, { n with part := some [] })
    else if isMark then some (.mark, n)
    else none
  | .point =>
    if isDigit c then some (.part, { n with part := some [c] }) else none
  | .part =>
    if isDigit c then some (.part, { n with part := n.part.map (· ++ [c]) })
    else if isMark then some (.mark, n)
    else none
  | .mark =>
    if c = '+' then some (.markSign, onPower false [])
    else if c = '-' then some (.markSign, onPower true [])
    else if isDigit c then some (.power, onPower false [c])
    else none
  | .markSign =>
    if isDigit c then some (.power, { n with power := n.power.map fun p => (p.1, p.2 ++ [c]) })
    else none
  | .power =>
    if isDigit c then some (.power, { n with power := n.power.map fun p => (p.1, p.2 ++ [c]) })
    else none

def stepMode (frames : List Frame) (mode : Mode) (c : Char) : Scan :=
  match mode with
  | .value => if isBlank c then .going frames mode else startValue frames c
  | .firstItem =>
    if isBlank c then .going frames mode
    else if c = ']' then
      match frames with
      | _ :: fs => deliver fs (.arr [] none)
      | [] => cutAt [] .nothing .malformed
    else startValue frames c
  | .firstKey =>
    if isBlank c then .going frames mode
    else if c = '\x7d' then
      match frames with
      | _ :: fs => deliver fs (.obj [] none)
      | [] => cutAt [] .nothing .malformed
    else startKey frames c
  | .nextKey => if isBlank c then .going frames mode else startKey frames c
  | .colon =>
    if isBlank c then .going frames mode
    else if c = ':' then .going frames .value
    else cutAt frames .nothing .malformed
  | .after => if isBlank c then .going frames mode else continueAfter frames c
  | _ => .going frames mode

def stepAfter (value : Reading) (after : Option Fault) (c : Char) : Scan :=
  if after.isNone && !isBlank c then .ended value (some .malformed) else .ended value after

def step (s : Scan) (c : Char) : Scan :=
  match s with
  | .ended value after => stepAfter value after c
  | .going frames (.text isKey stage done usable) => stepText frames isKey stage done usable c
  | .going frames (.word rest v) =>
    match rest with
    | [] => cutAt frames .word .malformed
    | d :: ds =>
      if c ≠ d then cutAt frames .word .malformed
      else if ds.isEmpty then deliver frames v
      else .going frames (.word ds v)
  | .going frames (.number stage n) =>
    match extendNumber stage n c with
    | some (stage, n) => .going frames (.number stage n)
    | none =>
      if !stage.complete || (stage == .zero && isDigit c) then cutAt frames .number .malformed
      else match deliver frames n.reading with
        | .going frames mode => stepMode frames mode c
        | .ended value after => stepAfter value after c
  | .going frames mode => stepMode frames mode c

def missKey : List Frame → Scan
  | .obj ms _ :: fs => cutAt (.obj ms .broken :: fs) .nothing .truncated
  | frames => cutAt frames .nothing .truncated

def finish : Scan → Reading × Option Fault
  | .ended value after => (value, after)
  | .going frames mode =>
    let done : Scan := match mode with
      | .value | .colon => cutAt frames .nothing .truncated
      | .word _ _ => cutAt frames .word .truncated
      | .firstKey | .nextKey => missKey frames
      | .firstItem | .after => stopInside .truncated frames
      | .text isKey _ _ usable => breakText frames isKey usable .truncated
      | .number stage n =>
        if !stage.complete then cutAt frames .number .truncated
        else match deliver frames n.reading with
          | .going frames _ => stopInside .truncated frames
          | .ended value after => .ended value after
    match done with
    | .ended value after => (value, after)
    | .going _ _ => (.broken .nothing .truncated, none)

end Scan

def readChars (cs : List Char) : Reading × Option Fault :=
  (cs.foldl Scan.step (.going [] .value)).finish

def readText (t : String) : Reading × Option Fault := readChars t.toList

end AlarmHistory.Json
