import AlarmHistory.Decimal.Shortest
/- JSON values and their compact text. An object is a list of members in the order in which they
   are written; `sorted` gives the form in which every object is ordered by key. -/
namespace AlarmHistory

inductive Json where
  | null
  | bool (b : Bool)
  | int (i : Int)
  | float (x : Binary64)
  | str (s : String)
  | arr (items : List Json)
  | obj (members : List (String × Json))
  deriving Repr, Inhabited

namespace Json

open Decimal

def hexDigit (n : Nat) : Char :=
  if n < 10 then Char.ofNat (48 + n) else Char.ofNat (87 + n)

def escapeChar (c : Char) : List Char :=
  if c = '"' then ['\\', '"']
  else if c = '\\' then ['\\', '\\']
  else if c = '\x08' then ['\\', 'b']
  else if c = '\x0c' then ['\\', 'f']
  else if c = '\n' then ['\\', 'n']
  else if c = '\r' then ['\\', 'r']
  else if c = '\t' then ['\\', 't']
  else if c.toNat < 32 then
    ['\\', 'u', '0', '0', hexDigit (c.toNat / 16), hexDigit (c.toNat % 16)]
  else [c]

def quoted (s : String) : List Char :=
  '"' :: (s.toList.flatMap escapeChar ++ ['"'])

def word (b : Bool) : List Char :=
  if b then ['t', 'r', 'u', 'e'] else ['f', 'a', 'l', 's', 'e']

mutual

def chars : Json → List Char
  | null => ['n', 'u', 'l', 'l']
  | bool b => word b
  | int i => intDigits i
  | float x => x.decimalDigits
  | str s => quoted s
  | arr items => '[' :: (itemChars items ++ [']'])
  | obj members => '\x7b' :: (memberChars members ++ ['\x7d'])

def itemChars : List Json → List Char
  | [] => []
  | [v] => chars v
  | v :: w :: rest => chars v ++ ',' :: itemChars (w :: rest)

def memberChars : List (String × Json) → List Char
  | [] => []
  | [(k, v)] => quoted k ++ ':' :: chars v
  | (k, v) :: m :: rest => quoted k ++ ':' :: (chars v ++ ',' :: memberChars (m :: rest))

end

def text (v : Json) : String := String.ofList v.chars

/-- Adds a member to a list sorted by key; an earlier member of that key is replaced. -/
def insertMember (k : String) (v : Json) : List (String × Json) → List (String × Json)
  | [] => [(k, v)]
  | (l, w) :: rest =>
    if k < l then (k, v) :: (l, w) :: rest
    else if k = l then (k, v) :: rest
    else (l, w) :: insertMember k v rest

mutual

/-- Every object in ascending order of its keys; of members with one key the last stays. -/
def sorted : Json → Json
  | arr items => arr (sortedItems items)
  | obj members => obj (sortedMembers members [])
  | v => v

def sortedItems : List Json → List Json
  | [] => []
  | v :: rest => sorted v :: sortedItems rest

def sortedMembers : List (String × Json) → List (String × Json) → List (String × Json)
  | [], done => done
  | (k, v) :: rest, done => sortedMembers rest (insertMember k (sorted v) done)

end

def strings (ss : List String) : Json := arr (ss.map str)

def optional (f : α → Json) : Option α → Json
  | none => null
  | some a => f a

/-- A member that is left out when there is no value. -/
def member? (k : String) (f : α → Json) : Option α → List (String × Json)
  | none => []
  | some a => [(k, f a)]

def get? (k : String) : Json → Option Json
  | obj members => members.lookup k
  | _ => none

end Json
end AlarmHistory
