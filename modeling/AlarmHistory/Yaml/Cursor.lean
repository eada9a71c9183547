/- A place in a YAML text, and the character classes that its grammar uses. -/
namespace AlarmHistory.Yaml

def isBreak (c : Char) : Bool :=
  c == '\n' || c == '\r' || c == '\x85' || c == '\u2028' || c == '\u2029'

def isBlank (c : Char) : Bool := c == ' ' || c == '\t'

def isNameChar (c : Char) : Bool :=
  ('0' ≤ c && c ≤ '9') || ('a' ≤ c && c ≤ 'z') || ('A' ≤ c && c ≤ 'Z') || c == '_' || c == '-'

def digit? (c : Char) : Option Nat :=
  if '0' ≤ c && c ≤ '9' then some (c.toNat - 48) else none

def hexDigit? (c : Char) : Option Nat :=
  if '0' ≤ c && c ≤ '9' then some (c.toNat - 48)
  else if 'a' ≤ c && c ≤ 'f' then some (c.toNat - 87)
  else if 'A' ≤ c && c ≤ 'F' then some (c.toNat - 55)
  else none

def isPrintable (c : Char) : Bool :=
  let n := c.toNat
  n == 0x9 || n == 0xA || n == 0xD || (0x20 ≤ n && n ≤ 0x7E) || n == 0x85 ||
    (0xA0 ≤ n && n ≤ 0xD7FF) || (0xE000 ≤ n && n ≤ 0xFFFD) || 0x10000 ≤ n

def byteOrderMark : Char := '\uFEFF'

/-- Columns count characters, and offsets count bytes. -/
structure Cursor where
  rest : List Char
  line : Nat := 0
  column : Nat := 0
  offset : Nat := 0
  deriving DecidableEq, Repr

namespace Cursor

def peek (c : Cursor) : Option Char := c.rest.head?

def peekAt (c : Cursor) (n : Nat) : Option Char := (c.rest.drop n).head?

def isAt (c : Cursor) (d : Char) : Bool := c.peek == some d

def atEnd (c : Cursor) : Bool := c.rest.isEmpty

def onBreak (c : Cursor) : Bool := c.peek.any isBreak

def onBlank (c : Cursor) : Bool := c.peek.any isBlank

/-- A blank, a break or the end, some characters ahead. -/
def spaceAt (c : Cursor) (n : Nat) : Bool := (c.peekAt n).all fun d => isBlank d || isBreak d

def onSpace (c : Cursor) : Bool := c.spaceAt 0

def onLineEnd (c : Cursor) : Bool := c.peek.all isBreak

def skip (c : Cursor) : Cursor :=
  match c.rest with
  | d :: rest => { c with rest, column := c.column + 1, offset := c.offset + d.utf8Size }
  | [] => { c with column := c.column + 1 }

def skipN (c : Cursor) : Nat → Cursor
  | 0 => c
  | n + 1 => c.skip.skipN n

def skipLine (c : Cursor) : Cursor :=
  match c.rest with
  | '\r' :: '\n' :: rest => ⟨rest, c.line + 1, 0, c.offset + 2⟩
  | d :: rest => ⟨rest, c.line + 1, 0, c.offset + d.utf8Size⟩
  | [] => c

/-- What a line break stands for in a scalar. -/
def breakChar (c : Cursor) : List Char :=
  match c.peek with
  | some '\u2028' => ['\u2028']
  | some '\u2029' => ['\u2029']
  | some _ => ['\n']
  | none => []

def skipWhile (c : Cursor) (p : Char → Bool) : Cursor :=
  let run := c.rest.takeWhile p
  { c with
    rest := c.rest.drop run.length
    column := c.column + run.length
    offset := c.offset + (String.ofList run).utf8ByteSize }

def run (c : Cursor) (p : Char → Bool) : List Char := c.rest.takeWhile p

def onMarker (c : Cursor) (d : Char) : Bool :=
  c.column == 0 && c.rest.take 3 == [d, d, d] && c.spaceAt 3

def onAnyMarker (c : Cursor) : Bool := c.onMarker '-' || c.onMarker '.'

/-- A byte order mark may stand at the beginning of any line. It takes up a column. -/
def skipMark (c : Cursor) : Cursor :=
  if c.column == 0 && c.isAt byteOrderMark then c.skip else c

def skipComment (c : Cursor) : Cursor :=
  if c.isAt '#' then c.skipWhile (!isBreak ·) else c

end Cursor
end AlarmHistory.Yaml
