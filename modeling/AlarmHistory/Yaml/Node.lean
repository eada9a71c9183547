import AlarmHistory.Yaml.Scan
/- The one document that a YAML text holds, as a tree. -/
namespace AlarmHistory.Yaml

structure Scalar where
  text : String
  style : Style := .plain
  tag : Option TagBytes := none
  deriving DecidableEq, Repr

inductive Node where
  | scalar (s : Scalar)
  | sequence (items : List Node)
  | mapping (pairs : List (Node × Node))
  | alias (place : Nat)
  deriving Repr

def Node.blank : Node := .scalar ⟨"", .plain, none⟩

abbrev Places := List (Nat × Option Scalar)

/-- The tokens still to be read, the places that the names of anchors stand for, what is at those
   places, and what the tag handles of the document stand for. -/
structure Parse where
  tokens : List Token
  anchors : List (String × Nat) := []
  places : Places := []
  handles : List (String × TagBytes) := []
  deriving Repr

namespace Parse

def nextIn (p : Parse) (ts : List Token) : Bool := p.tokens.head?.any ts.contains

def skip (p : Parse) : Parse := { p with tokens := p.tokens.tail }

/-- Gives an anchor the place whose number is how many names there are so far. So the first new name
   after a name that is given again takes over its place, and aliases of both go there, even those
   before it. -/
def define (p : Parse) (anchor : Option String) (s : Option Scalar) : Parse :=
  match anchor with
  | some a =>
    let place := p.anchors.length
    { p with
      anchors := (a, place) :: p.anchors.filter (·.1 != a)
      places := (place, s) :: p.places }
  | none => p

def marks (p : Parse) : Option String × Option (String × TagBytes) × Parse :=
  match p.tokens with
  | .anchor a :: .tag h s :: rest => (some a, some (h, s), { p with tokens := rest })
  | .anchor a :: rest => (some a, none, { p with tokens := rest })
  | .tag h s :: .anchor a :: rest => (some a, some (h, s), { p with tokens := rest })
  | .tag h s :: rest => (none, some (h, s), { p with tokens := rest })
  | _ => (none, none, p)

def defaultHandles : List (String × TagBytes) :=
  [("!", bareTag), ("!!", "tag:yaml.org,2002:".toUTF8.toList)]

def fullTag (p : Parse) : Option (String × TagBytes) → Option (Option TagBytes)
  | none => some none
  | some (handle, suffix) =>
    if handle == "" then some (some suffix)
    else ((p.handles ++ defaultHandles).lookup handle).map fun stem => some (stem ++ suffix)

mutual

/-- A node. In a block, block collections may follow; `indentless` lets a sequence stand at the
   column of the mapping around it. -/
def node (block indentless : Bool) : Nat → Parse → Option (Node × Parse)
  | 0, _ => none
  | fuel + 1, p =>
    match p.tokens with
    | .alias name :: rest =>
      (p.anchors.lookup name).map fun place => (.alias place, { p with tokens := rest })
    | _ =>
      let (anchor, mark, p) := p.marks
      match p.fullTag mark with
      | none => none
      | some tag =>
        let within := p.define anchor none
        let empty : Scalar := ⟨"", .plain, tag⟩
        let bare :=
          if anchor.isSome || tag.isSome then some (.scalar empty, p.define anchor (some empty))
          else none
        match p.tokens with
        | .scalar text style :: _ =>
          let s : Scalar := ⟨text, style, tag⟩
          some (.scalar s, p.skip.define anchor (some s))
        | .entry :: _ =>
          if indentless then (looseEntries fuel within).map fun r => (.sequence r.1, r.2)
          else bare
        | .flowSequence :: _ =>
          (flowItems true fuel within.skip).map fun r => (.sequence r.1, r.2)
        | .flowMapping :: _ => (flowPairs true fuel within.skip).map fun r => (.mapping r.1, r.2)
        | t :: _ =>
          if block && t == .blockSequence then
            (entries fuel within.skip).map fun r => (.sequence r.1, r.2)
          else if block && t == .blockMapping then
            (pairs fuel within.skip).map fun r => (.mapping r.1, r.2)
          else bare
        | [] => bare

def nodeOr (stops : List Token) (block indentless : Bool) : Nat → Parse → Option (Node × Parse)
  | 0, _ => none
  | fuel + 1, p => if p.nextIn stops then some (.blank, p) else node block indentless fuel p

def entries : Nat → Parse → Option (List Node × Parse)
  | 0, _ => none
  | fuel + 1, p =>
    match p.tokens with
    | .entry :: _ => do
      let (item, p) ← nodeOr [.entry, .blockEnd] true false fuel p.skip
      let (items, p) ← entries fuel p
      return (item :: items, p)
    | .blockEnd :: _ => some ([], p.skip)
    | _ => none

def looseEntries : Nat → Parse → Option (List Node × Parse)
  | 0, _ => none
  | fuel + 1, p =>
    match p.tokens with
    | .entry :: _ => do
      let (item, p) ← nodeOr [.entry, .key, .value, .blockEnd] true false fuel p.skip
      let (items, p) ← looseEntries fuel p
      return (item :: items, p)
    | _ => some ([], p)

def pairs : Nat → Parse → Option (List (Node × Node) × Parse)
  | 0, _ => none
  | fuel + 1, p =>
    match p.tokens with
    | .key :: _ => do
      let (k, p) ← nodeOr [.key, .value, .blockEnd] true true fuel p.skip
      let (v, p) ←
        if p.nextIn [.value] then nodeOr [.key, .value, .blockEnd] true true fuel p.skip
        else some (.blank, p)
      let (more, p) ← pairs fuel p
      return ((k, v) :: more, p)
    | .blockEnd :: _ => some ([], p.skip)
    | _ => none

def flowItems (first : Bool) : Nat → Parse → Option (List Node × Parse)
  | 0, _ => none
  | fuel + 1, p =>
    if p.nextIn [.flowSequenceEnd] then some ([], p.skip)
    else if !first && !p.nextIn [.comma] then none
    else
      let p := if first then p else p.skip
      if p.nextIn [.flowSequenceEnd] then some ([], p.skip)
      else do
        let (item, p) ←
          if p.nextIn [.key] then onePair fuel p.skip else node false false fuel p
        let (items, p) ← flowItems false fuel p
        return (item :: items, p)

/-- A key that is not written takes the token after it along. -/
def onePair : Nat → Parse → Option (Node × Parse)
  | 0, _ => none
  | fuel + 1, p => do
    let (k, p) ←
      if p.nextIn [.value, .comma, .flowSequenceEnd] then some (.blank, p.skip)
      else node false false fuel p
    let (v, p) ←
      if p.nextIn [.value] then nodeOr [.comma, .flowSequenceEnd] false false fuel p.skip
      else some (.blank, p)
    return (.mapping [(k, v)], p)

def flowPairs (first : Bool) : Nat → Parse → Option (List (Node × Node) × Parse)
  | 0, _ => none
  | fuel + 1, p =>
    if p.nextIn [.flowMappingEnd] then some ([], p.skip)
    else if !first && !p.nextIn [.comma] then none
    else
      let p := if first then p else p.skip
      if p.nextIn [.flowMappingEnd] then some ([], p.skip)
      else if p.nextIn [.key] then do
        let (k, p) ← nodeOr [.value, .comma, .flowMappingEnd] false false fuel p.skip
        let (v, p) ←
          if p.nextIn [.value] then nodeOr [.comma, .flowMappingEnd] false false fuel p.skip
          else some (.blank, p)
        let (more, p) ← flowPairs false fuel p
        return ((k, v) :: more, p)
      else do
        let (k, p) ← node false false fuel p
        let (more, p) ← flowPairs false fuel p
        return ((k, .blank) :: more, p)

end

def directives : Bool → List (String × TagBytes) → List Token →
    Option (List (String × TagBytes) × List Token)
  | seen, handles, .version major minor :: rest =>
    if seen || major != 1 || !(minor == 1 || minor == 2) then none
    else directives true handles rest
  | seen, handles, .tagDirective handle stem :: rest =>
    if (handles.lookup handle).isSome then none
    else directives seen ((handle, stem) :: handles) rest
  | _, handles, ts => some (handles, ts)

def isDirective : Token → Bool
  | .version .. | .tagDirective .. => true
  | _ => false

def root (p : Parse) : Option (Node × Parse) :=
  match p.tokens with
  | [] => some (.blank, p)
  | t :: rest =>
    let content (p : Parse) : Option (Node × Parse) := node true false (4 * p.tokens.length + 4) p
    if isDirective t || t == .documentStart then do
      let (handles, ts) ← directives false [] (t :: rest)
      match ts with
      | .documentStart :: rest =>
        let p := { p with tokens := rest, handles }
        if p.tokens.head?.all (fun t => isDirective t || t == .documentStart || t == .documentEnd)
        then some (.blank, p) else content p
      | _ => none
    else content p

end Parse

structure Document where
  root : Node
  places : Places
  deriving Repr

def Document.scalar? (d : Document) : Node → Option Scalar
  | .scalar s => some s
  | .alias place => (d.places.lookup place).join
  | _ => none

def parse? (text : String) : Option Document := do
  let ts ← tokens? text
  let (root, p) ← Parse.root { tokens := ts }
  if p.tokens.all (· == .documentEnd) then some ⟨root, p.places⟩ else none

end AlarmHistory.Yaml
