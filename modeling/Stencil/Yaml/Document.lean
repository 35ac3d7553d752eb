import Stencil.Yaml.Plain
import Stencil.Yaml.Quoted

/-!
# `Stencil.Yaml.Document`: YAML documents

The part of YAML that settings need: block mappings and sequences, held together by
their indentation; mappings and sequences in brackets; plain and quoted scalars;
comments; and a single document between its markers. There are no anchors, tags,
directives or block scalars, and no keys with a question mark. A text with any of
these, or one that is not well formed, has no document.

Reading follows the indentation. What belongs to a block stands further in than the
block that holds it, and the parts of one block stand in one column. A block can
only begin where nothing else stands before it on its line but the indicators of
other blocks. The key of an entry and its colon share a line.

Every call of one reader by another comes with a smaller bound. Three calls at the
most happen for one character, so `document?` starts with a bound that no text can
use up.
-/

set_option autoImplicit false

namespace Stencil.Yaml

/-- The characters that a document may hold: the tab, the line ends, and what lies
above the controls, without the code points that stand for nothing. -/
def isAllowed (c : Char) : Bool :=
  let n := c.toNat
  c = '\t' || c = '\n' || c = '\r' || (0x20 ≤ n && n ≤ 0x7e) || n = 0x85 ||
    (0xa0 ≤ n && n ≤ 0xfffd) || 0x10000 ≤ n

/-- Adds an entry to those of a mapping, latest first. A mapping cannot be a key, and
no key may stand twice. -/
def addEntry? (entries : List (Value × Value)) (key value : Value) :
    Option (List (Value × Value)) :=
  match key with
  | .map _ => none
  | _ =>
    if entries.any fun entry => entry.1.sameKey key then none
    else some ((key, value) :: entries)

/-- Takes a scalar. In a plain one, further lines have to be indented so much. -/
def scalar? (inBrackets : Bool) (indent : Int) (p : Place) : Option (Value × Place) :=
  match p.rest with
  | '\'' :: _ => (quoted? '\'' [] {} p.step).map fun (s, stop) => (.text s, stop)
  | '"' :: _ => (quoted? '"' [] {} p.step).map fun (s, stop) => (.text s, stop)
  | _ => (plain? inBrackets indent p).map fun (s, stop) => (plainValue s, stop)

/-! ### Collections in brackets

Inside brackets, line breaks and indentation mean nothing. Each reader begins at a
place where the gap is already left out. -/

mutual

/-- Takes a value inside brackets, or a collection with its brackets. -/
def flowNode? (indent : Int) : Nat → Place → Option (Value × Place)
  | 0, _ => none
  | bound + 1, p =>
    match p.rest with
    | '[' :: _ => flowItems? indent bound [] (p.step.skipGap true true)
    | '\x7b' :: _ => flowEntries? indent bound [] (p.step.skipGap true true)
    | _ => if p.atBoundary then none else scalar? true indent p

/-- Takes the items of a sequence in brackets up to the closing one, with the items
so far, latest first. An item may be a single entry of a mapping. -/
def flowItems? (indent : Int) : Nat → List Value → Place → Option (Value × Place)
  | 0, _, _ => none
  | bound + 1, items, p =>
    if p.rest.head? = some ']' then some (.list items.reverse, p.step)
    else do
      let (item, q) ← flowNode? indent bound p
      let q := q.skipGap true true
      let (item, q) ←
        if q.rest.head? = some ':' then
          if p.holdsKey q then do
            let (value, q) ← flowValue? indent bound (q.step.skipGap true true)
            let entries ← addEntry? [] item value
            some (Value.map entries, q.skipGap true true)
          else none
        else some (item, q)
      match q.rest with
      | ',' :: _ => flowItems? indent bound (item :: items) (q.step.skipGap true true)
      | ']' :: _ => some (.list (item :: items).reverse, q.step)
      | _ => none

/-- Takes the entries of a mapping in brackets up to the closing one, with the
entries so far, latest first. -/
def flowEntries? (indent : Int) : Nat → List (Value × Value) → Place → Option (Value × Place)
  | 0, _, _ => none
  | bound + 1, entries, p =>
    if p.rest.head? = some '\x7d' then some (.map entries.reverse, p.step)
    else do
      let (key, q) ← flowNode? indent bound p
      let q := q.skipGap true true
      let (value, q) ←
        if q.rest.head? = some ':' then
          if p.holdsKey q then do
            let (value, q) ← flowValue? indent bound (q.step.skipGap true true)
            some (value, q.skipGap true true)
          else none
        else some (Value.null, q)
      let entries ← addEntry? entries key value
      match q.rest with
      | ',' :: _ => flowEntries? indent bound entries (q.step.skipGap true true)
      | '\x7d' :: _ => some (.map entries.reverse, q.step)
      | _ => none

/-- Takes what follows a colon inside brackets. Nothing may stand there. -/
def flowValue? (indent : Int) : Nat → Place → Option (Value × Place)
  | 0, _ => none
  | bound + 1, p =>
    match p.rest with
    | ',' :: _ | ']' :: _ | '\x7d' :: _ => some (.null, p)
    | _ => flowNode? indent bound p

end

/-- Takes a scalar or a collection in brackets that stands in a block. -/
def leaf? (indent : Int) (bound : Nat) (p : Place) : Option (Value × Place) :=
  match p.rest with
  | '[' :: _ | '\x7b' :: _ => flowNode? indent bound p
  | _ => scalar? false indent p

/-! ### Blocks -/

/-- Takes the key of an entry, up to and with its colon. The key is empty where a
colon stands at once. -/
def key? (indent : Int) (bound : Nat) (p : Place) : Option (Value × Place) :=
  if p.atIndicator ':' then some (.null, p.step)
  else do
    let (key, q) ← leaf? indent bound p
    let q := q.skipBlanks
    if q.atIndicator ':' && p.holdsKey q then some (key, q.step) else none

mutual

/-- Takes the value at a place after a gap, inside a block in the column `parent`, or
a value that is missing there. `fresh` says that a block may begin here. In the
value of an entry, a sequence may stand in the same column as the key. -/
def blockNode? (parent : Int) (fresh inEntry : Bool) : Nat → Place → Option (Value × Place)
  | 0, _ => none
  | bound + 1, p =>
    let column : Int := p.column
    if p.atEnd || p.atBoundary || column ≤ parent then
      if inEntry && fresh && column = parent && !p.atBoundary && p.atIndicator '-' then
        blockItems? p.column true bound [] p
      else some (.null, p)
    else if p.atIndicator '-' then
      if fresh then blockItems? p.column false bound [] p else none
    else if p.atIndicator ':' then
      if fresh then blockEntries? p.column bound [] .null p.step else none
    else do
      let (value, q) ← leaf? (parent + 1) bound p
      let after := q.skipBlanks
      if after.atIndicator ':' then
        if fresh && p.holdsKey after then blockEntries? p.column bound [] value after.step
        else none
      else some (value, q)

/-- Takes the entries of a block mapping in a column, from after the colon of the
first one on, with the entries so far, latest first. -/
def blockEntries? (column : Nat) :
    Nat → List (Value × Value) → Value → Place → Option (Value × Place)
  | 0, _, _, _ => none
  | bound + 1, entries, key, p => do
    let start := p.skipGap false true
    let (value, q) ← blockNode? column (start.line != p.line) true bound start
    let entries ← addEntry? entries key value
    let next := q.skipGap false true
    if next.atEnd || next.atBoundary || next.column < column then
      some (.map entries.reverse, next)
    else if next.column = column then do
      let (key, p) ← key? (column + 1) bound next
      blockEntries? column bound entries key p
    else none

/-- Takes the items of a block sequence in a column, from the mark of the first one
on, with the items so far, latest first. A sequence in the column of its key ends
where the next key begins. -/
def blockItems? (column : Nat) (inEntry : Bool) :
    Nat → List Value → Place → Option (Value × Place)
  | 0, _, _ => none
  | bound + 1, items, p => do
    let (item, q) ← blockNode? column true false bound (p.step.skipGap false false)
    let items := item :: items
    let next := q.skipGap false true
    if next.atEnd || next.atBoundary || next.column < column then
      some (.list items.reverse, next)
    else if next.column = column && next.atIndicator '-' then
      blockItems? column inEntry bound items next
    else if next.column = column && inEntry then some (.list items.reverse, next)
    else none

end

/-! ### Documents -/

/-- Nothing follows but marks that end a document, at most so many of them. -/
def ends : Nat → Place → Bool
  | 0, p => p.atEnd
  | bound + 1, p =>
    p.atEnd || (p.atMarker '.' && ends bound ((p.forward 3).skipGap false true))

/-- Reads a text that holds one document, or none, which counts as an empty value. A
mark for the byte order in front of it means nothing. -/
def document? (s : Text) : Option Value :=
  let s := if s.head? = some '\ufeff' then s.tail else s
  let bound := 4 * s.length + 4
  let start := (Place.mk 0 0 s).skipGap false false
  if !s.all isAllowed then none
  else if start.atMarker '.' then none
  else do
    let (fresh, start) :=
      if start.atMarker '-' then
        let content := (start.forward 3).skipGap false true
        (content.line != start.line, content)
      else (true, start)
    let (value, stop) ← blockNode? (-1) fresh false bound start
    if ends s.length (stop.skipGap false true) then some value else none

end Stencil.Yaml
