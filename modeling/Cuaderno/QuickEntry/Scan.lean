import Cuaderno.Fields
import Cuaderno.QuickEntry.Token

/-!
# Scanning a quick entry

A quick entry has the form `@type/name > property = value > …`. A scan goes once over the tokens
and cuts the line into segments: the type up to the first `/`, the name up to the first `>`, then
property names up to `=` and values up to `>`. A scan that ends early, or in the middle of a
segment, leaves its progress behind, from which one can tell what was being typed.

An entry without a type, a name or the name of a property is refused, and so is a segment without
`=` that another one follows; in the last segment the `=` may still be missing.
-/

namespace Cuaderno.QuickEntry

/-- What a scan is reading. -/
inductive Reading where
  | type | name | property | value
  deriving DecidableEq, Repr

/-- How far a scan has come. -/
structure Progress where
  reading : Reading := .type
  /-- Where the segment that is being read starts. -/
  segmentStart : Nat := 0
  typeWord : String := ""
  name : String := ""
  /-- The property whose value is being read. -/
  pending : Option String := none
  /-- The values read so far, in the order in which they were last given. -/
  assignments : List (String × String) := []
  deriving DecidableEq, Repr

/-- The parts of a quick entry. -/
structure Entry where
  typeWord : String
  name : String
  assignments : List (String × String)
  deriving DecidableEq, Repr

namespace Progress

/-- The segment that ends before a token, without outer blanks. -/
def segment (p : Progress) (source : List Char) (t : Token) : String :=
  String.ofList (Text.trim ((source.take t.offset).drop p.segmentStart))

def startSegment (p : Progress) (reading : Reading) (t : Token) : Progress :=
  { p with reading := reading, segmentStart := t.stop }

/-- Takes one token; the last progress is the error when the token is out of place. -/
def step (source : List Char) (p : Progress) (t : Token) : Except Progress Progress :=
  match p.reading, t.kind with
  | .type, .slash =>
    let p := { p with typeWord := p.segment source t }
    if p.typeWord = "" then .error p else .ok (p.startSegment .name t)
  | .type, .text | .type, .blank => .ok p
  | .type, _ => .error p
  | .name, .greater | .name, .stop =>
    let p := { p with name := p.segment source t }
    if p.name = "" then .error p else .ok (p.startSegment .property t)
  | .name, _ => .ok p
  | .property, .equals =>
    let property := p.segment source t
    let p := { p with pending := some property }
    if property = "" then .error p else .ok (p.startSegment .value t)
  | .property, .greater => .error p
  | .property, _ => .ok p
  | .value, .greater | .value, .stop =>
    let property := p.pending.getD ""
    let p := { p with
      assignments := Fields.erase property p.assignments ++ [(property, p.segment source t)] }
    if t.kind = .greater then .ok ({ p with pending := none }.startSegment .property t)
    else .ok p
  | .value, _ => .ok p

end Progress

/-- The progress of a whole scan; an error when the line is no quick entry. -/
def scan (s : String) : Except Progress Progress :=
  match (tokenize s).dropWhile (·.kind = .blank) with
  | t :: rest =>
    if t.kind = .at then
      rest.foldlM (Progress.step s.toList) (({} : Progress).startSegment .type t)
    else .error {}
  | [] => .error {}

/-- The progress that a scan leaves behind, whether or not the line is a quick entry. -/
def lastProgress (s : String) : Progress :=
  match scan s with
  | .ok p => p
  | .error p => p

def entry? (s : String) : Option Entry :=
  match scan s with
  | .ok p => some ⟨p.typeWord, p.name, p.assignments⟩
  | .error _ => none

end Cuaderno.QuickEntry
