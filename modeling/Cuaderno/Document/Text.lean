import Cuaderno.Document.Basic
import Cuaderno.Number.Reader

/-!
# Documents in messages

A document has two texts: the plain one, in which a text stands as it is, and the shown one, in
which it stands between quotes. Inside lists and mappings everything is shown. Neither text is given
of a document with an integer of more than 4300 digits.
-/

namespace Cuaderno

private def commaSeparated (parts : List String) : String := ", ".intercalate parts

private def shownNat (n : Nat) : String := String.ofList (Text.natText n)

/-- Parts between parentheses, with a comma behind a single one. -/
private def shownTuple : List String → String
  | [part] => "(" ++ part ++ ",)"
  | parts => "(" ++ commaSeparated parts ++ ")"

def Date.shown (d : Date) : String :=
  "datetime.date(" ++ commaSeparated [shownNat d.year, shownNat d.month, shownNat d.day] ++ ")"

/-- The shown form of an offset: whole days, seconds and microseconds, the last two not negative. -/
def Stamp.shownOffset (offset : Int) : String :=
  let days := offset / microsPerDay
  let rest := (offset % microsPerDay).toNat
  let part (name : String) (n : Int) : List String :=
    if n = 0 then [] else [name ++ "=" ++ String.ofList (Text.intText n)]
  let parts := part "days" days ++ part "seconds" (rest / microsPerSecond : Nat)
    ++ part "microseconds" (rest % microsPerSecond : Nat)
  if offset = 0 then "datetime.timezone.utc"
  else "datetime.timezone(datetime.timedelta(" ++ commaSeparated parts ++ "))"

def Stamp.shown (s : Stamp) : String :=
  let d := s.reading.date
  let t := s.reading.time
  let fine :=
    if t.micro ≠ 0 then [shownNat t.second, shownNat t.micro]
    else if t.second ≠ 0 then [shownNat t.second] else []
  let zone := match s.offset with
    | some offset => ["tzinfo=" ++ shownOffset offset]
    | none => []
  "datetime.datetime(" ++ commaSeparated
    ([d.year, d.month, d.day, t.hour, t.minute].map shownNat ++ fine ++ zone) ++ ")"

def Link.shown (l : Link) : String :=
  "RelationRef(id=" ++ shownText l.id ++ ", title=" ++ shownText l.title ++ ")"

def shownFlag (b : Bool) : String := if b then "True" else "False"

def Value.shown (v : Value) : String :=
  let content := match v with
    | .text s => "value=" ++ shownText s
    | .number x => "value=" ++ x.text
    | .flag b => "value=" ++ shownFlag b
    | .moment m => "value=" ++ Stamp.shown ⟨m, none⟩
    | .texts items => "items=" ++ shownTuple (items.map shownText)
    | .links refs => "refs=" ++ shownTuple (refs.map (·.shown))
  v.kindName ++ "(" ++ content ++ ")"

namespace Document

def Key.shown : Key → String
  | .text s => shownText s
  | .int n => String.ofList (Text.intText n)
  | .null => "None"

mutual

def shown : Document → String
  | .null => "None"
  | .bool b => shownFlag b
  | .int n => String.ofList (Text.intText n)
  | .float x => x.text
  | .text s => shownText s
  | .list items => "[" ++ commaSeparated (shownItems items) ++ "]"
  | .map entries => "\x7b" ++ commaSeparated (shownEntries entries) ++ "\x7d"
  | .date d => d.shown
  | .stamp s => s.shown
  | .value v => v.shown

def shownItems : List Document → List String
  | [] => []
  | d :: ds => shown d :: shownItems ds

def shownEntries : List (Key × Document) → List String
  | [] => []
  | (k, d) :: rest => (k.shown ++ ": " ++ shown d) :: shownEntries rest

end

def plain : Document → String
  | .text s => s
  | .date d => String.ofList d.isoText
  | .stamp s => String.ofList (s.textWith ' ')
  | d => d.shown

/-- Whether an integer has no more digits than are written. -/
def isShort (n : Int) : Bool := n.natAbs < Nat.pow 10 Number.maxDigits

def Key.isWritable : Key → Bool
  | .int n => isShort n
  | _ => true

mutual

/-- Whether a document can be written: no integer in it has too many digits. -/
def isWritable : Document → Bool
  | .int n => isShort n
  | .list items => itemsWritable items
  | .map entries => entriesWritable entries
  | _ => true

def itemsWritable : List Document → Bool
  | [] => true
  | d :: ds => isWritable d && itemsWritable ds

def entriesWritable : List (Key × Document) → Bool
  | [] => true
  | (k, d) :: rest => k.isWritable && isWritable d && entriesWritable rest

end

def spell (d : Document) : Except Fault String :=
  if d.isWritable then .ok d.plain else .error (.invalid .tooLong)

def spellShown (d : Document) : Except Fault String :=
  if d.isWritable then .ok d.shown else .error (.invalid .tooLong)

def Key.spell (k : Key) : Except Fault String :=
  if k.isWritable then .ok k.name else .error (.invalid .tooLong)

@[simp] theorem Key.spell_text (s : String) : Key.spell (.text s) = .ok s := rfl

@[simp] theorem spell_text (s : String) : spell (.text s) = .ok s := rfl

end Document

end Cuaderno
