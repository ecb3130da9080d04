import Cuaderno.Text.Digit
import Cuaderno.Text.Quoted

/-!
# Faults

What can go wrong, by cause. A *defect* is a record of a snapshot that breaks the rules of its
kind; its message names the record's type and property when they are known. The other faults are
values that no rule of a record covers: a date beyond the calendar, a number that a text does not
write, a value of the wrong kind.
-/

namespace Cuaderno

def shownText (s : String) : String := String.ofList (Text.quoted s.toList)

inductive InvalidValue where
  /-- A name that is not in a list of choices; the value is given as it is shown. -/
  | notAMember (shown choices : String)
  /-- A time stamp in a year outside the calendar. -/
  | yearOutOfRange (year : Int)
  /-- A time stamp that is no number. -/
  | notANumber
  /-- A text or a number that does not give the number asked for. -/
  | unreadable
  /-- An integer with more digits than are written. -/
  | tooLong
  deriving Repr, DecidableEq

def InvalidValue.message : InvalidValue → String
  | notAMember shown choices => shown ++ " is not a valid " ++ choices
  | yearOutOfRange year => "year " ++ String.ofList (Text.intText year) ++ " is out of range"
  | notANumber => "Invalid value NaN (not a number)"
  | unreadable => "unreadable number"
  | tooLong => "Exceeds the limit (4300 digits) for integer string conversion; use " ++
    "sys.set_int_max_str_digits() to increase the limit"

/-- How a record of a snapshot breaks the rules of its kind. -/
inductive Defect where
  | notAMapping
  | missingKey (record key : String)
  | emptyTypeId
  | duplicateProperty (typeId propertyId : String)
  | unknownKind (name : String)
  | badTimestamp (shown : String)
  | badBound (shown : String)
  | rangeNotAMapping (kind : String)
  | badDisplayMode (shown : String)
  | badQuery (cause : InvalidValue)
  | badChart (cause : InvalidValue)
  deriving Repr, DecidableEq

namespace Defect

def detail : Defect → String
  | notAMapping => "snapshot document must be a mapping"
  | missingKey record key => record ++ " record is missing required key " ++ shownText key
  | emptyTypeId => "object type id must not be empty"
  | duplicateProperty _ _ => "duplicate property id"
  | unknownKind name => "unknown property type " ++ shownText name
  | badTimestamp shown => "invalid timestamp " ++ shown
  | badBound shown => "invalid date range bound " ++ shown
  | rangeNotAMapping kind => "date range must be a mapping, got " ++ kind
  | badDisplayMode shown => "invalid display mode " ++ shown
  | badQuery cause => "invalid panel query: " ++ cause.message
  | badChart cause => "invalid chart config: " ++ cause.message

def typeId? : Defect → Option String
  | duplicateProperty typeId _ => some typeId
  | _ => none

def propertyId? : Defect → Option String
  | duplicateProperty _ propertyId => some propertyId
  | _ => none

/-- The whole message: where the defect is, and what it is. -/
def message (d : Defect) : String :=
  let place := match d.typeId?, d.propertyId? with
    | some t, some p => " [type " ++ shownText t ++ ", property " ++ shownText p ++ "]"
    | some t, none => " [type " ++ shownText t ++ "]"
    | none, _ => ""
  "SchemaError" ++ place ++ ": " ++ d.detail

end Defect

/-- What a text that should hold a document lacks, and where: a line, a column and an offset. -/
structure SyntaxFault where
  problem : String
  line : Nat
  column : Nat
  offset : Nat
  deriving Repr, DecidableEq

def SyntaxFault.message (f : SyntaxFault) : String :=
  let n (k : Nat) : String := String.ofList (Text.natText k)
  f.problem ++ ": line " ++ n f.line ++ " column " ++ n f.column ++ " (char " ++ n f.offset ++ ")"

/-- Why there is no answer. -/
inductive Fault where
  /-- A record breaks the rules of its kind. -/
  | defect (d : Defect)
  /-- A date beyond the calendar, or a number beyond the magnitudes. -/
  | outOfRange
  /-- A value of the right kind that is none of those asked for. -/
  | invalid (cause : InvalidValue)
  /-- A value of the wrong kind. -/
  | wrongKind
  /-- A value without the field that is asked of it. -/
  | noField
  /-- A time stamp that the clock of the system cannot hold. -/
  | beyondClock
  /-- A text that writes no document. -/
  | badSyntax (f : SyntaxFault)
  /-- A text that writes a document nested too deep. -/
  | tooDeep
  deriving Repr, DecidableEq

end Cuaderno
