import Cuaderno.Document.Basic
import Cuaderno.Number.Reader

/-!
# Reading documents from JSON

One pass over the text with a stack of the lists and mappings that are still open. Each step takes
at least one character, so the rest of the text bounds the reader. A mapping keeps the order of its
names; a name that comes again keeps its place and takes the new value. A number with a fraction or
an exponent is a number of double precision, any other one an integer. Integers that are too long
and lists and mappings that are nested too deep are refused.
-/

namespace Cuaderno.Json

open Cuaderno.Text (ofDigits latinDigit?)
open Cuaderno.Number (digitsAndRest)

inductive Problem where
  | valueExpected
  | nameExpected
  | colonExpected
  | commaExpected
  | unterminated
  | controlCharacter
  | badEscape
  | badUnicodeEscape
  | extraData
  | byteOrderMark
  deriving DecidableEq, Repr

def Problem.message : Problem → String
  | valueExpected => "Expecting value"
  | nameExpected => "Expecting property name enclosed in double quotes"
  | colonExpected => "Expecting ':' delimiter"
  | commaExpected => "Expecting ',' delimiter"
  | unterminated => "Unterminated string starting at"
  | controlCharacter => "Invalid control character at"
  | badEscape => "Invalid \\escape"
  | badUnicodeEscape => "Invalid \\uXXXX escape"
  | extraData => "Extra data"
  | byteOrderMark => "Unexpected UTF-8 BOM (decode using utf-8-sig)"

/-- Why a text writes no document: a problem at an offset, an integer that is too long, or nesting
that is too deep. -/
inductive Failure where
  | problem (p : Problem) (offset : Nat)
  | tooLong
  | tooDeep
  deriving DecidableEq, Repr

def hexDigit? (c : Char) : Option Nat :=
  let n := c.toNat
  if 48 ≤ n && n ≤ 57 then some (n - 48)
  else if 97 ≤ n && n ≤ 102 then some (n - 87)
  else if 65 ≤ n && n ≤ 70 then some (n - 55)
  else none

def hexNumber? (cs : List Char) : Option Nat :=
  if cs.length = 4 then (cs.mapM hexDigit?).map (·.foldl (fun n d => n * 16 + d) 0) else none

/-- The low half of a pair of code units behind a high one, if the text goes on with one. -/
def lowHalf? (offset : Nat) (cs : List Char) : Except Failure (Option Nat) :=
  match cs with
  | '\\' :: 'u' :: rest =>
    if (cs.take 7).length < 7 then .ok none
    else match hexNumber? (rest.take 4) with
      | none => .error (.problem .badUnicodeEscape (offset + 1))
      | some low => .ok (if 0xDC00 ≤ low && low ≤ 0xDFFF then some low else none)
  | _ => .ok none

/-- The character of an escape by code units, and the number of characters behind its `u`.
The offset is that of the `u`. Half a pair alone stands for no character. -/
def unicodeEscape (offset : Nat) (cs : List Char) : Except Failure (Char × Nat) := do
  if (cs.take 5).length < 5 then throw (.problem .badUnicodeEscape offset)
  match hexNumber? (cs.take 4) with
  | none => throw (.problem .badUnicodeEscape offset)
  | some high =>
    if 0xD800 ≤ high && high ≤ 0xDBFF then
      match ← lowHalf? (offset + 5) (cs.drop 4) with
      | some low => return (Char.ofNat (0x10000 + (high - 0xD800) * 0x400 + (low - 0xDC00)), 10)
      | none => return ('\ufffd', 4)
    else if 0xDC00 ≤ high && high ≤ 0xDFFF then return ('\ufffd', 4)
    else return (Char.ofNat high, 4)

def simpleEscape? (c : Char) : Option Char :=
  if c = '"' || c = '\\' || c = '/' then some c
  else if c = 'b' then some (Char.ofNat 8)
  else if c = 'f' then some (Char.ofNat 12)
  else if c = 'n' then some '\n'
  else if c = 'r' then some '\r'
  else if c = 't' then some '\t'
  else none

/-- The character of an escape, and the number of characters behind its backslash. The offsets are
those of the text's opening quote and of the backslash. -/
def escaped (start offset : Nat) : List Char → Except Failure (Char × Nat)
  | [] => .error (.problem .unterminated start)
  | 'u' :: cs => do
    let (c, n) ← unicodeEscape (offset + 1) cs
    return (c, n + 1)
  | c :: _ =>
    match simpleEscape? c with
    | some d => .ok (d, 1)
    | none => .error (.problem .badEscape offset)

/-- The characters of a text up to its closing quote, and the offset behind the quote. -/
def textBody (start offset : Nat) (cs : List Char) : Except Failure (List Char × Nat) :=
  match cs with
  | [] => .error (.problem .unterminated start)
  | c :: rest =>
    if c = '"' then .ok ([], offset + 1)
    else if c = '\\' then
      match escaped start offset rest with
      | .error e => .error e
      | .ok (d, n) =>
        match textBody start (offset + 1 + n) (rest.drop n) with
        | .error e => .error e
        | .ok (ds, stop) => .ok (d :: ds, stop)
    else if c.toNat < 32 then .error (.problem .controlCharacter offset)
    else
      match textBody start (offset + 1) rest with
      | .error e => .error e
      | .ok (ds, stop) => .ok (c :: ds, stop)
termination_by cs.length
decreasing_by
  · simp only [List.length_drop, List.length_cons]; omega
  · simp

def fractionPart (cs : List Char) : List Nat × List Char :=
  match cs with
  | '.' :: rest =>
    match digitsAndRest rest with
    | ([], _) => ([], cs)
    | (ds, rest) => (ds, rest)
  | _ => ([], cs)

/-- The exponent behind an `e` in front of a text, and its length; none when there is none. -/
def exponentPart? : List Char → Option (Int × Nat)
  | [] => none
  | c :: rest =>
    if c = 'e' || c = 'E' then
      let (negative, digits) := Number.signAndRest rest
      let sign := if (rest.head?.any fun s => s == '+' || s == '-') then 1 else 0
      match digitsAndRest digits with
      | ([], _) => none
      | (ds, _) =>
        let n : Int := ofDigits ds
        some (if negative then -n else n, 1 + sign + ds.length)
    else none

/-- The digits before a point: a zero alone, or digits that start with another one. -/
def wholePart : List Char → List Nat × List Char
  | '0' :: rest => ([0], rest)
  | cs => digitsAndRest cs

def number (offset : Nat) (cs : List Char) : Except Failure (Document × Nat) := do
  let negative := cs.head? = some '-'
  let (whole, rest) := wholePart (if negative then cs.drop 1 else cs)
  if whole.isEmpty then throw (.problem .valueExpected offset)
  let (fraction, rest) := fractionPart rest
  let exponent := exponentPart? rest
  let length := (if negative then 1 else 0) + whole.length
    + (if fraction.isEmpty then 0 else 1 + fraction.length) + (exponent.map (·.2)).getD 0
  if fraction.isEmpty && exponent.isNone then
    if Number.maxDigits < whole.length then throw .tooLong
    let n : Int := ofDigits whole
    return (.int (if negative then -n else n), length)
  else
    let literal := ⟨whole, fraction, (exponent.map (·.1)).getD 0⟩
    return (.float (Number.Literal.value negative literal), length)

def literals : List (List Char × Document) := [
  ("null".toList, .null), ("true".toList, .bool true), ("false".toList, .bool false),
  ("NaN".toList, .float .nan), ("Infinity".toList, .float (Number.infinity false)),
  ("-Infinity".toList, .float (Number.infinity true))]

def scalar (offset : Nat) (cs : List Char) : Except Failure (Document × Nat) :=
  match literals.find? (·.1.isPrefixOf cs) with
  | some (word, d) => .ok (d, word.length)
  | none => number offset cs

inductive Frame where
  /-- The items so far, the last one first. -/
  | list (items : List Document)
  /-- The entries so far, and the name of the one that is being read. -/
  | map (entries : List (Document.Key × Document)) (name : String)

inductive Expected where
  | value
  | valueOrClose
  | name
  | nameOrClose
  | colon
  | commaOrClose
  | nothing (d : Document)

/-- The stack and the expectation after a value has been read. -/
def close (d : Document) : List Frame → List Frame × Expected
  | [] => ([], .nothing d)
  | .list items :: frames => (.list (d :: items) :: frames, .commaOrClose)
  | .map entries name :: frames =>
    (.map (Fields.put (.text name) d entries) name :: frames, .commaOrClose)

/-- Whether a character may stand between the parts of a document. -/
def isSpace (c : Char) : Bool := c == ' ' || c == '\t' || c == '\n' || c == '\r'

/-- What one step reads: the new stack and expectation, and the number of characters behind the
first one that it takes. -/
abbrev Step := List Frame × Expected × Nat

/-- The most lists and mappings that can be open at once. -/
def maxDepth : Nat := 990

def openFrame (frame : Frame) (expected : Expected) (frames : List Frame) : Except Failure Step :=
  if frames.length < maxDepth then .ok (frame :: frames, expected, 0) else .error .tooDeep

/-- Reads the value that starts with a character other than a space. -/
def valueStep (frames : List Frame) (offset : Nat) (c : Char) (cs : List Char) :
    Except Failure Step := do
  if c = '[' then openFrame (.list []) .valueOrClose frames
  else if c = '\x7b' then openFrame (.map [] "") .nameOrClose frames
  else if c = '"' then
    let (ds, stop) ← textBody offset (offset + 1) cs
    let (frames, expected) := close (.text (String.ofList ds)) frames
    return (frames, expected, stop - offset - 1)
  else
    let (d, length) ← scalar offset (c :: cs)
    let (frames, expected) := close d frames
    return (frames, expected, length - 1)

def nameStep (frames : List Frame) (offset : Nat) (c : Char) (cs : List Char) :
    Except Failure Step := do
  if c = '"' then
    let (ds, stop) ← textBody offset (offset + 1) cs
    let frames := match frames with
      | .map entries _ :: rest => .map entries (String.ofList ds) :: rest
      | frames => frames
    return (frames, .colon, stop - offset - 1)
  else throw (.problem .nameExpected offset)

def step (frames : List Frame) (expected : Expected) (offset : Nat) (c : Char) (cs : List Char) :
    Except Failure Step :=
  match expected, frames with
  | .value, _ => valueStep frames offset c cs
  | .valueOrClose, .list items :: rest =>
    if c = ']' then
      let (frames, expected) := close (.list items.reverse) rest
      .ok (frames, expected, 0)
    else valueStep frames offset c cs
  | .valueOrClose, _ => valueStep frames offset c cs
  | .name, _ => nameStep frames offset c cs
  | .nameOrClose, .map entries _ :: rest =>
    if c = '\x7d' then
      let (frames, expected) := close (.map entries) rest
      .ok (frames, expected, 0)
    else nameStep frames offset c cs
  | .nameOrClose, _ => nameStep frames offset c cs
  | .colon, _ =>
    if c = ':' then .ok (frames, .value, 0) else .error (.problem .colonExpected offset)
  | .commaOrClose, .list items :: rest =>
    if c = ']' then
      let (frames, expected) := close (.list items.reverse) rest
      .ok (frames, expected, 0)
    else if c = ',' then .ok (frames, .value, 0)
    else .error (.problem .commaExpected offset)
  | .commaOrClose, .map entries _ :: rest =>
    if c = '\x7d' then
      let (frames, expected) := close (.map entries) rest
      .ok (frames, expected, 0)
    else if c = ',' then .ok (frames, .name, 0)
    else .error (.problem .commaExpected offset)
  | .commaOrClose, [] => .error (.problem .commaExpected offset)
  | .nothing _, _ => .error (.problem .extraData offset)

/-- The document at the end of the text, or what is missing there. -/
def atEnd (expected : Expected) (offset : Nat) : Except Failure Document :=
  match expected with
  | .nothing d => .ok d
  | .value | .valueOrClose => .error (.problem .valueExpected offset)
  | .name | .nameOrClose => .error (.problem .nameExpected offset)
  | .colon => .error (.problem .colonExpected offset)
  | .commaOrClose => .error (.problem .commaExpected offset)

def run (frames : List Frame) (expected : Expected) (offset : Nat) (cs : List Char) :
    Except Failure Document :=
  match cs with
  | [] => atEnd expected offset
  | c :: cs =>
    if isSpace c then run frames expected (offset + 1) cs
    else match step frames expected offset c cs with
      | .error e => .error e
      | .ok (frames, expected, taken) =>
        run frames expected (offset + 1 + taken) (cs.drop taken)
termination_by cs.length
decreasing_by
  · simp
  · simp only [List.length_drop, List.length_cons]; omega

def lineAndColumn (cs : List Char) (offset : Nat) : Nat × Nat :=
  let before := cs.take offset
  ((before.filter (· == '\n')).length + 1, (before.reverse.takeWhile (· != '\n')).length + 1)

def Failure.fault (cs : List Char) : Failure → Fault
  | .problem p offset =>
    let (line, column) := lineAndColumn cs offset
    .badSyntax ⟨p.message, line, column, offset⟩
  | .tooLong => .invalid .unreadable
  | .tooDeep => .tooDeep

def read (s : String) : Except Fault Document :=
  let cs := s.toList
  let result :=
    if cs.head? = some '\ufeff' then .error (.problem .byteOrderMark 0) else run [] .value 0 cs
  match result with
  | .ok d => .ok d
  | .error e => .error (e.fault cs)

end Cuaderno.Json
