import Cuaderno.Calendar.Clock
import Cuaderno.Calendar.Iso
import Cuaderno.Number.Reader
import Cuaderno.Text.CaseFold
import Cuaderno.Text.Piece

/-!
# Arguments of a command

The words behind the name of a command are options and operands, in any order. An option is written
in full, `--limit 5` or `--limit=5`, or with one letter, `-n 5` or `-n5`; letters of options
without a value can be joined. The word after an option that takes a value is its value, whatever
it looks like. Behind the word `--` there are operands only.

Every value is checked by what its option takes. Values are checked in the order in which their
options first come, and of values for one option only the last one is checked, unless the option
gathers all of them.
-/

namespace Cuaderno.CommandLine

inductive Takes where
  | nothing
  | text
  /-- Any number of texts, one with each mention of the option. -/
  | texts
  | path
  | integer
  /-- A time of evaluation. -/
  | time
  | oneOf (choices : List String)
  /-- One of some names of basic Latin letters in lower case, written in any case. -/
  | oneOfAnyCase (choices : List String)
  deriving DecidableEq, Repr

structure Switch where
  name : String
  letter : Option Char := none
  takes : Takes := .text
  deriving DecidableEq, Repr

inductive Refusal where
  /-- The arguments are none that the command takes. -/
  | usage
  /-- The arguments ask for help. -/
  | help
  /-- A value has a fault. -/
  | fault (f : Fault)
  deriving DecidableEq, Repr

/-- The arguments of a command as they are written: options with their values, in order, and
operands. -/
structure Arguments where
  options : List (Switch × String) := []
  operands : List String := []
  deriving DecidableEq, Repr

inductive Word where
  /-- The word behind which there are operands only. -/
  | separator
  | operand
  /-- Some options without a value, and perhaps one with its value. -/
  | options (given : List (Switch × String))
  /-- Some options without a value, and one whose value is the next word. -/
  | opens (given : List (Switch × String)) (last : Switch)
  deriving DecidableEq, Repr

def lettered (switches : List Switch) : List Char → Except Refusal Word
  | [] => .ok (.options [])
  | c :: cs =>
    match switches.find? (·.letter = some c) with
    | none => .error .usage
    | some s =>
      if s.takes = .nothing then do
        match ← lettered switches cs with
        | .opens given last => return .opens ((s, "") :: given) last
        | .options given => return .options ((s, "") :: given)
        | w => return w
      else if cs.isEmpty then .ok (.opens [] s)
      else .ok (.options [(s, String.ofList cs)])

/-- The option that a name stands for, with the value that is joined to it, if there is one. -/
def named (switches : List Switch) (name : String) (value : Option String) :
    Except Refusal Word :=
  match switches.find? (·.name = name), value with
  | none, _ => .error .usage
  | some s, none => .ok (if s.takes = .nothing then .options [(s, "")] else .opens [] s)
  | some s, some v => if s.takes = .nothing then .error .usage else .ok (.options [(s, v)])

def Word.ofText (switches : List Switch) (word : String) : Except Refusal Word :=
  match word.toList with
  | ['-', '-'] => .ok .separator
  | '-' :: '-' :: cs =>
    match Text.cutFirst '=' 1 cs with
    | [name, value] => named switches (String.ofList name) (some (String.ofList value))
    | _ => named switches (String.ofList cs) none
  | '-' :: c :: cs => lettered switches (c :: cs)
  | _ => .ok .operand

/-- Reads words as arguments. When options come first, all words from the first operand on are
operands. -/
def Arguments.ofWords (switches : List Switch) (optionsFirst : Bool) :
    List String → Except Refusal Arguments
  | [] => .ok {}
  | word :: words => do
    match ← Word.ofText switches word with
    | .separator => return { operands := words }
    | .operand =>
      if optionsFirst then return { operands := word :: words }
      else
        let w ← ofWords switches optionsFirst words
        return { w with operands := word :: w.operands }
    | .options given =>
      let w ← ofWords switches optionsFirst words
      return { w with options := given ++ w.options }
    | .opens given last =>
      match words with
      | [] => throw .usage
      | value :: words =>
        let w ← ofWords switches optionsFirst words
        return { w with options := given ++ (last, value) :: w.options }

inductive Setting where
  | on
  | text (s : String)
  | texts (items : List String)
  | integer (n : Int)
  | moment (m : Moment)
  deriving DecidableEq, Repr

def choice (choices : List String) (word : String) : Except Refusal Setting :=
  if word ∈ choices then .ok (.text word) else .error .usage

/-- The value that words for an option mean; the last word counts. -/
def Setting.ofWords (takes : Takes) (words : List String) : Except Refusal Setting :=
  let word := words.getLast?.getD ""
  match takes with
  | .nothing => .ok .on
  | .text => .ok (.text word)
  | .texts => .ok (.texts words)
  | .path =>
    if '\x00' ∈ word.toList then .error (.fault (.invalid .unreadable)) else .ok (.text word)
  | .integer =>
    match Number.readInt? word.toList with
    | some n => .ok (.integer n)
    | none => .error .usage
  | .time =>
    match Iso.stamp? word.toList with
    | none => .error .usage
    | some s =>
      match s.moment with
      | .ok m => .ok (.moment m)
      | .error f => .error (.fault f)
  | .oneOf choices => choice choices word
  | .oneOfAnyCase choices =>
    choice choices (String.ofList (word.toList.flatMap Text.caseFold))

abbrev Settings := List (String × Setting)

/-- The options of a list, each once, in the order in which they first come. -/
def mentioned (options : List (Switch × String)) : List Switch :=
  options.foldl (fun seen (s, _) => if s ∈ seen then seen else seen ++ [s]) []

def Arguments.settings (w : Arguments) : Except Refusal Settings :=
  if w.options.any (·.1.name = "help") then .error .help
  else (mentioned w.options).mapM fun s => do
    let words := (w.options.filter (·.1 = s)).map (·.2)
    return (s.name, ← Setting.ofWords s.takes words)

namespace Settings

variable (s : Settings)

def has (name : String) : Bool := (s.lookup name).isSome

def text? (name : String) : Option String :=
  match s.lookup name with
  | some (.text t) => some t
  | _ => none

def texts (name : String) : List String :=
  match s.lookup name with
  | some (.texts items) => items
  | _ => []

def integer? (name : String) : Option Int :=
  match s.lookup name with
  | some (.integer n) => some n
  | _ => none

def moment? (name : String) : Option Moment :=
  match s.lookup name with
  | some (.moment m) => some m
  | _ => none

end Settings

end Cuaderno.CommandLine
