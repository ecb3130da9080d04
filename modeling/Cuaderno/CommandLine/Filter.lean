import Cuaderno.Panel
import Cuaderno.Text.Piece

/-!
# Conditions in arguments

A condition is written `property:operator` or `property:operator:value`; a value may hold further
colons.
-/

namespace Cuaderno.CommandLine

inductive FilterFault where
  | noOperator (text : String)
  | unknownOperator (name : String)
  deriving DecidableEq, Repr

def FilterFault.message : FilterFault → String
  | noOperator text => "expected property:operator[:value], got " ++ shownText text
  | unknownOperator name =>
    let names := (Choice.members : List Operator).map Choice.name
    "unknown operator " ++ shownText name ++ " (choose from " ++ ", ".intercalate names ++ ")"

def condition (property operator : String) (value : Document) : Except FilterFault Condition :=
  match (Choice.ofName? operator : Option Operator) with
  | some op => .ok ⟨property, op, value⟩
  | none => .error (.unknownOperator operator)

def filter (text : String) : Except FilterFault Condition :=
  match (Text.cutFirst ':' 2 text.toList).map String.ofList with
  | [property, operator] => condition property operator .null
  | [property, operator, value] => condition property operator (.text value)
  | _ => .error (.noOperator text)

end Cuaderno.CommandLine
