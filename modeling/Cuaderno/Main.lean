import Cuaderno.CommandLine.Layout
import Cuaderno.CommandLine.Run
import Std.Time

/-!
# The program

Reads the file that a command asks for and the wall clock, prints what the command prints, and
writes the file that it writes. All else is decided elsewhere.
-/

namespace Cuaderno

open CommandLine

def readFile (path : String) : IO (Except PathFault String) := do
  try
    return .ok (← IO.FS.readFile path)
  catch
    | .noFileOrDirectory .. => return .error .notFound
    | e => return .error (.refused (toString e))

def wallClock : IO Moment := do
  let seconds := (← Std.Time.Timestamp.now).toSecondsSinceUnixEpoch.val
  match Epoch.ofSeconds (Number.ofNat seconds.toNat) with
  | .ok m => return m
  | .error _ => return .first

def print (p : Printed) : IO Unit := do
  for line in p.lines do
    if p.isError then IO.eprintln line else IO.println line

def finish (o : Outcome) : IO UInt32 := do
  if let some (path, text) := o.file then IO.FS.writeFile path text
  for p in o.printed do
    print p
  return o.exit.toUInt32

def carryOut (words : List String) : IO (Except Refusal Outcome) := do
  match Command.ofWords words with
  | .error e => return .error e
  | .ok c =>
    let text ← match c.path? with
      | some path => readFile path
      | none => pure (.error .notFound)
    return c.run text (← wallClock)

end Cuaderno

open Cuaderno CommandLine in
def main (words : List String) : IO UInt32 := do
  match ← carryOut words with
  | .ok o => finish o
  | .error .help => IO.println usage; return 0
  | .error .usage => IO.eprintln usage; return 2
  | .error (.fault _) => IO.eprintln "A value is out of range."; return 1
