import DoubleEntry.Tutorial.Basic

/-!
# The tutorial on the terminal

Without arguments the tutorial waits for the reader after every page; with `--quick` it
runs through.
-/

namespace DoubleEntry

namespace Terminal

/-- Print pages, waiting for a line between two of them. The result tells whether there
were lines enough. -/
def showPages : List Text → IO Bool
  | [] => return true
  | [page] => do
    IO.print (Text.toString page)
    return true
  | page :: rest => do
    IO.print (Text.toString (page ++ Tutorial.prompt))
    (← IO.getStdout).flush
    let line ← (← IO.getStdin).getLine
    if line.isEmpty then return false
    showPages rest

/-- Print without waiting. -/
def showAll (pages : List Text) : IO Bool := do
  IO.print (Text.toString pages.flatten)
  return true

/-- Say why the tutorial ended early. -/
def complain (fault : Fault) : IO UInt32 := do
  IO.eprintln (Text.toString fault.reported.message)
  return 1

end Terminal

end DoubleEntry

open DoubleEntry in
def main (arguments : List String) : IO UInt32 := do
  let quick := arguments.contains "--quick"
  let (pages, fault) := Tutorial.pages TutorialSettings.standard !quick
  let finished ← if quick then Terminal.showAll pages else Terminal.showPages pages
  if finished then
    match fault with
    | some fault => Terminal.complain fault
    | none => return 0
  else Terminal.complain .inputEnded
