import Lexis.Demo.Report

/-!
# The program

Prints the tokens of the file that the first argument names.
-/

/-- The bytes of a file, if it can be read. -/
def readBytes? (path : String) : IO (Option (List UInt8)) := do
  try
    let bytes ← IO.FS.readBinFile path
    return some bytes.toList
  catch _ => return none

def main (args : List String) : IO UInt32 := do
  let content ← match args with
    | [] => pure none
    | path :: _ => readBytes? path
  let report := Lexis.Demo.report args fun _ => content
  for line in report.out do
    IO.println line
  for line in report.err do
    IO.eprintln line
  return UInt32.ofNat report.status
