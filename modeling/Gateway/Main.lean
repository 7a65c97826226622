import Gateway.Command

/-!
The program: checks the command line and the settings file, writes the log to standard error, and ends with the exit
code. Sockets are up to the program that embeds the engine.
-/

open Gateway

/-- The contents of a file, or why it cannot be read. -/
def readSettingsFile (path : String) : IO (Except Command.Unreadable Bytes) := do
  try
    return .ok (← IO.FS.readBinFile path).toList
  catch
    | .noFileOrDirectory .. => return .error .missing
    | e => return .error (.other (toString e))

def main (arguments : List String) : IO UInt32 := do
  let filter ← IO.getEnv "RUST_LOG"
  let file ← match Command.readArguments none arguments with
    | .serve path => readSettingsFile path
    | _ => pure (.error .missing)
  let (ending, lines) := Command.run arguments filter fun _ => file
  for line in lines do
    IO.eprintln (line.level.name ++ " " ++ line.message)
  return UInt32.ofNat ending.code
