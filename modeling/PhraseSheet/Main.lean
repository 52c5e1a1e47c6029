import PhraseSheet.Command.Reply

namespace PhraseSheet.Program

/-- The text that the command reads, if it can be read. -/
def readSource (command : Command) : IO (Option String) := do
  match command.source with
  | .nothing => pure (some "")
  | .standardInput =>
    try
      let text ← (← IO.getStdin).readToEnd
      pure (some text)
    catch _ => pure none
  | .file path =>
    try
      let text ← IO.FS.readFile path
      pure (some text)
    catch _ => pure none

/-- Writes the file of the answer. Where that fails the answer is an error. -/
def writeFile (reply : Reply) : IO Reply := do
  match reply.file? with
  | none => pure reply
  | some (path, text) =>
    try
      IO.FS.writeFile path text
      pure reply
    catch _ => pure (Reply.failure ("Failed to write '" ++ path ++ "'") [])

def answer (arguments : List String) : IO Reply := do
  match Command.ofLine arguments with
  | .error error => pure (Reply.ofUsageError error)
  | .ok command =>
    let read? ← readSource command
    writeFile (Reply.ofCommand read? command)

/-- Prints the answer to a command line and gives its exit code. -/
def run (arguments : List String) : IO UInt32 := do
  let start ← IO.monoNanosNow
  let reply ← answer arguments
  let finish ← IO.monoNanosNow
  IO.print (reply.output (Float.ofNat (finish - start) / 1000000))
  IO.eprint reply.errors
  pure (UInt32.ofNat reply.code)

end PhraseSheet.Program

def main (arguments : List String) : IO UInt32 := PhraseSheet.Program.run arguments
