/-
The program: it reads its arguments, its environment and its file of settings, runs, and writes its log
and its remarks. Listening for connections is left to what embeds the library.
-/
import ChainFeed.Node.Program

open ChainFeed

/-- the text of a file, `none` if it cannot be read -/
def readText? (path : String) : IO (Option String) :=
  try some <$> IO.FS.readFile path catch _ => pure none

def main (arguments : List String) : IO UInt32 := do
  let environment := Program.variablesOf ((← readText? "/proc/self/environ").getD "")
  let path := (RunOptions.parse arguments).toOption.bind RunOptions.config
  let file ← path.bindM readText?
  let result := Program.run { file? := fun p => if some p = path then file else none, environment }
    arguments
  for line in result.answer ++ result.logText do
    IO.println line
  for line in result.remarks do
    IO.eprintln line
  return UInt32.ofNat result.code
