import TestQuery.Console
import TestQuery.Settings.Reading

namespace TestQuery

/-!
# The command line

Reads settings from a file in the working directory and holds the console's
dialogue on standard input and output.
-/

def settingsPath : String := "query_config.json"

/-- The settings of the file, or the usual ones where there are none. -/
def loadSettings : IO Settings := do
  let file ← try
      let bytes ← IO.FS.readBinFile settingsPath
      pure (.content bytes)
    catch _ => pure .missing
  return Settings.loadD settingsPath file

/-- Answer lines until the input or the dialogue ends. -/
partial def answerLines (input : IO.FS.Stream) (console : Console) : IO Unit := do
  let line ← input.getLine
  if line.isEmpty then return
  let (next, shown) := console.step line
  for text in shown do
    IO.println text
  if let some console := next then
    answerLines input console

end TestQuery

def main : IO Unit := do
  let settings ← TestQuery.loadSettings
  for text in TestQuery.Console.greeting do
    IO.println text
  TestQuery.answerLines (← IO.getStdin) (.opened settings)
