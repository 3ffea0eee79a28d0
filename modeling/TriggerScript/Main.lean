import TriggerScript.Console.Host

/-!
# The console program

Reads the options file and the scripts folder, then ticks. Between two ticks the line typed
last is handled. Here is everything that talks to the system; what is done is in
`TriggerScript.Console.Host`.
-/

namespace TriggerScript.Console

/-- The options file, as far as it is there. -/
def readOptionsFile (storage : Storage) : IO Storage := do
  try
    let content ← IO.FS.readBinFile Settings.standardPath
    pure (storage.write (Path.ofString Settings.standardPath) content)
  catch _ => pure storage

/-- Adds the files below a folder. -/
partial def readFolder (storage : Storage) (name : String) : IO Storage := do
  let folder ← IO.FS.realPath name
  let mut found := storage
  for entry in ← folder.readDir do
    let below := name ++ "/" ++ entry.fileName
    if ← entry.path.isDir then
      found ← readFolder found below
    else
      found := found.write (Path.ofString below) (← IO.FS.readBinFile entry.path)
  pure found

/-- The options file and the scripts folder that it names. -/
def readStorage : IO Storage := do
  let storage ← readOptionsFile .empty
  let folder := match Settings.load storage Settings.standardPath with
    | .ok settings => settings.scriptsFolder
    | .error _ => Settings.standard.scriptsFolder
  try readFolder storage folder catch _ => pure storage

/-- Dice that show something else each time the program runs. -/
def drawDice : IO (Nat → Dice) := do
  let seed ← IO.rand 0 (UInt64.size - 1)
  pure fun n => ⟨fun i => (mixHash (hash seed) (mixHash (hash n) (hash i))).toNat, 0⟩

/-- Prints what the host has to say. -/
def showLines (lines : List Line) : IO Unit := do
  for line in lines do
    match line with
    | .print text => IO.println text
    | .warn text => IO.eprintln text
  (← IO.getStdout).flush

/-- Ticks until the operator asks to stop or the input ends. -/
partial def serve (input : IO.FS.Stream) (host : Host) (typed : Task (Except IO.Error String)) :
    IO Host := do
  if host.stopped then return host
  let mut host := host
  let mut typed := typed
  if ← IO.hasFinished typed then
    match typed.get with
    | .error _ => return host
    | .ok line =>
      if line.isEmpty then return host
      let (lines, next) := host.handle (← readStorage) line
      showLines lines
      host := next
      typed ← IO.asTask input.getLine
  let (lines, next) := host.tick
  showLines lines
  IO.sleep (UInt32.ofNat next.settings.tick)
  serve input next typed

end TriggerScript.Console

open TriggerScript.Console in
def main : IO UInt32 := do
  match Host.start (← readStorage) (← drawDice) with
  | .error fault =>
    IO.eprintln fault.message
    return 1
  | .ok (lines, host) =>
    showLines lines
    let input ← IO.getStdin
    let host ← serve input host (← IO.asTask input.getLine)
    showLines host.farewell
    return 0
