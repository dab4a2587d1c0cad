import WasmTasks.CommandLine.Run
import WasmTasks.Module.Described

/-!
The program. It reads the files that its arguments and the task configuration name, and leaves
everything else to the pure command line. Directories are not listed, so a warm-up finds no modules
directory here, and of modules it understands those without content.
-/

open WasmTasks

/-- Adds a file to the tree if it can be read. -/
def addFile (tree : FileTree) (path : Path) : IO FileTree := do
  try
    let content ← IO.FS.readBinFile (toString path)
    pure (tree.write path (.file content.toList))
  catch _ => pure tree

def readFiles (invocation : CommandLine.Invocation) : IO FileTree := do
  let here ← IO.currentDir
  let mut tree := FileTree.empty ((FileTree.empty .root).placeOf false (.ofString here.toString))
  if let some path := invocation.config then
    tree ← addFile tree path
  if let .run task _ := invocation.command then
    tree ← addFile tree task
    if let .ok config := TaskConfig.ofFile tree task then
      tree ← addFile tree config.modulePath
  pure tree

def printReport (report : CommandLine.Report) : IO Unit := do
  match report.output with
  | .nothing => pure ()
  | .text text => IO.print text
  | .value document => IO.println (Json.writePretty "" document)
  match report.failure with
  | [] => pure ()
  | [reason] => IO.eprintln s!"Error: {reason}"
  | reason :: causes =>
      IO.eprintln s!"Error: {reason}\n\nCaused by:"
      for cause in causes do
        IO.eprintln s!"    {cause}"

def main (arguments : List String) : IO UInt32 := do
  let fallback ← IO.getEnv "WASM_DRIVER_CONFIG"
  let tree ← match CommandLine.read fallback arguments with
    | .perform invocation => readFiles invocation
    | _ => pure (.empty .root)
  let now ← IO.monoMsNow
  let serial ← IO.rand 0 UInt64.size
  let machine := Description.machine []
  match CommandLine.run machine .generous tree now s!"task-{serial}" fallback arguments with
  | none => pure 1
  | some report => do
      printReport report
      pure (UInt32.ofNat report.code)
