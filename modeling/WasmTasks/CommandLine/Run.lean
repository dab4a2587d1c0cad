import WasmTasks.CommandLine.Arguments
import WasmTasks.Config.Load
import WasmTasks.Document.Json
import WasmTasks.Driver.Info
import WasmTasks.FileTree.Scan
import WasmTasks.Module.Load

/-!
What the program does for its arguments: it makes a driver from the plugin configuration, and runs
one task, warms the cache or tells about itself. A failure is reported as a chain of reasons, the
outermost first.
-/

namespace WasmTasks.CommandLine

inductive Output where
  | nothing
  | text (text : String)
  | value (document : Document)

structure Report where
  code : Nat
  output : Output
  failure : List String

namespace Report

def success (output : Output) : Report := ⟨0, output, []⟩

def failed (context : String) (error : DriverError) : Report :=
  ⟨1, .nothing, [context, error.message]⟩

def misuse : Report := ⟨2, .nothing, []⟩

/-- The driver is made on a thread of its own, whose panic is reported. -/
def aborted : Report := ⟨1, .nothing, ["Driver initialization aborted"]⟩

end Report

def description : String :=
  "Task driver that runs short-lived WebAssembly jobs for a workload orchestrator"

def programName : String := "wasm-task-driver"

/-- A column of names with a column of explanations. -/
def columns (rows : List (String × String)) : List String :=
  let width := (rows.map fun row => row.1.length).foldl max 0
  rows.map fun (name, text) =>
    "  " ++ name ++ String.ofList (List.replicate (width - name.length + 2) ' ') ++ text

def configHelp (fallback : Option String) : String × String :=
  ("-c, --config <CONFIG>",
    "Plugin configuration file (TOML). Defaults apply when omitted [env: WASM_DRIVER_CONFIG="
      ++ fallback.getD "" ++ "]")

def logFormatHelp : String × String :=
  ("    --log-format <LOG_FORMAT>",
    "Log output format [default: text] [possible values: text, json]")

def helpHelp : String × String := ("-h, --help", "Print help")

def helpAbout : String := "Print this message or the help of the given subcommand(s)"

def helpLines (fallback : Option String) : Topic → List String
  | .program =>
      let commands := [CommandName.run, .warm, .info].map fun command =>
        (command.toString, command.about)
      [description, "", s!"Usage: {programName} [OPTIONS] <COMMAND>", "", "Commands:"]
        ++ columns (commands ++ [("help", helpAbout)])
        ++ ["", "Options:"]
        ++ columns [configHelp fallback, logFormatHelp, helpHelp, ("-V, --version", "Print version")]
  | .help =>
      [helpAbout, "", s!"Usage: {programName} help [COMMAND]...", "", "Arguments:"]
        ++ columns [("[COMMAND]...", "Print help for the subcommand(s)")]
  | .command command =>
      let usage := match command with
        | .run => "[OPTIONS] --task <TASK>"
        | _ => "[OPTIONS]"
      let options := match command with
        | .run => [
            configHelp fallback,
            ("    --task <TASK>", "Task configuration file (TOML)"),
            ("    --id <ID>", "Task identifier. A random one is generated when omitted"),
            logFormatHelp,
            helpHelp]
        | _ => [configHelp fallback, logFormatHelp, helpHelp]
      [command.about, "", s!"Usage: {programName} {command.toString} {usage}", "", "Options:"]
        ++ columns options

def paragraph (lines : List String) : Output :=
  .text (String.join (lines.map (· ++ "\n")))

def encodeExit (result : ExitResult) (finishedAt : Timestamp) : Document :=
  .table [
    ("cause", .text result.cause.name),
    ("exit_code", .int result.exitCode),
    ("message", .text result.message),
    ("return_values", encodeArgs result.returnValues),
    ("finished_at", finishedAt.encode)]

def encodeStats (driver : Driver) : Document :=
  match driver.cacheStats with
  | none => .null
  | some stats => stats.encode

def encodeInfo (driver : Driver) : Document :=
  .table [
    ("plugin", Plugin.info),
    ("capabilities", Plugin.capabilities),
    ("fingerprint", match driver.firstFingerprint false with
      | none => .null
      | some sample => sample.encode),
    ("cache", encodeStats driver)]

section

variable {μ ν : Type} (machine : Machine μ ν)

/-- Runs one task to its end and removes it. `none` if the task never ends. -/
def runTask (tree : FileTree) (now : Nat) (driver : Driver) (task : Path) (id : String) :
    Option Report :=
  match TaskConfig.ofFile tree task with
  | .error error => some (.failed s!"Invalid task configuration {task}" error)
  | .ok config =>
      match driver.start (machine.loadModule tree) now now ⟨id, config⟩ with
      | (.error error, _) => some (.failed s!"Failed to start task {id}" error)
      | (.ok _, driver) =>
          match driver.tasks.lookup id with
          | .error error => some (.failed s!"Task {id} exited without a result" error)
          | .ok ref =>
              (driver.receive machine ref false).1.map fun result =>
                ⟨result.exitCode,
                  .value (encodeExit result ⟨now / 1000, now % 1000 * 1000000⟩), []⟩

def perform (allocator : Allocator) (tree : FileTree) (now : Nat) (freshId : String)
    (invocation : Invocation) : Option Report :=
  let config : Except Report PluginConfig := match invocation.config with
    | none => .ok .standard
    | some path =>
        (PluginConfig.ofFile tree path).mapError fun error =>
          Report.failed s!"Invalid plugin configuration {path}" error
  match config with
  | .error report => some report
  | .ok config =>
      match Driver.new allocator (machine.loadModule tree) tree.discover (fun _ => now) config with
      | .error (.refused error) => some (.failed "Failed to initialize driver" error)
      | .error .aborted => some .aborted
      | .ok driver =>
          match invocation.command with
          | .run task id => runTask machine tree now driver task (id.getD freshId)
          | .warm => some (.success (.value (encodeStats driver)))
          | .info => some (.success (.value (encodeInfo driver)))

/-- The program as a whole; `none` if it never ends. -/
def run (allocator : Allocator) (tree : FileTree) (now : Nat) (freshId : String)
    (fallback : Option String) (arguments : List String) : Option Report :=
  match read fallback arguments with
  | .misuse => some .misuse
  | .version => some (.success (paragraph [s!"{programName} {Plugin.version}"]))
  | .help topic => some (.success (paragraph (helpLines fallback topic)))
  | .perform invocation => perform machine allocator tree now freshId invocation

end

end WasmTasks.CommandLine
