import WasmTasks.Config.Format
import WasmTasks.Document.Toml
import WasmTasks.FileTree.Basic

/-!
Configurations from TOML text and from files. A plugin configuration is also checked for
consistency before anyone sees it.
-/

namespace WasmTasks

namespace ConfigFile

def parse (file : ConfigFile) (decode : Decoder α) (text : String) : Except DriverError α :=
  match Toml.read? text with
  | none => .error (.configuration (.unparsable file .malformed))
  | some document =>
      match decode document with
      | .error mismatch =>
          .error (.configuration (.unparsable file (.mismatch (mismatch.message .toml))))
      | .ok value => .ok value

def read (file : ConfigFile) (tree : FileTree) (path : Path) : Except DriverError String :=
  match tree.readText path with
  | .error error => .error (.configuration (.unreadable file path error.message))
  | .ok text => .ok text

end ConfigFile

namespace PluginConfig

def ofText (text : String) : Except DriverError PluginConfig := do
  let config ← ConfigFile.plugin.parse (decode .toml) text
  config.validate
  pure config

def ofFile (tree : FileTree) (path : Path) : Except DriverError PluginConfig := do
  ofText (← ConfigFile.plugin.read tree path)

end PluginConfig

namespace TaskConfig

def ofText (text : String) : Except DriverError TaskConfig :=
  ConfigFile.task.parse (decode .toml) text

def ofFile (tree : FileTree) (path : Path) : Except DriverError TaskConfig := do
  ofText (← ConfigFile.task.read tree path)

end TaskConfig

end WasmTasks
