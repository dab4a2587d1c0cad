import WasmTasks.Path

/-!
The arguments of the command line. The options of the program may stand before or after the command,
and a command may overrule what was said before it; an option may be given once at each place. The
arguments are read from left to right, and whoever asks for help gets it unless a mistake was noticed
before.
-/

namespace WasmTasks.CommandLine

inductive Command where
  | run (task : Path) (id : Option String)
  | warm
  | info
  deriving DecidableEq, Repr

structure Invocation where
  config : Option Path
  command : Command
  deriving DecidableEq, Repr

inductive CommandName where
  | run
  | warm
  | info
  deriving DecidableEq, Repr

/-- What help is asked about; asking for it is a command too. -/
inductive Topic where
  | program
  | command (name : CommandName)
  | help
  deriving DecidableEq, Repr

inductive Request where
  | perform (invocation : Invocation)
  | help (topic : Topic)
  | version
  | misuse
  deriving DecidableEq, Repr

namespace CommandName

def ofString? (name : String) : Option CommandName :=
  if name = "run" then some run
  else if name = "warm" then some warm
  else if name = "info" then some info
  else none

def toString : CommandName → String
  | run => "run"
  | warm => "warm"
  | info => "info"

def about : CommandName → String
  | run => "Run one task to completion and print its exit result"
  | warm => "Validate the configuration, pre-cache modules, and print cache stats"
  | info => "Print plugin info, capabilities, and a fingerprint sample"

end CommandName

inductive Setting where
  | config
  | logFormat
  | task
  | id
  deriving DecidableEq, Repr

namespace Setting

/-- The option of a long name that may stand at the given place. -/
def ofName? (place : Option CommandName) (name : String) : Option Setting :=
  if name = "config" then some config
  else if name = "log-format" then some logFormat
  else if place = some .run ∧ name = "task" then some task
  else if place = some .run ∧ name = "id" then some id
  else none

/-- Paths may not be empty, and there are two log formats. -/
def accepts (setting : Setting) (value : String) : Bool :=
  match setting with
  | config => value ≠ ""
  | task => value ≠ ""
  | logFormat => value = "text" || value = "json"
  | id => true

end Setting

abbrev Settings := List (Setting × String)

/-- The options given at one place. Whether the last one can be accepted is seen only when something
makes it necessary: another option, or the end of the arguments. -/
structure Given where
  settled : Settings
  pending : Option (Setting × String)

namespace Given

def nothing : Given := ⟨[], none⟩

/-- All options of the place; `none` if the last one repeats another or has a value it may not
have. -/
def settle? (given : Given) : Option Settings :=
  match given.pending with
  | none => some given.settled
  | some (setting, value) =>
      if (given.settled.lookup setting).isNone && setting.accepts value then
        some ((setting, value) :: given.settled)
      else none

/-- Adds an option. One whose value is attached to it is settled at once. -/
def add? (given : Given) (setting : Setting) (value : String) (attached : Bool) : Option Given := do
  let settled ← given.settle?
  let next : Given := ⟨settled, some (setting, value)⟩
  if attached then
    let settled ← next.settle?
    pure ⟨settled, none⟩
  else pure next

end Given

/-- One argument, or an option with the argument after it. -/
inductive Item where
  | setting (setting : Setting) (value : String) (attached : Bool)
  | help
  | version
  | word (word : String)
  | endOfOptions
  | wrong

def looksLikeOption (argument : String) : Bool :=
  argument.startsWith "-" && argument ≠ "-"

def settingItem (setting : Setting) (attached : Option String) (rest : List String) :
    Item × List String :=
  match attached, rest with
  | some value, rest => (.setting setting value true, rest)
  | none, value :: rest =>
      (if looksLikeOption value then .wrong else .setting setting value false, rest)
  | none, [] => (.wrong, [])

def splitValue (text : List Char) : String × Option String :=
  let name := String.ofList (text.takeWhile (· ≠ '='))
  match text.dropWhile (· ≠ '=') with
  | [] => (name, none)
  | _ :: value => (name, some (String.ofList value))

/-- The version can be asked for only in front of the command. -/
def versionItem (place : Option CommandName) : Item :=
  if place = none then .version else .wrong

def takeItem (place : Option CommandName) (argument : String) (rest : List String) :
    Item × List String :=
  match argument.toList with
  | ['-', '-'] => (.endOfOptions, rest)
  | '-' :: '-' :: text =>
      let (name, value) := splitValue text
      if name = "help" then (if value.isNone then .help else .wrong, rest)
      else if name = "version" then (if value.isNone then versionItem place else .wrong, rest)
      else
        match Setting.ofName? place name with
        | some setting => settingItem setting value rest
        | none => (.wrong, rest)
  | '-' :: 'h' :: _ => (.help, rest)
  | '-' :: 'V' :: _ => (versionItem place, rest)
  | ['-', 'c'] => settingItem .config none rest
  | '-' :: 'c' :: '=' :: value => settingItem .config (some (String.ofList value)) rest
  | '-' :: 'c' :: value => settingItem .config (some (String.ofList value)) rest
  | ['-'] => (.word argument, rest)
  | '-' :: _ => (.wrong, rest)
  | _ => (.word argument, rest)

/-- Whether the fallback can be used at every place that does not name a configuration file itself.
-/
def fallbackFits (fallback : Option String) (outer inner : Settings) : Bool :=
  match fallback with
  | none => true
  | some value =>
      Setting.config.accepts value
        || ((outer.lookup .config).isSome && (inner.lookup .config).isSome)

/-- The request of a command with its settings, those of the command counting first. -/
def conclude (fallback : Option String) (place : CommandName) (outer inner : Settings) : Request :=
  let config := ((inner.lookup .config).or (outer.lookup .config)).or fallback
  let command? : Option Command :=
    match place with
    | .run => (inner.lookup .task).map fun task => .run (.ofString task) (inner.lookup .id)
    | .warm => some .warm
    | .info => some .info
  match command? with
  | none => .misuse
  | some command =>
      if fallbackFits fallback outer inner then .perform ⟨config.map Path.ofString, command⟩
      else .misuse

def topicAt : Option CommandName → Topic
  | none => .program
  | some command => .command command

def helpFor : List String → Request
  | [] => .help .program
  | [name] =>
      match CommandName.ofString? name with
      | some command => .help (.command command)
      | none => if name = "help" then .help .help else .misuse
  | _ => .misuse

def finish (fallback : Option String) (place : Option CommandName) (outer inner : Given) :
    Request :=
  match place, outer.settle?, inner.settle? with
  | some command, some outer, some inner => conclude fallback command outer inner
  | _, _, _ => .misuse

/-- Reads the arguments that follow; the fuel is their number. The inner options are those of the
current place. -/
def readFrom (fallback : Option String) :
    Nat → Option CommandName → Given → Given → List String → Request
  | _, place, outer, inner, [] => finish fallback place outer inner
  | 0, _, _, _, _ :: _ => .misuse
  | fuel + 1, place, outer, inner, argument :: rest =>
      match takeItem place argument rest with
      | (.wrong, _) => .misuse
      | (.help, _) => if inner.settle?.isSome then .help (topicAt place) else .misuse
      | (.version, _) => if inner.settle?.isSome then .version else .misuse
      | (.endOfOptions, []) => finish fallback place outer inner
      | (.endOfOptions, _ :: _) => .misuse
      | (.setting setting value attached, rest) =>
          match inner.add? setting value attached with
          | none => .misuse
          | some inner => readFrom fallback fuel place outer inner rest
      | (.word word, rest) =>
          match place with
          | some _ => .misuse
          | none =>
              if word = "help" then helpFor rest
              else
                match CommandName.ofString? word with
                | none => .misuse
                | some command => readFrom fallback fuel (some command) inner .nothing rest

/-- Reads all arguments. The fallback is the configuration file the environment names. -/
def read (fallback : Option String) (arguments : List String) : Request :=
  readFrom fallback arguments.length none .nothing .nothing arguments

end WasmTasks.CommandLine
