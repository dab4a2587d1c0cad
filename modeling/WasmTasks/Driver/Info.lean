import WasmTasks.Driver.Basic

/-!
What the driver tells about itself: its identity, its capabilities, and fingerprint samples.
-/

namespace WasmTasks

namespace Plugin

def name : String := "wasm-task-driver"

def version : String := "0.1.0"

def apiVersions : List String := ["0.1.0"]

def info : Document :=
  .table [
    ("name", .text name),
    ("version", .text version),
    ("api_versions", .list (apiVersions.map .text))]

def capabilities : Document :=
  .table [("send_signals", .bool false), ("exec", .bool false)]

end Plugin

structure Fingerprint where
  attributes : List (String × String)
  deriving DecidableEq, Repr

namespace Fingerprint

/-- Seconds between two samples. -/
def period : Nat := 30

def encode (sample : Fingerprint) : Document :=
  .table [
    ("health", .text "healthy"),
    ("description", .text "healthy"),
    ("attributes", .table (sample.attributes.map fun (name, value) => (name, .text value)))]

end Fingerprint

namespace Driver

/-- The attributes in the order of their names; only a driver with a cache has the last two. -/
def fingerprint (driver : Driver) : Fingerprint :=
  let cache := match driver.cache with
    | none => []
    | some cache =>
        [("driver.wasm.cache.size", toString cache.capacity),
          ("driver.wasm.cache.type", cache.kind.name)]
  ⟨[("driver.wasm", "true"), ("driver.wasm.backend", driver.config.engine.backend.name)]
    ++ cache ++ [("driver.wasm.version", Plugin.version)]⟩

/-- The first sample of a stream, unless the stream is closed before it. -/
def firstFingerprint (driver : Driver) (cancelled : Bool) : Option Fingerprint :=
  if cancelled || driver.shutDown then none else some driver.fingerprint

end Driver

end WasmTasks
