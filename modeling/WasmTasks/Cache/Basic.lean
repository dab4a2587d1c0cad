import WasmTasks.Cache.Policy
import WasmTasks.Config.Plugin
import WasmTasks.Document.Basic

/-!
The module cache: compiled modules under their paths, at most `capacity` of them, each for at most
its lifetime. An expired entry counts as absent, but stays until it is looked up or room is needed.
Time is in milliseconds and every operation that depends on it is given the current time. A cache
asks for the memory of its whole table when it is made.
-/

namespace WasmTasks

/-- A compiled module as it is kept: under its path, with what the engine makes it from again. -/
structure CachedModule where
  key : Path
  backend : BackendKind
  artifact : Bytes
  contentHash : String
  deriving DecidableEq, Repr

namespace CachedModule

def describe (entry : CachedModule) : String :=
  let key := entry.key.quote
  let hash := Text.quote entry.contentHash
  s!"CachedModule \x7b key: {key}, backend: {entry.backend.label}, "
    ++ s!"artifact_len: {entry.artifact.length}, content_hash: {hash}, .. \x7d"

end CachedModule

namespace Cache

structure Entry where
  stored : CachedModule
  insertedAt : Nat
  deriving DecidableEq, Repr

structure Counters where
  hits : Nat
  misses : Nat
  evictions : Nat
  expirations : Nat
  deriving DecidableEq, Repr

namespace Counters

def zero : Counters := ⟨0, 0, 0, 0⟩

end Counters

structure Stats where
  kind : EvictionKind
  capacity : Nat
  entries : Nat
  counters : Counters
  deriving DecidableEq, Repr

namespace Stats

def encode (stats : Stats) : Document :=
  .table [
    ("kind", .text stats.kind.name),
    ("capacity", .int stats.capacity),
    ("entries", .int stats.entries),
    ("hits", .int stats.counters.hits),
    ("misses", .int stats.counters.misses),
    ("evictions", .int stats.counters.evictions),
    ("expirations", .int stats.counters.expirations)]

end Stats

def describeSpan (milliseconds : Nat) : String :=
  if milliseconds < 1000 then s!"{milliseconds}ms"
  else
    let rest := milliseconds % 1000
    let digits := [rest / 100, rest / 10 % 10, rest % 10]
    let kept := (digits.reverse.dropWhile (· = 0)).reverse
    let fraction := if kept.isEmpty then "" else "." ++ String.join (kept.map toString)
    s!"{milliseconds / 1000}{fraction}s"

end Cache

structure ModuleCache where
  capacity : Nat
  /-- Milliseconds an entry lives, if entries expire. -/
  lifetime : Option Nat
  policy : Cache.Policy
  entries : List Cache.Entry
  counters : Cache.Counters
  deriving Repr

/-- Whether there is memory for a table of so many entries. -/
structure Allocator where
  grants : Nat → Bool

namespace Allocator

/-- Grants whatever can be asked for: a table takes at least eight bytes an entry, and no more bytes
in all than can be counted. -/
def generous : Allocator := ⟨fun capacity => capacity * 8 < UInt64.size⟩

end Allocator

namespace ModuleCache

open Cache

/-- A table for more entries than the allocator grants is no error that is returned. -/
def new (allocator : Allocator) (capacity : Nat) (kind : EvictionKind) (lifetime : Option Nat) :
    Except Failure ModuleCache :=
  if capacity = 0 then .error (.refused (.configuration .zeroCacheSize))
  else if lifetime = some 0 then .error (.refused (.configuration .zeroLifetime))
  else if allocator.grants capacity then
    .ok ⟨capacity, lifetime, .empty kind capacity, [], .zero⟩
  else .error .aborted

def ofConfig (allocator : Allocator) (config : CacheConfig) :
    Except Failure (Option ModuleCache) :=
  if config.enabled then
    (new allocator config.size.toNat config.kind
      (config.lifetime?.map fun seconds => seconds.toNat * 1000)).map some
  else .ok none

variable (cache : ModuleCache) (now : Nat)

def kind : EvictionKind := cache.policy.kind

/-- The entry held under the path, expired or not. -/
def find? (path : Path) : Option Entry :=
  cache.entries.find? fun entry => entry.stored.key.Same path

def isExpired (entry : Entry) : Bool :=
  match cache.lifetime with
  | none => false
  | some lifetime => lifetime ≤ now - entry.insertedAt

/-- Whether a live entry is held; this counts as no use. -/
def contains (path : Path) : Bool :=
  match cache.find? path with
  | none => false
  | some entry => !cache.isExpired now entry

def without (path : Path) : List Entry :=
  cache.entries.filter fun entry => ¬ entry.stored.key.Same path

def countHit : ModuleCache :=
  { cache with counters := { cache.counters with hits := cache.counters.hits + 1 } }

def countMiss : ModuleCache :=
  { cache with counters := { cache.counters with misses := cache.counters.misses + 1 } }

def expire (path : Path) : ModuleCache :=
  { cache with
    entries := cache.without path
    policy := cache.policy.remove path
    counters := { cache.counters with expirations := cache.counters.expirations + 1 } }

/-- Looks a module up. A live entry is a hit and counts as used; an expired one is dropped. -/
def get (path : Path) : Option CachedModule × ModuleCache :=
  match cache.find? path with
  | none => (none, cache.countMiss)
  | some entry =>
      if cache.isExpired now entry then (none, (cache.expire path).countMiss)
      else (some entry.stored, { cache.countHit with policy := cache.policy.touch path })

def purge : ModuleCache :=
  (cache.entries.filter (cache.isExpired now)).foldl
    (fun current entry => current.expire entry.stored.key) cache

def evict (victim : Path) (policy : Policy) : ModuleCache :=
  if (cache.find? victim).isSome then
    { cache with
      entries := cache.without victim
      policy := policy
      counters := { cache.counters with evictions := cache.counters.evictions + 1 } }
  else { cache with policy := policy }

theorem policy_evict (victim : Path) (policy : Policy) :
    (cache.evict victim policy).policy = policy := by
  unfold evict
  split <;> rfl

/-- Evicts until an entry fits in or nothing is left to evict. -/
def makeRoom (cache : ModuleCache) : ModuleCache :=
  if cache.entries.length < cache.capacity then cache
  else
    match _chosen : cache.policy.evict? with
    | none => cache
    | some (victim, policy) => (cache.evict victim policy).makeRoom
termination_by cache.policy.tracked.length
decreasing_by
  rw [policy_evict]
  exact Policy.length_tracked_evict? _chosen

def insert (stored : CachedModule) : ModuleCache :=
  { cache with
    entries := cache.entries ++ [⟨stored, now⟩]
    policy := cache.policy.add stored.key }

/-- Gives the entry held under the module's path a new module and a new start of its life. -/
def replace (stored : CachedModule) : ModuleCache :=
  { cache with
    entries := cache.entries.map fun entry =>
      if entry.stored.key.Same stored.key then ⟨stored, now⟩ else entry
    policy := cache.policy.touch stored.key }

/-- Stores a module under its path. A full cache drops expired entries first, and evicts only if
that was not enough. -/
def put (stored : CachedModule) : ModuleCache :=
  if (cache.find? stored.key).isSome then cache.replace now stored
  else
    let purged := if cache.capacity ≤ cache.entries.length then cache.purge now else cache
    purged.makeRoom.insert now stored

/-- Takes the entry out, expired or not. -/
def remove (path : Path) : Option CachedModule × ModuleCache :=
  match cache.find? path with
  | none => (none, cache)
  | some entry =>
      (some entry.stored,
        { cache with entries := cache.without path, policy := cache.policy.remove path })

/-- Drops every entry and keeps the counters. -/
def clear : ModuleCache :=
  { cache with
    entries := []
    policy := cache.entries.foldl (fun policy entry => policy.remove entry.stored.key) cache.policy }

def stats : Stats :=
  ⟨cache.kind, cache.capacity, cache.entries.length, cache.counters⟩

def describe : String :=
  let lifetime := match cache.lifetime with
    | none => "None"
    | some span => s!"Some({describeSpan span})"
  s!"ModuleCache \x7b kind: {cache.kind.label}, capacity: {cache.capacity}, "
    ++ s!"ttl: {lifetime}, entries: {cache.entries.length} \x7d"

end ModuleCache

end WasmTasks
