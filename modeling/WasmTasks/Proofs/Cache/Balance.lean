import WasmTasks.Proofs.Cache.History

/-!
The books of a cache. A lookup is counted as a hit or as a miss. An entry that came in is held until
it leaves by one of five exits: it expires, on lookup or with others when room is needed, it is
evicted, removed or dropped by a clear. The counters and the history together miss none of them.
-/

namespace WasmTasks

namespace Cache

namespace Step

def looksUp (step : Step) : Bool :=
  match step.operation with
  | .get _ => true
  | _ => false

def finds (step : Step) : Bool :=
  match step.operation with
  | .get path => (step.before.cache.get step.before.now path).1.isSome
  | _ => false

def admitsNew (step : Step) : Bool :=
  step.admitted?.isSome

def takesOut (step : Step) : Bool :=
  match step.operation with
  | .remove path => (step.before.cache.remove path).1.isSome
  | _ => false

def dropped (step : Step) : Nat :=
  match step.operation with
  | .clear => step.before.cache.entries.length
  | _ => 0

end Step

end Cache

namespace ModuleCache

open Cache

variable {cache : ModuleCache} {now : Nat} {path : Path}

/-- How many entries are held or were counted when they left. -/
def accounted (cache : ModuleCache) : Nat :=
  cache.entries.length + cache.counters.evictions + cache.counters.expirations

theorem length_without (nodup : cache.keys.Nodup) (held : path.key ∈ cache.keys) :
    (cache.without path).length + 1 = cache.entries.length := by
  have lengths := congrArg List.length (keys_without nodup path)
  rw [List.length_erase_of_mem held, length_keys, Path.keys, List.length_map,
    List.length_map] at lengths
  have positive := List.length_pos_of_mem held
  rw [length_keys] at positive
  omega

theorem mem_keys_of_find? {entry : Entry} (found : cache.find? path = some entry) :
    path.key ∈ cache.keys := by
  rw [← isSome_find?_iff, found]
  rfl

/-! Expiry and eviction turn a held entry into a counted one. -/

theorem accounted_expire (nodup : cache.keys.Nodup) (held : path.key ∈ cache.keys) :
    (cache.expire path).accounted = cache.accounted := by
  have shorter := length_without nodup held
  simp only [accounted, expire]
  omega

theorem expirations_purge (cache : ModuleCache) (now : Nat) :
    (cache.purge now).counters.expirations =
      cache.counters.expirations + (cache.entries.filter (cache.isExpired now)).length := by
  unfold purge
  generalize cache.entries.filter (cache.isExpired now) = expired
  induction expired generalizing cache with
  | nil => rfl
  | cons entry others ih =>
      rw [List.foldl_cons, ih, List.length_cons]
      simp only [expire]
      omega

theorem accounted_reclaim (nodup : cache.keys.Nodup) (now : Nat) :
    (cache.reclaim now).accounted = cache.accounted := by
  have evictions := cache.evictions_reclaim now
  unfold reclaim at evictions ⊢
  split
  · rename_i full
    rw [if_pos full] at evictions
    have parts := List.length_eq_length_filter_add (l := cache.entries) (cache.isExpired now)
    rw [accounted, evictions, expirations_purge, entries_purge nodup, live, accounted]
    omega
  · rfl

theorem Coherent.accounted_evict (coherent : cache.Coherent) {victim : Path} {policy : Policy}
    (chosen : cache.policy.evict? = some (victim, policy)) (held : victim.key ∈ cache.keys) :
    (cache.evict victim policy).accounted = cache.accounted := by
  have shorter := (coherent.evict chosen).2
  have counted : (cache.evict victim policy).counters =
      { cache.counters with evictions := cache.counters.evictions + 1 } := by
    rw [ModuleCache.evict, if_pos ((cache.isSome_find?_iff victim).mpr held)]
  simp only [accounted, counted]
  omega

theorem accounted_insert (cache : ModuleCache) (now : Nat) (stored : CachedModule) :
    (cache.insert now stored).accounted = cache.accounted + 1 := by
  simp only [accounted, insert, List.length_append, List.length_singleton]
  omega

theorem accounted_replace (cache : ModuleCache) (now : Nat) (stored : CachedModule) :
    (cache.replace now stored).accounted = cache.accounted := by
  simp only [accounted, replace, List.length_map]

/-! One operation each. -/

theorem Coherent.accounted_put (coherent : cache.Coherent) (now : Nat) (stored : CachedModule) :
    (cache.put now stored).accounted =
      cache.accounted + if (cache.find? stored.key).isSome then 0 else 1 := by
  by_cases held : stored.key.key ∈ cache.keys
  · rw [put_of_held held, accounted_replace, if_pos ((cache.isSome_find?_iff _).mpr held)]
    rfl
  · rw [put_of_new held, accounted_insert, if_neg (by rwa [isSome_find?_iff])]
    obtain ⟨_, same, _⟩ | ⟨victim, policy, overflows, _, same⟩ := coherent.room_or_overflow now
    · rw [same, accounted_reclaim coherent.nodup]
    · rw [same, coherent.accounted_evict overflows.chosen overflows.held]

theorem accounted_get (nodup : cache.keys.Nodup) (now : Nat) (path : Path) :
    (cache.get now path).2.accounted = cache.accounted := by
  obtain ⟨_, same⟩ | ⟨_, found, _, same⟩ | ⟨_, _, _, same⟩ := cache.get_cases now path
  · rw [same]
    rfl
  · rw [same]
    exact accounted_expire nodup (mem_keys_of_find? found)
  · rw [same]
    rfl

theorem accounted_remove (nodup : cache.keys.Nodup) (path : Path) :
    (cache.remove path).2.accounted + (if (cache.remove path).1.isSome then 1 else 0) =
      cache.accounted := by
  unfold remove
  cases found : cache.find? path with
  | none => rfl
  | some entry =>
      have shorter := length_without nodup (mem_keys_of_find? found)
      simp only [accounted, Option.isSome_some, if_true]
      omega

theorem accounted_clear (cache : ModuleCache) :
    cache.clear.accounted + cache.entries.length = cache.accounted := by
  simp only [accounted, clear, List.length_nil]
  omega

theorem lookups_remove (cache : ModuleCache) (path : Path) :
    (cache.remove path).2.counters = cache.counters := by
  unfold remove
  split <;> rfl

end ModuleCache

namespace Cache

open ModuleCache

structure Balanced (past : List Step) (cache : ModuleCache) : Prop where
  lookups : cache.counters.hits + cache.counters.misses = past.countP Step.looksUp
  found : cache.counters.hits = past.countP Step.finds
  entries : past.countP Step.admitsNew =
    cache.accounted + past.countP Step.takesOut + (past.map Step.dropped).sum

namespace Balanced

variable {past : List Step} {state : Clocked}

theorem of_new {capacity : Nat} {kind : EvictionKind} {lifetime : Option Nat} {fresh : ModuleCache}
    {allocator : Allocator}
    (made : ModuleCache.new allocator capacity kind lifetime = .ok fresh) : Balanced [] fresh := by
  obtain ⟨_, _, rfl⟩ := new_eq_ok made
  exact ⟨rfl, rfl, rfl⟩

/-- A step that is none of lookup, admission, removal and clear goes into no book. -/
theorem pause (balanced : Balanced past state.cache) {step : Step} {next : ModuleCache}
    (quiet : step.looksUp = false ∧ step.finds = false ∧ step.admitsNew = false ∧
      step.takesOut = false ∧ step.dropped = 0)
    (counters : next.counters = state.cache.counters)
    (entries : next.entries = state.cache.entries) : Balanced (step :: past) next := by
  obtain ⟨looksUp, finds, admitsNew, takesOut, dropped⟩ := quiet
  refine ⟨?_, ?_, ?_⟩
  · simpa [looksUp, counters] using balanced.lookups
  · simpa [finds, counters] using balanced.found
  · simpa [admitsNew, takesOut, dropped, accounted, counters, entries] using balanced.entries

theorem put (balanced : Balanced past state.cache) (coherent : state.cache.Coherent)
    (stored : CachedModule) :
    Balanced (⟨state, .put stored⟩ :: past) (state.cache.put state.now stored) := by
  have accounted := coherent.accounted_put state.now stored
  have entries := balanced.entries
  refine ⟨?_, ?_, ?_⟩
  · simpa [coherent.hits_put, coherent.misses_put, Step.looksUp] using balanced.lookups
  · simpa [coherent.hits_put, Step.finds] using balanced.found
  · rw [accounted]
    cases held : (state.cache.find? stored.key).isSome <;>
      simp [Step.admitsNew, Step.admitted?, Step.takesOut, Step.dropped, held] <;> omega

theorem get (balanced : Balanced past state.cache) (coherent : state.cache.Coherent)
    (path : Path) : Balanced (⟨state, .get path⟩ :: past) (state.cache.get state.now path).2 := by
  obtain ⟨hits, lookups⟩ := lookups_get state.cache state.now path
  have accounted := accounted_get coherent.nodup state.now path
  refine ⟨?_, ?_, ?_⟩
  · rw [lookups, balanced.lookups, List.countP_cons]
    rfl
  · rw [hits, balanced.found, List.countP_cons]
    rfl
  · rw [accounted]
    simpa [Step.admitsNew, Step.admitted?, Step.takesOut, Step.dropped] using balanced.entries

theorem remove (balanced : Balanced past state.cache) (coherent : state.cache.Coherent)
    (path : Path) : Balanced (⟨state, .remove path⟩ :: past) (state.cache.remove path).2 := by
  have accounted := accounted_remove coherent.nodup path
  have entries := balanced.entries
  refine ⟨?_, ?_, ?_⟩
  · simpa [lookups_remove, Step.looksUp] using balanced.lookups
  · simpa [lookups_remove, Step.finds] using balanced.found
  · cases taken : (state.cache.remove path).1.isSome <;>
      simp [Step.admitsNew, Step.admitted?, Step.takesOut, Step.dropped, taken] at accounted ⊢ <;>
      omega

theorem clear (balanced : Balanced past state.cache) :
    Balanced (⟨state, .clear⟩ :: past) state.cache.clear := by
  have accounted := accounted_clear state.cache
  have entries := balanced.entries
  refine ⟨?_, ?_, ?_⟩
  · simpa [ModuleCache.clear, Step.looksUp] using balanced.lookups
  · simpa [ModuleCache.clear, Step.finds] using balanced.found
  · simp [Step.admitsNew, Step.admitted?, Step.takesOut, Step.dropped]
    omega

theorem apply (balanced : Balanced past state.cache) (coherent : state.cache.Coherent)
    (operation : Operation) :
    Balanced (⟨state, operation⟩ :: past) (state.apply operation).cache := by
  cases operation with
  | put stored => exact balanced.put coherent stored
  | get path => exact balanced.get coherent path
  | remove path => exact balanced.remove coherent path
  | clear => exact balanced.clear
  | contains path => exact balanced.pause ⟨rfl, rfl, rfl, rfl, rfl⟩ rfl rfl
  | advance milliseconds => exact balanced.pause ⟨rfl, rfl, rfl, rfl, rfl⟩ rfl rfl
  | reorder order => exact balanced.pause ⟨rfl, rfl, rfl, rfl, rfl⟩ rfl rfl

theorem run (balanced : Balanced [] state.cache) (coherent : state.cache.Coherent)
    (operations : List Operation) :
    Balanced (state.past operations) (state.run operations).cache := by
  induction operations using List.reverseRecOn with
  | nil => exact balanced
  | append_singleton earlier operation ih =>
      rw [Clocked.run_concat, Clocked.past_concat]
      exact ih.apply (Clocked.run_coherent earlier state coherent).1 operation

end Balanced

namespace Clocked

/-- After any run every lookup is counted as a hit or a miss, the hits being those that returned a
module, and every entry that was admitted is held or counted at the one exit by which it left. -/
theorem run_balances {capacity : Nat} {kind : EvictionKind} {lifetime : Option Nat}
    {fresh : ModuleCache} {allocator : Allocator}
    (made : ModuleCache.new allocator capacity kind lifetime = .ok fresh)
    (start : Nat) (operations : List Operation) :
    let initial := Clocked.mk fresh start
    let cache := (initial.run operations).cache
    let past := initial.past operations
    cache.counters.hits + cache.counters.misses = past.countP Step.looksUp ∧
      cache.counters.hits = past.countP Step.finds ∧
      past.countP Step.admitsNew =
        cache.entries.length + cache.counters.evictions + cache.counters.expirations +
          past.countP Step.takesOut + (past.map Step.dropped).sum := by
  intro initial cache past
  have coherent : initial.cache.Coherent := (Coherent.of_new made).1
  have unused : Balanced [] initial.cache := .of_new made
  have balanced := unused.run coherent operations
  exact ⟨balanced.lookups, balanced.found, balanced.entries⟩

/-- One entry leaves by each exit: the first is evicted, the second expires on lookup and the third
when room is needed, the fourth is removed, and the fifth is dropped. -/
theorem run_balances_every_exit :
    let path (byte : UInt8) : Path := ⟨[byte]⟩
    let module (byte : UInt8) : CachedModule := ⟨path byte, .wasmtime, [], ""⟩
    let fresh : ModuleCache := ⟨2, some 5, .lru .empty, [], .zero⟩
    let operations := [.put (module 1), .put (module 2), .get (path 2), .put (module 3), .advance 5,
      .get (path 2), .put (module 4), .advance 1, .put (module 5), .remove (path 4), .clear,
      .put (module 6)]
    let cache := ((Clocked.mk fresh 0).run operations).cache
    let past := (Clocked.mk fresh 0).past operations
    ModuleCache.new .generous 2 .lru (some 5) = .ok fresh ∧
      cache.counters = ⟨1, 1, 1, 2⟩ ∧ past.countP Step.looksUp = 2 ∧
      past.countP Step.admitsNew = 6 ∧ cache.entries.length = 1 ∧
      past.countP Step.takesOut = 1 ∧ (past.map Step.dropped).sum = 1 := by
  intro path module fresh operations cache past
  have made : ModuleCache.new .generous 2 .lru (some 5) = .ok fresh := rfl
  have counters : cache.counters = ⟨1, 1, 1, 2⟩ := by cbv
  have entries : cache.entries.length = 1 := by cbv
  have removed : past.countP Step.takesOut = 1 := by cbv
  have cleared : (past.map Step.dropped).sum = 1 := by cbv
  obtain ⟨lookups, _, admitted⟩ := run_balances made 0 operations
  refine ⟨made, counters, lookups.symm.trans ?_, admitted.trans ?_, entries, removed, cleared⟩
  · change cache.counters.hits + cache.counters.misses = 2
    rw [counters]
    rfl
  · change cache.entries.length + cache.counters.evictions + cache.counters.expirations +
      past.countP Step.takesOut + (past.map Step.dropped).sum = 6
    rw [counters, entries, removed, cleared]
    rfl

end Clocked

end Cache

end WasmTasks
