import WasmTasks.Proofs.Cache.Presence
import WasmTasks.Proofs.Cache.Warming

/-!
What a warm-up leaves in the cache. A warmed module is held as long as no later put of the warm-up
evicts it. None does if there is room for the warmed modules beside the other live entries, and none
does in a least recently used cache: while one of the warmed modules is the next victim, nothing else
is held. The policies that count uses give up a warmed module sooner than an entry that was used.
-/

namespace WasmTasks

namespace Cache

theorem Step.evicts_congr {step : Step} {path other : Path} (same : path.Same other) :
    step.Evicts path ↔ step.Evicts other := by
  constructor
  · intro ⟨victim, evicted, own⟩
    exact ⟨victim, evicted, own.trans same⟩
  · intro ⟨victim, evicted, own⟩
    exact ⟨victim, evicted, own.trans same.symm⟩

namespace Clocked

open ModuleCache

variable {state : Clocked} {past : List Step} {modules : List CachedModule}

/-- The modules put in turn, at one moment. -/
def putEach (state : Clocked) (modules : List CachedModule) : Clocked :=
  state.run (modules.map .put)

theorem putEach_concat (state : Clocked) (modules : List CachedModule) (last : CachedModule) :
    state.putEach (modules ++ [last]) = (state.putEach modules).apply (.put last) := by
  rw [putEach, List.map_append]
  exact run_concat state (modules.map .put) (.put last)

theorem putEach_eq (state : Clocked) (modules : List CachedModule) :
    state.putEach modules = ⟨state.cache.putAll (fun _ => state.now) modules, state.now⟩ := by
  induction modules using List.reverseRecOn with
  | nil => rfl
  | append_singleton earlier last ih => rw [putEach_concat, ih, apply, putAll_concat]

theorem putEach_append (state : Clocked) (first second : List CachedModule) :
    state.putEach (first ++ second) = (state.putEach first).putEach second := by
  rw [putEach, List.map_append, run, List.foldl_append]
  rfl

theorem coherent_putEach (coherent : state.cache.Coherent) (modules : List CachedModule) :
    (state.putEach modules).cache.Coherent :=
  (run_coherent (modules.map .put) state coherent).1

theorem capacity_putEach (coherent : state.cache.Coherent) (modules : List CachedModule) :
    (state.putEach modules).cache.capacity = state.cache.capacity :=
  (run_coherent (modules.map .put) state coherent).2

theorem lifetime_putEach (coherent : state.cache.Coherent) (modules : List CachedModule) :
    (state.putEach modules).cache.lifetime = state.cache.lifetime :=
  lifetime_run coherent (modules.map .put)

/-- The puts of the modules, each with the state it is made in. -/
def puts (state : Clocked) (modules : List CachedModule) : List Step :=
  state.steps (modules.map .put)

theorem puts_concat (state : Clocked) (modules : List CachedModule) (last : CachedModule) :
    state.puts (modules ++ [last]) =
      state.puts modules ++ [⟨state.putEach modules, .put last⟩] := by
  rw [puts, List.map_append]
  exact steps_concat state (modules.map .put) (.put last)

/-! What is live after the puts. -/

def Holds (state : Clocked) (path : Path) : Prop :=
  ∃ entry ∈ state.live, entry.stored.key.Same path

theorem holds_iff (coherent : state.cache.Coherent) (path : Path) :
    state.cache.contains state.now path = true ↔ state.Holds path :=
  contains_iff coherent.nodup

theorem mem_live_put (coherent : state.cache.Coherent) (endures : state.cache.lifetime ≠ some 0)
    {stored : CachedModule} {entry : Entry} :
    entry ∈ (state.apply (.put stored)).live ↔
      entry = ⟨stored, state.now⟩ ∨
        entry ∈ state.live ∧ Step.Spares ⟨state, .put stored⟩ entry.stored.key := by
  have here : (state.apply (.put stored)).now = state.now := rfl
  rw [mem_live_apply coherent, Step.brings_put, here]
  refine and_iff_left_of_imp fun found => ?_
  obtain same | ⟨member, _⟩ := found
  · rw [same]
    exact isExpired_self endures stored
  · exact (ModuleCache.mem_live.mp member).2

theorem holds_put (coherent : state.cache.Coherent) (endures : state.cache.lifetime ≠ some 0)
    (stored : CachedModule) : (state.apply (.put stored)).Holds stored.key :=
  ⟨⟨stored, state.now⟩, (mem_live_put coherent endures).mpr (.inl rfl), Path.Same.refl _⟩

theorem holds_put_iff (coherent : state.cache.Coherent) (endures : state.cache.lifetime ≠ some 0)
    {stored : CachedModule} {path : Path} (apart : ¬ stored.key.Same path) :
    (state.apply (.put stored)).Holds path ↔
      state.Holds path ∧ ¬ Step.Evicts ⟨state, .put stored⟩ path := by
  constructor
  · intro ⟨entry, member, same⟩
    obtain own | ⟨known, spares⟩ := (mem_live_put coherent endures).mp member
    · rw [own] at same
      exact absurd same apart
    · refine ⟨⟨entry, known, same⟩, ?_⟩
      exact fun evicts => spares.notEvicted ((Step.evicts_congr same).mpr evicts)
  · intro ⟨⟨entry, known, same⟩, notEvicted⟩
    have spares : Step.Spares ⟨state, .put stored⟩ entry.stored.key := by
      refine ⟨fun puts => apart (Path.Same.trans puts same), id, fun evicts => ?_⟩
      exact notEvicted ((Step.evicts_congr same).mp evicts)
    exact ⟨entry, (mem_live_put coherent endures).mpr (.inr ⟨known, spares⟩), same⟩

/-- A held key that is not put again is held until it is evicted. -/
theorem holds_putEach_iff (coherent : state.cache.Coherent)
    (endures : state.cache.lifetime ≠ some 0) {path : Path} (holds : state.Holds path)
    (apart : ∀ stored ∈ modules, ¬ stored.key.Same path) :
    (state.putEach modules).Holds path ↔ ∀ step ∈ state.puts modules, ¬ step.Evicts path := by
  induction modules using List.reverseRecOn with
  | nil => exact iff_of_true holds nofun
  | append_singleton earlier last ih =>
      rw [List.forall_mem_append, List.forall_mem_singleton] at apart
      have stillEndures : (state.putEach earlier).cache.lifetime ≠ some 0 := by
        rwa [lifetime_putEach coherent]
      rw [putEach_concat, puts_concat, List.forall_mem_append, List.forall_mem_singleton,
        holds_put_iff (coherent_putEach coherent earlier) stillEndures apart.2, ih apart.1]

theorem holds_of_spared (coherent : state.cache.Coherent)
    (endures : state.cache.lifetime ≠ some 0)
    (spared : ∀ before stored later, modules = before ++ stored :: later → ∀ other ∈ before,
      ¬ Step.Evicts ⟨state.putEach before, .put stored⟩ other.key) :
    ∀ stored ∈ modules, (state.putEach modules).Holds stored.key := by
  induction modules using List.reverseRecOn with
  | nil => exact nofun
  | append_singleton earlier last ih =>
      have reached := coherent_putEach coherent earlier
      have stillEndures : (state.putEach earlier).cache.lifetime ≠ some 0 := by
        rwa [lifetime_putEach coherent]
      have held := ih fun before stored later same =>
        spared before stored (later ++ [last]) (by simp [same])
      have newest := holds_put reached stillEndures last
      rw [putEach_concat, List.forall_mem_append, List.forall_mem_singleton]
      refine ⟨fun stored member => ?_, newest⟩
      by_cases again : last.key.Same stored.key
      · obtain ⟨entry, live, same⟩ := newest
        exact ⟨entry, live, same.trans again⟩
      · rw [holds_put_iff reached stillEndures again]
        exact ⟨held stored member, spared earlier last [] rfl stored member⟩

/-! Where there is room. -/

/-- The live entries under other keys than these. -/
def beside (state : Clocked) (paths : List Path) : List Entry :=
  state.live.filter fun entry => ∀ path ∈ paths, ¬ entry.stored.key.Same path

theorem live_putEach (coherent : state.cache.Coherent) (endures : state.cache.lifetime ≠ some 0)
    (modules : List CachedModule) : ∀ entry ∈ (state.putEach modules).live,
      entry ∈ state.live ∨ ∃ stored ∈ modules, entry.stored.key.Same stored.key := by
  induction modules using List.reverseRecOn with
  | nil =>
      intro entry member
      exact .inl member
  | append_singleton earlier last ih =>
      intro entry member
      have stillEndures : (state.putEach earlier).cache.lifetime ≠ some 0 := by
        rwa [lifetime_putEach coherent]
      rw [putEach_concat, mem_live_put (coherent_putEach coherent earlier) stillEndures] at member
      obtain own | ⟨known, _⟩ := member
      · refine .inr ⟨last, List.mem_append_right _ List.mem_cons_self, ?_⟩
        rw [own]
        exact Path.Same.refl _
      · refine (ih entry known).imp_right fun ⟨stored, put, same⟩ => ?_
        exact ⟨stored, List.mem_append_left _ put, same⟩

theorem length_entries_le {cache : ModuleCache} (coherent : cache.Coherent)
    {keys : List (List Component)} (among : cache.keys ⊆ keys) :
    cache.entries.length ≤ keys.length := by
  rw [← length_keys]
  exact (List.subperm_of_subset coherent.nodup among).length_le

/-- With room for all the modules beside the other live entries, no put evicts anything. -/
theorem not_evicts_of_room (coherent : state.cache.Coherent)
    (endures : state.cache.lifetime ≠ some 0)
    (room : (state.beside (modules.map CachedModule.key)).length + modules.length ≤
      state.cache.capacity)
    {before later : List CachedModule} {stored : CachedModule}
    (parts : modules = before ++ stored :: later) (path : Path) :
    ¬ Step.Evicts ⟨state.putEach before, .put stored⟩ path := by
  let current := state.putEach before
  let own := Path.keys (modules.map CachedModule.key)
  let others := (state.beside (modules.map CachedModule.key)).map fun entry => entry.stored.key.key
  have reached : current.cache.Coherent := coherent_putEach coherent before
  have member : stored.key.key ∈ own := by
    simp [own, Path.keys, parts]
  rintro ⟨victim, evicted, _⟩
  obtain ⟨absent, full, fresh⟩ :=
    (reached.displaced_ne_nil_iff current.now stored).mp (List.ne_nil_of_mem evicted)
  -- every key that is held is one of the others, or is to be warmed and is not the key being put
  have among : current.cache.keys ⊆ others ++ own.erase stored.key.key := by
    intro key held
    obtain ⟨path, pathMember, rfl⟩ := List.mem_map.mp held
    obtain ⟨entry, entryMember, rfl⟩ := List.mem_map.mp pathMember
    have live : entry ∈ current.live :=
      ModuleCache.mem_live.mpr ⟨entryMember, fresh entry entryMember⟩
    have different : entry.stored.key.key ≠ stored.key.key := fun same =>
      (find?_eq_none_iff _ _).mp absent (same ▸ held)
    by_cases warmed : ∃ path ∈ modules.map CachedModule.key, entry.stored.key.Same path
    · obtain ⟨path, given, same⟩ := warmed
      refine List.mem_append_right _ ((List.mem_erase_of_ne different).mpr ?_)
      exact (Path.mem_keys _ _).mpr ⟨path, given, same.symm⟩
    · refine List.mem_append_left _ (List.mem_map_of_mem (List.mem_filter.mpr ⟨?_, ?_⟩))
      · refine (live_putEach coherent endures before entry live).resolve_right ?_
        rintro ⟨other, put, same⟩
        refine warmed ⟨other.key, ?_, same⟩
        rw [parts, List.map_append]
        exact List.mem_append_left _ (List.mem_map_of_mem put)
      · simpa using warmed
  have counted := length_entries_le reached among
  have capacity : current.cache.capacity = state.cache.capacity := capacity_putEach coherent before
  have positive := List.length_pos_of_mem member
  rw [List.length_append, List.length_erase_of_mem member] at counted
  simp only [others, own, Path.keys, List.length_map] at counted positive
  omega

/-! In a least recently used cache. -/

/-- After the puts, the keys that were put are those used less than so many steps ago. -/
theorem Recent.putEach (recent : Recent past state) (modules : List CachedModule) :
    ∃ since, Recent since (state.putEach modules) ∧ ∀ path,
      History.idle since path < modules.length ↔ ∃ stored ∈ modules, stored.key.Same path := by
  induction modules using List.reverseRecOn with
  | nil => exact ⟨past, recent, fun path => by simp⟩
  | append_singleton earlier last ih =>
      obtain ⟨since, reached, used⟩ := ih
      refine ⟨⟨state.putEach earlier, .put last⟩ :: since, ?_, ?_⟩
      · rw [putEach_concat]
        exact reached.apply (.put last)
      · intro path
        rw [History.idle_cons, touches_put, List.length_append, List.length_singleton]
        by_cases same : last.key.Same path
        · simp [same]
        · simp [same, ← used path]

/-- While a key that was just put is the next victim, only such keys are held. -/
theorem Recent.not_evicts (recent : Recent past state)
    (fits : modules.length ≤ state.cache.capacity) {before later : List CachedModule}
    {stored : CachedModule} (parts : modules = before ++ stored :: later) {other : CachedModule}
    (member : other ∈ before) : ¬ Step.Evicts ⟨state.putEach before, .put stored⟩ other.key := by
  let current := state.putEach before
  obtain ⟨since, reached, used⟩ := recent.putEach before
  intro ⟨victim, evicted, same⟩
  change victim ∈ current.cache.displaced current.now stored at evicted
  obtain ⟨none, _⟩ | ⟨chosen, policy, _, overflows, only, _⟩ :=
    reached.coherent.displaced_cases current.now stored
  · rw [none] at evicted
    cases evicted
  · rw [only, List.mem_singleton] at evicted
    subst evicted
    have young : History.idle since victim < before.length :=
      (used victim).mpr ⟨other, member, same.symm⟩
    -- every other held key was used after the victim, so it was put as well
    have among : current.cache.keys ⊆ Path.keys (before.map CachedModule.key) := by
      intro key held
      obtain ⟨path, pathMember, rfl⟩ := List.mem_map.mp held
      obtain ⟨entry, entryMember, rfl⟩ := List.mem_map.mp pathMember
      have recently : History.idle since entry.stored.key < before.length := by
        by_cases own : entry.stored.key.Same victim
        · rwa [History.idle_congr own]
        · have older := reached.coherent.idle_lt_victim reached.kind reached.ranked
            overflows.chosen entry entryMember own
          omega
      obtain ⟨put, putMember, own⟩ := (used entry.stored.key).mp recently
      exact (Path.mem_keys _ _).mpr ⟨put.key, List.mem_map_of_mem putMember, own⟩
    have counted : current.cache.entries.length ≤ _ := length_entries_le reached.coherent among
    have capacity : current.cache.capacity = state.cache.capacity :=
      capacity_putEach recent.coherent before
    have full : current.cache.entries.length = current.cache.capacity := overflows.full
    have longer := congrArg List.length parts
    simp only [Path.keys, List.length_map] at counted
    simp only [List.length_append, List.length_cons] at longer
    omega

/-- A warm-up that succeeds has put every module it found, and their number is its answer. The
module put last under its key is held if and only if none of the puts after it evicts it. All of them
are held if the cache is a least recently used one, or if there is room for them beside the other
live entries. -/
theorem warm_holds_unless_evicted {capacity : Nat} {kind : EvictionKind} {lifetime : Option Nat}
    {fresh : ModuleCache} {allocator : Allocator}
    (made : ModuleCache.new allocator capacity kind lifetime = .ok fresh)
    (start : Nat) (operations : List Operation) (loader : KeyedLoader) (tree : FileTree)
    (dir : Path) :
    let reached := (Clocked.mk fresh start).run operations
    ∀ count warmed,
      reached.cache.warm loader.load (tree.discover dir) (fun _ => reached.now) =
        (.ok count, warmed) →
      ∃ paths modules, tree.discover dir = .ok paths ∧ count = paths.length ∧
        Loader.Makes loader.load paths modules ∧ modules.map CachedModule.key = paths ∧
        (∀ before stored later, modules = before ++ stored :: later →
          (∀ other ∈ later, ¬ other.key.Same stored.key) →
          (warmed.contains reached.now stored.key = true ↔
            ∀ step ∈ (reached.putEach (before ++ [stored])).puts later,
              ¬ step.Evicts stored.key)) ∧
        (kind = .lru ∨ (reached.beside paths).length + count ≤ capacity →
          ∀ path ∈ paths, warmed.contains reached.now path = true) := by
  intro reached count warmed answer
  obtain ⟨paths, modules, scanned, fits, loaded, counted, rfl⟩ := warm_eq_ok_iff.mp answer
  have keyed : modules.map CachedModule.key = paths := loader.map_key_of_makes loaded
  have freshCoherent : fresh.Coherent := (Coherent.of_new made).1
  have coherent : reached.cache.Coherent := (run_coherent operations ⟨fresh, start⟩ freshCoherent).1
  have endures : reached.cache.lifetime ≠ some 0 := by
    obtain ⟨_, endures, unused⟩ := new_eq_ok made
    rw [lifetime_run freshCoherent operations, unused]
    exact endures
  let after := reached.cache.putAll (fun _ => reached.now) modules
  have holds (path : Path) :
      after.contains reached.now path = true ↔ (reached.putEach modules).Holds path := by
    rw [← holds_iff (coherent_putEach coherent modules), putEach_eq]
  have sameCapacity : reached.cache.capacity = capacity :=
    (run_coherent operations ⟨fresh, start⟩ freshCoherent).2.trans (Coherent.of_new made).2
  have holdsAll (spared : ∀ before stored later, modules = before ++ stored :: later →
      ∀ other ∈ before, ¬ Step.Evicts ⟨reached.putEach before, .put stored⟩ other.key) :
      ∀ path ∈ paths, after.contains reached.now path = true := by
    rw [← keyed, List.forall_mem_map]
    intro stored member
    rw [holds]
    exact holds_of_spared coherent endures spared stored member
  refine ⟨paths, modules, scanned, counted, loaded, keyed, ?_, ?_⟩
  · intro before stored later parts apart
    have earlier := coherent_putEach coherent before
    have stillEndures : (reached.putEach before).cache.lifetime ≠ some 0 := by
      rwa [lifetime_putEach coherent]
    have next := coherent_putEach coherent (before ++ [stored])
    have nextEndures : (reached.putEach (before ++ [stored])).cache.lifetime ≠ some 0 := by
      rwa [lifetime_putEach coherent]
    have held : (reached.putEach (before ++ [stored])).Holds stored.key := by
      rw [putEach_concat]
      exact holds_put earlier stillEndures stored
    rw [holds, ← holds_putEach_iff next nextEndures held apart, ← putEach_append, parts,
      List.append_assoc, List.singleton_append]
  · intro condition
    obtain lru | room := condition
    · have recent : Recent ((Clocked.mk fresh start).past operations) reached := by
        obtain ⟨_, _, unused⟩ := new_eq_ok made
        refine ⟨coherent, endures, ?_, ranked_run freshCoherent ?_ operations⟩
        · rw [kind_run freshCoherent, unused, Policy.kind_empty, lru]
        · rw [unused]
          exact Policy.ranked_empty kind capacity
      rw [loaded.length_eq] at fits
      exact holdsAll fun before stored later parts other member =>
        recent.not_evicts fits parts member
    · rw [counted, loaded.length_eq, ← keyed, ← sameCapacity] at room
      exact holdsAll fun before stored later parts other _ =>
        not_evicts_of_room coherent endures room parts other.key

/-! Two modules in a directory. -/

theorem discover_pair (content : Bytes) :
    let files := [(Text.Utf8.encode "a.wasm", .file content),
      (Text.Utf8.encode "b.wasm", .file content)]
    let tree : FileTree := ⟨[(Text.Utf8.encode "m", .directory files)], .root⟩
    tree.discover "m" = .ok [.ofString "m/a.wasm", .ofString "m/b.wasm"] := by
  intro files tree
  have located : tree.locate "m" = .ok (.directory ⟨[Text.Utf8.encode "m"]⟩ files) := by cbv
  let contents := [(Text.Utf8.encode "a.wasm", content), (Text.Utf8.encode "b.wasm", content)]
  have children : contents.map (fun file => Path.child "m" file.1) =
      [.ofString "m/a.wasm", .ofString "m/b.wasm"] := rfl
  rw [← children]
  apply FileTree.discover_of_files located
  · simp only [contents, List.forall_mem_cons]
    decide
  · rw [children, Path.Ordered, List.pairwise_pair]
    decide

theorem makes_pair :
    let files := [(Text.Utf8.encode "a.wasm", .file Description.shortest),
      (Text.Utf8.encode "b.wasm", .file Description.shortest)]
    let tree : FileTree := ⟨[(Text.Utf8.encode "m", .directory files)], .root⟩
    Loader.Makes ((Description.machine []).loadModule tree) ["m/a.wasm", "m/b.wasm"]
      [Description.shortestAt "m/a.wasm", Description.shortestAt "m/b.wasm"] := by
  intro files tree
  refine .cons (Description.loadModule_shortest ?_) (.cons (Description.loadModule_shortest ?_) .nil)
  · cbv
  · cbv

/-- Both modules are held, though the entry that they take the slots of was used. -/
theorem warm_holds_unless_evicted_lru :
    let files := [(Text.Utf8.encode "a.wasm", .file Description.shortest),
      (Text.Utf8.encode "b.wasm", .file Description.shortest)]
    let tree : FileTree := ⟨[(Text.Utf8.encode "m", .directory files)], .root⟩
    let load := (Description.machine []).loadModule tree
    let used : CachedModule := ⟨"x", .wasmtime, [], ""⟩
    let fresh : ModuleCache := ⟨2, some 5, .lru .empty, [], .zero⟩
    let reached := (Clocked.mk fresh 0).run [.put used, .get "x"]
    ModuleCache.new .generous 2 .lru (some 5) = .ok fresh ∧
      ∃ warmed, reached.cache.warm load (tree.discover "m") (fun _ => reached.now) =
          (.ok 2, warmed) ∧
        warmed.contains reached.now "m/a.wasm" = true ∧
        warmed.contains reached.now "m/b.wasm" = true := by
  intro files tree load used fresh reached
  let modules := [Description.shortestAt "m/a.wasm", Description.shortestAt "m/b.wasm"]
  have made : ModuleCache.new .generous 2 .lru (some 5) = .ok fresh := rfl
  have scanned : tree.discover "m" = .ok ["m/a.wasm", "m/b.wasm"] :=
    discover_pair Description.shortest
  have capacity : reached.cache.capacity = 2 := (run_coherent _ _ (Coherent.of_new made).1).2
  have answer : reached.cache.warm load (tree.discover "m") (fun _ => reached.now) =
      (.ok 2, reached.cache.putAll (fun _ => reached.now) modules) := by
    rw [scanned]
    exact warm_of_makes (by rw [capacity]; exact Nat.le_refl 2) makes_pair
  obtain ⟨paths, _, found, _, _, _, _, held⟩ := warm_holds_unless_evicted made 0
    [.put used, .get "x"] ((Description.machine []).loader tree) tree "m" 2 _ answer
  cases scanned.symm.trans found
  have both := held (.inl rfl)
  simp only [List.forall_mem_cons] at both
  exact ⟨made, _, answer, both.1, both.2.1⟩

/-- The only free slot is taken by each of the new modules in turn. -/
theorem putAll_beside_used {used first second : CachedModule} {now : Nat} {counters : Counters}
    (usedFirst : ¬ used.key.Same first.key) (usedSecond : ¬ used.key.Same second.key)
    (apart : ¬ first.key.Same second.key) :
    let cache : ModuleCache := ⟨2, none, .lfu ⟨[⟨used.key, 1, 0⟩], 1⟩, [⟨used, 0⟩], counters⟩
    (cache.putAll (fun _ => now) [first, second]).entries = [⟨used, 0⟩, ⟨second, now⟩] := by
  intro cache
  let next : ModuleCache := ⟨2, none, .lfu ⟨[⟨used.key, 1, 0⟩, ⟨first.key, 0, 1⟩], 2⟩,
    [⟨used, 0⟩, ⟨first, now⟩], counters⟩
  let rest : Policy := .lfu ⟨[⟨used.key, 1, 0⟩], 2⟩
  have put : cache.put now first = next := by
    simp [put, find?, cache, next, usedFirst, makeRoom, ModuleCache.insert, Policy.add, Lfu.add]
  have new : second.key.key ∉ next.keys := by
    rw [← find?_eq_none_iff]
    simp [next, find?, usedSecond, apart]
  have chosen : next.policy.evict? = some (first.key, rest) := by
    simp [next, rest, Policy.evict?, Lfu.evict?, Lfu.least?, Lfu.Entry.before, Lfu.remove,
      usedFirst, Path.Same.refl]
  have evicted : (next.evict first.key rest).entries = [⟨used, 0⟩] := by
    simp [next, evict, find?, without, usedFirst, Path.Same.refl]
  have room : next.makeRoom = next.evict first.key rest := by
    rw [makeRoom_of_chosen (Nat.le_refl 2) chosen, makeRoom_of_fits]
    rw [evicted, capacity_evict]
    exact Nat.one_lt_two
  rw [putAll, putAll, putAll, put, put_of_new new, reclaim_of_fresh fun _ _ => rfl, room,
    ModuleCache.insert, evicted]
  rfl

/-- A module that was used once keeps its slot, and so the first of two warmed modules is gone
before the warm-up ends. -/
theorem warm_evicts_what_it_warmed :
    let files := [(Text.Utf8.encode "a.wasm", .file Description.shortest),
      (Text.Utf8.encode "b.wasm", .file Description.shortest)]
    let tree : FileTree := ⟨[(Text.Utf8.encode "m", .directory files)], .root⟩
    let load := (Description.machine []).loadModule tree
    let used : CachedModule := ⟨"x", .wasmtime, [], ""⟩
    let fresh : ModuleCache := ⟨2, none, .lfu .empty, [], .zero⟩
    let reached := (Clocked.mk fresh 0).run [.put used, .get "x"]
    ModuleCache.new .generous 2 .lfu none = .ok fresh ∧
      tree.discover "m" = .ok [.ofString "m/a.wasm", .ofString "m/b.wasm"] ∧
      ∃ warmed, reached.cache.warm load (tree.discover "m") (fun _ => reached.now) =
          (.ok 2, warmed) ∧
        warmed.contains reached.now "m/a.wasm" = false := by
  intro files tree load used fresh reached
  let first := Description.shortestAt "m/a.wasm"
  let second := Description.shortestAt "m/b.wasm"
  let cache : ModuleCache := ⟨2, none, .lfu ⟨[⟨"x", 1, 0⟩], 1⟩, [⟨used, 0⟩], ⟨1, 0, 0, 0⟩⟩
  have same : reached = ⟨cache, 0⟩ := by
    simp [reached, fresh, used, cache, run, apply, put, find?, makeRoom, ModuleCache.insert,
      Policy.add, Lfu.add, Lfu.empty, ModuleCache.get, isExpired, countHit, Policy.touch, Lfu.touch,
      Counters.zero, Path.Same.refl]
  have scanned : tree.discover "m" = .ok ["m/a.wasm", "m/b.wasm"] :=
    discover_pair Description.shortest
  have answer : cache.warm load (tree.discover "m") (fun _ => 0) =
      (.ok 2, cache.putAll (fun _ => 0) [first, second]) := by
    rw [scanned]
    exact warm_of_makes (Nat.le_refl 2) makes_pair
  have usedFirst : ¬ used.key.Same first.key := by decide
  have usedSecond : ¬ used.key.Same second.key := by decide
  have apart : ¬ first.key.Same second.key := by decide
  have entries : (cache.putAll (fun _ => 0) [first, second]).entries = [⟨used, 0⟩, ⟨second, 0⟩] :=
    putAll_beside_used usedFirst usedSecond apart
  have lost : (cache.putAll (fun _ => 0) [first, second]).find? first.key = none := by
    have swapped : ¬ second.key.Same first.key := fun same => apart same.symm
    simp [find?, entries, usedFirst, swapped]
  rw [same]
  refine ⟨rfl, scanned, _, answer, ?_⟩
  change (cache.putAll (fun _ => 0) [first, second]).contains 0 first.key = false
  rw [contains, lost]

end Clocked

end Cache

end WasmTasks
