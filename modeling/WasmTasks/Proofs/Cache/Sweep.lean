import WasmTasks.Proofs.Cache.Resolving

/-!
Passive expiry and a sweep. One cache drops expired entries when it comes across them, the other one
drops each entry at the moment it expires. Tasks that resolve their modules cannot tell which of the
two they use: at any time the second is the first one purged.
-/

namespace WasmTasks

namespace Cache

/-- A resolution, whose load may be any, or time that passes. -/
inductive Visit where
  | resolve (loader : KeyedLoader) (path : Path)
  | advance (milliseconds : Nat)

namespace Clocked

open ModuleCache

variable {state : Clocked}

def wait (milliseconds : Nat) (state : Clocked) : Clocked :=
  state.apply (.advance milliseconds)

/-- A millisecond passes, and what has expired by then leaves at once. -/
def tick (state : Clocked) : Clocked :=
  ⟨state.cache.purge (state.now + 1), state.now + 1⟩

def sweep (milliseconds : Nat) (state : Clocked) : Clocked :=
  tick^[milliseconds] state

section Visiting

variable (pass : Nat → Clocked → Clocked)

def visit (state : Clocked) : Visit → Clocked
  | .resolve loader path => (state.resolve loader.load path).2
  | .advance milliseconds => pass milliseconds state

def answer? (state : Clocked) : Visit → Option (Except DriverError CachedModule)
  | .resolve loader path => some (state.resolve loader.load path).1
  | .advance _ => none

def visitAll (state : Clocked) (visits : List Visit) : Clocked :=
  visits.foldl (visit pass) state

def answers (state : Clocked) : List Visit → List (Option (Except DriverError CachedModule))
  | [] => []
  | first :: later => state.answer? first :: (state.visit pass first).answers later

end Visiting

def swept (state : Clocked) : Clocked :=
  { state with cache := state.cache.purge state.now }

/-! One visit. -/

theorem looked_swept (coherent : state.cache.Coherent) (path : Path) :
    state.swept.looked path = (state.looked path).swept := by
  simp only [looked, swept, coherent.get_purge state.now path]

theorem answered_swept (coherent : state.cache.Coherent) (path : Path) :
    (state.swept.cache.get state.swept.now path).1 = (state.cache.get state.now path).1 :=
  congrArg (fun answer => answer.1) (coherent.get_purge state.now path)

theorem stored_swept (coherent : state.cache.Coherent) (endures : state.cache.lifetime ≠ some 0)
    {module : CachedModule} (new : module.key.key ∉ state.cache.keys) :
    state.swept.stored module = (state.stored module).swept := by
  simp only [stored, swept, coherent.put_purge endures new]

theorem resolve_swept (loader : KeyedLoader) (coherent : state.cache.Coherent)
    (endures : state.cache.lifetime ≠ some 0) (path : Path) :
    state.swept.resolve loader.load path =
      ((state.resolve loader.load path).1, (state.resolve loader.load path).2.swept) := by
  have looked := looked_swept coherent path
  have answered := answered_swept coherent path
  obtain ⟨module, hit, same⟩ | ⟨missed, ⟨error, failed, same⟩ | ⟨module, loaded, same⟩⟩ :=
    resolve_cases loader.load state path
  · rw [same, resolve_of_hit (answered.trans hit), looked]
  · rw [same, resolve_of_failed (answered.trans missed) failed, looked]
  · have absent : module.key.key ∉ (state.looked path).cache.keys := by
      rw [loader.keyed loaded]
      exact notMem_of_missed missed
    have stillEndures : (state.looked path).cache.lifetime ≠ some 0 := by
      rwa [Clocked.looked, lifetime_get]
    rw [same, resolve_of_loaded (answered.trans missed) loaded, looked,
      stored_swept (coherent.get state.now path) stillEndures absent]

theorem tick_swept (nodup : state.cache.keys.Nodup) : state.swept.tick = (state.wait 1).swept := by
  simp only [tick, swept]
  rw [purge_purge nodup (Nat.le_succ state.now)]
  rfl

theorem sweep_swept (nodup : state.cache.keys.Nodup) (milliseconds : Nat) :
    state.swept.sweep milliseconds = (state.wait milliseconds).swept := by
  induction milliseconds with
  | zero => rfl
  | succ milliseconds ih =>
      have later : (state.wait milliseconds).cache.keys.Nodup := nodup
      rw [sweep, Function.iterate_succ_apply', ← sweep, ih, tick_swept later]
      rfl

theorem visit_swept (coherent : state.cache.Coherent) (endures : state.cache.lifetime ≠ some 0)
    (visit : Visit) :
    state.swept.answer? visit = state.answer? visit ∧
      state.swept.visit sweep visit = (state.visit wait visit).swept := by
  cases visit with
  | resolve loader path =>
      have same := resolve_swept loader coherent endures path
      simp only [answer?, Clocked.visit, same, and_self]
  | advance milliseconds => exact ⟨rfl, sweep_swept coherent.nodup milliseconds⟩

theorem coherent_visit (coherent : state.cache.Coherent) (visit : Visit) :
    (state.visit wait visit).cache.Coherent ∧
      (state.visit wait visit).cache.lifetime = state.cache.lifetime := by
  cases visit with
  | resolve loader path =>
      exact ⟨coherent_resolve loader.load coherent path, lifetime_resolve loader.load coherent path⟩
  | advance milliseconds => exact ⟨coherent, rfl⟩

/-! All visits. -/

theorem visitAll_swept (visits : List Visit) :
    ∀ state : Clocked, state.cache.Coherent → state.cache.lifetime ≠ some 0 →
      state.swept.answers sweep visits = state.answers wait visits ∧
        state.swept.visitAll sweep visits = (state.visitAll wait visits).swept := by
  induction visits with
  | nil =>
      intro state _ _
      exact ⟨rfl, rfl⟩
  | cons first later ih =>
      intro state coherent endures
      obtain ⟨answer, next⟩ := visit_swept coherent endures first
      obtain ⟨kept, lifetime⟩ := coherent_visit coherent first
      obtain ⟨answers, last⟩ := ih (state.visit wait first) kept (by rwa [lifetime])
      rw [← next] at answers last
      exact ⟨congrArg₂ List.cons answer answers, last⟩

theorem coherent_visitAll (visits : List Visit) :
    ∀ state : Clocked, state.cache.Coherent → (state.visitAll wait visits).cache.Coherent := by
  induction visits with
  | nil => exact fun _ coherent => coherent
  | cons first later ih => exact fun _ coherent => ih _ (coherent_visit coherent first).1

theorem swept_of_new {capacity : Nat} {kind : EvictionKind} {lifetime : Option Nat}
    {fresh : ModuleCache} {allocator : Allocator}
    (made : ModuleCache.new allocator capacity kind lifetime = .ok fresh) (start : Nat) :
    (Clocked.mk fresh start).swept = ⟨fresh, start⟩ := by
  obtain ⟨_, _, rfl⟩ := new_eq_ok made
  rfl

/-- Passive expiry cannot be told from a sweep that drops every entry at the moment it expires: along
every sequence of resolutions both caches give the same answers, count the same hits, misses and
evictions, and what the second one holds is what is live in the first one. -/
theorem visitAll_expires_as_if_swept {capacity : Nat} {kind : EvictionKind}
    {lifetime : Option Nat} {fresh : ModuleCache}
    {allocator : Allocator}
    (made : ModuleCache.new allocator capacity kind lifetime = .ok fresh) (start : Nat)
    (visits : List Visit) :
    let initial := Clocked.mk fresh start
    let passive := initial.visitAll wait visits
    let sweeping := initial.visitAll sweep visits
    initial.answers wait visits = initial.answers sweep visits ∧
      passive.cache.counters.hits = sweeping.cache.counters.hits ∧
      passive.cache.counters.misses = sweeping.cache.counters.misses ∧
      passive.cache.counters.evictions = sweeping.cache.counters.evictions ∧
      passive.live = sweeping.cache.entries ∧
      ∀ path, passive.cache.contains passive.now path =
        sweeping.cache.contains sweeping.now path := by
  intro initial passive sweeping
  obtain ⟨_, endures, unused⟩ := new_eq_ok made
  have freshCoherent : initial.cache.Coherent := (Coherent.of_new made).1
  have freshEndures : initial.cache.lifetime ≠ some 0 := by
    simpa [initial, unused] using endures
  obtain ⟨answers, last⟩ := visitAll_swept visits initial freshCoherent freshEndures
  rw [swept_of_new made start] at answers last
  have coherent : passive.cache.Coherent := coherent_visitAll visits initial freshCoherent
  have same : sweeping = passive.swept := last
  have purged : sweeping.cache = passive.cache.purge passive.now := by
    rw [same]
    rfl
  have sameTime : sweeping.now = passive.now := by
    rw [same]
    rfl
  refine ⟨answers.symm, ?_, ?_, ?_, ?_, ?_⟩
  · rw [purged]
    exact (purge_keeps (fun cache => cache.counters.hits) (fun _ _ => rfl) _ _).symm
  · rw [purged]
    exact (purge_keeps (fun cache => cache.counters.misses) (fun _ _ => rfl) _ _).symm
  · rw [purged]
    exact (purge_keeps (fun cache => cache.counters.evictions) (fun _ _ => rfl) _ _).symm
  · rw [purged, entries_purge coherent.nodup]
    rfl
  · intro path
    rw [Bool.eq_iff_iff, purged, sameTime, contains_iff coherent.nodup,
      contains_iff (coherent.purge passive.now).nodup, live_purge coherent.nodup]

/-- The second use of `a` is a hit. Then `a` expires, which leaves room for `c`, while `d` has to
take the place of `b`. -/
theorem visitAll_expires_as_if_swept_arc :
    let loader : KeyedLoader := ⟨fun path => .ok ⟨path, .wasmtime, [], ""⟩, by
      rintro path stored ⟨⟩
      rfl⟩
    let resolve (name : String) : Visit := .resolve loader name
    let fresh : ModuleCache := ⟨2, some 5, .arc (.empty 2), [], .zero⟩
    let visits := [resolve "a", .advance 3, resolve "b", resolve "a", .advance 2, resolve "c",
      resolve "d"]
    ModuleCache.new .generous 2 .arc (some 5) = .ok fresh ∧
      ((Clocked.mk fresh 0).visitAll wait visits).cache.counters = ⟨1, 4, 1, 1⟩ ∧
      ((Clocked.mk fresh 0).visitAll sweep visits).cache.counters.hits = 1 ∧
      ((Clocked.mk fresh 0).visitAll sweep visits).cache.counters.misses = 4 ∧
      ((Clocked.mk fresh 0).visitAll sweep visits).cache.counters.evictions = 1 := by
  intro loader resolve fresh visits
  have made : ModuleCache.new .generous 2 .arc (some 5) = .ok fresh := rfl
  have counters : ((Clocked.mk fresh 0).visitAll wait visits).cache.counters = ⟨1, 4, 1, 1⟩ := by
    cbv
  obtain ⟨_, hits, misses, evictions, _, _⟩ := visitAll_expires_as_if_swept made 0 visits
  rw [counters] at hits misses evictions
  exact ⟨made, counters, hits.symm, misses.symm, evictions.symm⟩

end Clocked

end Cache

end WasmTasks
