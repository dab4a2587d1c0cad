import WasmTasks.Proofs.Cache.Likeness
import WasmTasks.Proofs.Cache.PolicyRespelling
import WasmTasks.Proofs.Cache.Presence

/-!
Runs that differ in the spelling of paths. No step of a cache depends on how a path is spelled, and
so two such runs show the same, but for the spelling inside the modules they give back.
-/

namespace WasmTasks

open WasmTasks.Path

/-- The same module under another spelling of its path. -/
structure CachedModule.Respelt (stored other : CachedModule) : Prop where
  key : stored.key.Same other.key
  backend : stored.backend = other.backend
  artifact : stored.artifact = other.artifact
  contentHash : stored.contentHash = other.contentHash

namespace Cache

/-- The same operation with other spellings. An order is proposed to simple policies alone. -/
inductive Operation.Respelt : Operation → Operation → Prop where
  | put {stored other : CachedModule} (same : stored.Respelt other) :
      Respelt (.put stored) (.put other)
  | get {path other : Path} (same : path.Same other) : Respelt (.get path) (.get other)
  | remove {path other : Path} (same : path.Same other) : Respelt (.remove path) (.remove other)
  | contains {path other : Path} (same : path.Same other) :
      Respelt (.contains path) (.contains other)
  | clear : Respelt .clear .clear
  | advance (milliseconds : Nat) : Respelt (.advance milliseconds) (.advance milliseconds)
  | reorder (order other : List Path) : Respelt (.reorder order) (.reorder other)

inductive Answer.Respelt : Answer → Answer → Prop where
  | nothing : Respelt .nothing .nothing
  | module {found other : Option CachedModule} (same : Option.Rel CachedModule.Respelt found other) :
      Respelt (.module found) (.module other)
  | presence (held : Bool) : Respelt (.presence held) (.presence held)

namespace Step

def after (step : Step) : Clocked :=
  step.before.apply step.operation

/-- Two steps that show the same, but for spellings. -/
structure Resembles (step other : Step) : Prop where
  answer : step.answer.Respelt other.answer
  victims : Path.keys step.victims = Path.keys other.victims
  stats : step.after.cache.stats = other.after.cache.stats

end Step

end Cache

/-! Entries and caches in other spellings. -/

section

variable (respelling : Respelling)

def CachedModule.respell (stored : CachedModule) : CachedModule :=
  { stored with key := respelling.spell stored.key }

def Cache.Entry.respell (entry : Entry) : Entry :=
  { entry with stored := entry.stored.respell respelling }

def ModuleCache.respell (cache : ModuleCache) : ModuleCache :=
  { cache with
    policy := cache.policy.respell respelling
    entries := cache.entries.map (Cache.Entry.respell respelling) }

end

theorem CachedModule.respell_standard_iff {stored other : CachedModule} :
    stored.respell .standard = other.respell .standard ↔ stored.Respelt other := by
  constructor
  · intro equal
    obtain ⟨key, backend, artifact, contentHash⟩ := CachedModule.mk.inj equal
    exact ⟨(Respelling.standard_eq_iff _ _).mp key, backend, artifact, contentHash⟩
  · rintro ⟨key, backend, artifact, contentHash⟩
    rw [respell, respell, (Respelling.standard_eq_iff _ _).mpr key, backend, artifact, contentHash]

namespace ModuleCache

open Cache

variable (respelling : Respelling) (cache : ModuleCache) (now : Nat) (path : Path)

@[simp] theorem length_entries_respell :
    (cache.respell respelling).entries.length = cache.entries.length :=
  List.length_map _

@[simp] theorem isExpired_respell (entry : Entry) :
    (cache.respell respelling).isExpired now (entry.respell respelling) = cache.isExpired now entry :=
  rfl

theorem stats_respell : (cache.respell respelling).stats = cache.stats := by
  simp [stats, ModuleCache.kind, respell]

theorem find?_respell :
    (cache.respell respelling).find? (respelling.spell path) =
      (cache.find? path).map (Entry.respell respelling) := by
  simp [find?, respell, List.find?_map, Entry.respell, CachedModule.respell]

theorem without_respell :
    (cache.respell respelling).without (respelling.spell path) =
      (cache.without path).map (Entry.respell respelling) := by
  simp [without, respell, List.filter_map, Function.comp_def, Entry.respell, CachedModule.respell]

theorem contains_respell :
    (cache.respell respelling).contains now (respelling.spell path) = cache.contains now path := by
  rw [contains, contains, find?_respell]
  cases cache.find? path <;> rfl

theorem respell_expire :
    (cache.expire path).respell respelling =
      (cache.respell respelling).expire (respelling.spell path) := by
  rw [expire, expire, without_respell]
  simp only [respell, Policy.respell_remove]

theorem get_respell :
    (cache.respell respelling).get now (respelling.spell path) =
      ((cache.get now path).1.map (CachedModule.respell respelling),
        (cache.get now path).2.respell respelling) := by
  have again := cache.find?_respell respelling path
  cases found : cache.find? path with
  | none =>
      rw [found] at again
      rw [get_of_absent found, get_of_absent again]
      rfl
  | some entry =>
      rw [found] at again
      have same := cache.isExpired_respell respelling now entry
      cases expired : cache.isExpired now entry with
      | true =>
          rw [get_of_expired found expired, get_of_expired again (same.trans expired),
            ← respell_expire]
          rfl
      | false =>
          rw [get_of_fresh found expired, get_of_fresh again (same.trans expired)]
          simp only [respell, Policy.respell_touch]
          rfl

theorem remove_respell :
    (cache.respell respelling).remove (respelling.spell path) =
      ((cache.remove path).1.map (CachedModule.respell respelling),
        (cache.remove path).2.respell respelling) := by
  rw [remove, remove, find?_respell, without_respell]
  cases cache.find? path with
  | none => rfl
  | some entry =>
      simp only [Option.map_some, respell, Policy.respell_remove]
      rfl

theorem respell_clear : cache.clear.respell respelling = (cache.respell respelling).clear := by
  have forgotten (policy : Policy) (entries : List Entry) :
      (entries.foldl (fun policy entry => policy.remove entry.stored.key) policy).respell respelling =
        (entries.map (Entry.respell respelling)).foldl
          (fun policy entry => policy.remove entry.stored.key) (policy.respell respelling) := by
    induction entries generalizing policy with
    | nil => rfl
    | cons entry rest ih =>
        rw [List.foldl_cons, ih, Policy.respell_remove]
        rfl
  simp only [clear, respell, forgotten, List.map_nil]

theorem respell_purge :
    (cache.purge now).respell respelling = (cache.respell respelling).purge now := by
  have expired : (cache.respell respelling).entries.filter
        ((cache.respell respelling).isExpired now) =
      (cache.entries.filter (cache.isExpired now)).map (Entry.respell respelling) := by
    rw [respell, List.filter_map]
    rfl
  rw [purge, purge, expired]
  clear expired
  generalize cache.entries.filter (cache.isExpired now) = entries
  induction entries generalizing cache with
  | nil => rfl
  | cons entry rest ih =>
      rw [List.foldl_cons, ih, respell_expire]
      rfl

theorem respell_reclaim :
    (cache.reclaim now).respell respelling = (cache.respell respelling).reclaim now := by
  rw [reclaim, reclaim, length_entries_respell, ← respell_purge]
  exact apply_ite (respell respelling) _ _ _

theorem respell_evict (victim : Path) (policy : Policy) :
    (cache.evict victim policy).respell respelling =
      (cache.respell respelling).evict (respelling.spell victim) (policy.respell respelling) := by
  rw [evict, evict, find?_respell, without_respell, Option.isSome_map]
  split <;> rfl

theorem makeRoom_of_stuck (cache : ModuleCache) (stuck : cache.policy.evict? = none) :
    cache.makeRoom = cache ∧ cache.victims = [] := by
  constructor
  · rw [makeRoom]
    split
    · rfl
    · split
      · rfl
      · rename_i chosen
        rw [stuck] at chosen
        cases chosen
  · rw [victims]
    split
    · rfl
    · split
      · rfl
      · rename_i chosen
        rw [stuck] at chosen
        cases chosen

theorem makeRoom_respell :
    (cache.respell respelling).makeRoom = cache.makeRoom.respell respelling ∧
      (cache.respell respelling).victims = cache.victims.map respelling.spell := by
  have again := cache.policy.evict?_respell respelling
  have length := cache.length_entries_respell respelling
  induction cache using makeRoom.induct with
  | case1 cache fits =>
      have roomy := length.trans_lt fits
      rw [makeRoom_of_fits fits, makeRoom_of_fits roomy, victims_of_fits fits,
        victims_of_fits roomy]
      exact ⟨rfl, rfl⟩
  | case2 cache full stuck =>
      rw [stuck] at again
      obtain ⟨same, none⟩ := cache.makeRoom_of_stuck stuck
      obtain ⟨sameAgain, noneAgain⟩ := (cache.respell respelling).makeRoom_of_stuck again
      rw [same, none, sameAgain, noneAgain]
      exact ⟨rfl, rfl⟩
  | case3 cache full victim policy chosen ih =>
      rw [chosen, Option.map_some] at again
      obtain ⟨room, others⟩ := ih (Policy.evict?_respell _ _) (length_entries_respell _ _)
      have crowded := Nat.le_of_not_lt full
      have still := crowded.trans_eq length.symm
      rw [makeRoom_of_chosen crowded chosen, makeRoom_of_chosen still again,
        victims_of_chosen crowded chosen, victims_of_chosen still again, ← respell_evict, room,
        others]
      exact ⟨rfl, rfl⟩

variable (stored : CachedModule)

theorem displaced_respell :
    (cache.respell respelling).displaced now (stored.respell respelling) =
      (cache.displaced now stored).map respelling.spell := by
  have again := cache.find?_respell respelling stored.key
  rw [displaced, displaced, CachedModule.respell, again, Option.isSome_map, ← respell_reclaim,
    (makeRoom_respell _ _).2]
  split <;> rfl

theorem respell_insert :
    (cache.insert now stored).respell respelling =
      (cache.respell respelling).insert now (stored.respell respelling) := by
  simp only [insert, respell, List.map_append, Policy.respell_add]
  rfl

theorem respell_replace :
    (cache.replace now stored).respell respelling =
      (cache.respell respelling).replace now (stored.respell respelling) := by
  simp only [replace, respell, Policy.respell_touch, List.map_map]
  refine congrArg (ModuleCache.mk _ _ _ · _) (List.map_congr_left fun entry _ => ?_)
  simp only [Function.comp_apply, Entry.respell, CachedModule.respell, Respelling.same_iff]
  split <;> rfl

theorem respell_put :
    (cache.put now stored).respell respelling =
      (cache.respell respelling).put now (stored.respell respelling) := by
  have again := cache.find?_respell respelling stored.key
  rw [put, put, CachedModule.respell, again, Option.isSome_map]
  split
  · exact cache.respell_replace respelling now stored
  · change ((cache.reclaim now).makeRoom.insert now stored).respell respelling =
      ((cache.respell respelling).reclaim now).makeRoom.insert now (stored.respell respelling)
    rw [respell_insert, ← (makeRoom_respell _ _).1, respell_reclaim]

end ModuleCache

/-! Two caches that differ in spellings. -/

namespace ModuleCache

open Cache

def Respelt (cache other : ModuleCache) : Prop :=
  cache.respell .standard = other.respell .standard

theorem rel_of_respell_eq {found other : Option CachedModule}
    (equal : found.map (CachedModule.respell .standard) =
      other.map (CachedModule.respell .standard)) :
    Option.Rel CachedModule.Respelt found other := by
  cases found with
  | none =>
      cases other with
      | none => exact .none
      | some module => cases equal
  | some stored =>
      cases other with
      | none => cases equal
      | some module => exact .some (CachedModule.respell_standard_iff.mp (Option.some.inj equal))

namespace Respelt

variable {cache other : ModuleCache} {now : Nat} {path another : Path}

theorem kind (respelt : cache.Respelt other) : other.policy.kind = cache.policy.kind := by
  have equal := congrArg (fun cache => cache.policy.kind) respelt
  simpa [respell] using equal.symm

theorem stats (respelt : cache.Respelt other) : cache.stats = other.stats := by
  rw [← stats_respell .standard, respelt, stats_respell]

theorem get (respelt : cache.Respelt other) (same : path.Same another) :
    Option.Rel CachedModule.Respelt (cache.get now path).1 (other.get now another).1 ∧
      (cache.get now path).2.Respelt (other.get now another).2 := by
  have equal := cache.get_respell .standard now path
  rw [respelt, (Respelling.standard_eq_iff _ _).mpr same, get_respell] at equal
  obtain ⟨answers, rest⟩ := Prod.mk.inj equal
  exact ⟨rel_of_respell_eq answers.symm, rest.symm⟩

theorem remove (respelt : cache.Respelt other) (same : path.Same another) :
    Option.Rel CachedModule.Respelt (cache.remove path).1 (other.remove another).1 ∧
      (cache.remove path).2.Respelt (other.remove another).2 := by
  have equal := cache.remove_respell .standard path
  rw [respelt, (Respelling.standard_eq_iff _ _).mpr same, remove_respell] at equal
  obtain ⟨answers, rest⟩ := Prod.mk.inj equal
  exact ⟨rel_of_respell_eq answers.symm, rest.symm⟩

theorem contains (respelt : cache.Respelt other) (same : path.Same another) (now : Nat) :
    cache.contains now path = other.contains now another := by
  rw [← contains_respell .standard, respelt, (Respelling.standard_eq_iff _ _).mpr same,
    contains_respell]

theorem clear (respelt : cache.Respelt other) : cache.clear.Respelt other.clear := by
  rw [Respelt, respell_clear, respelt, respell_clear]

variable {stored module : CachedModule}

theorem put (respelt : cache.Respelt other) (same : stored.Respelt module) :
    (cache.put now stored).Respelt (other.put now module) := by
  rw [Respelt, respell_put, respelt, CachedModule.respell_standard_iff.mpr same, respell_put]

theorem displaced (respelt : cache.Respelt other) (same : stored.Respelt module) :
    Path.keys (cache.displaced now stored) = Path.keys (other.displaced now module) := by
  have equal := cache.displaced_respell .standard now stored
  rw [respelt, CachedModule.respell_standard_iff.mpr same, displaced_respell] at equal
  rw [← Respelling.keys_spell .standard, ← equal, Respelling.keys_spell]

end Respelt

end ModuleCache

namespace Cache.Clocked

open ModuleCache

variable {state other : Clocked} {operation another : Operation}

theorem apply_reorder (determined : state.cache.policy.kind ≠ .simple) (order : List Path) :
    state.apply (.reorder order) = state := by
  obtain ⟨⟨capacity, lifetime, policy, entries, counters⟩, now⟩ := state
  cases policy with
  | simple policy => exact absurd rfl determined
  | _ => rfl

structure Respelt (state other : Clocked) : Prop where
  cache : state.cache.Respelt other.cache
  now : state.now = other.now

namespace Respelt

theorem apply (respelt : state.Respelt other) (determined : state.cache.policy.kind ≠ .simple)
    (same : operation.Respelt another) :
    (state.apply operation).Respelt (other.apply another) := by
  obtain ⟨cache, now⟩ := state
  obtain ⟨otherCache, later⟩ := other
  obtain ⟨alike, rfl⟩ := respelt
  cases same with
  | put same => exact ⟨alike.put same, rfl⟩
  | get same => exact ⟨(alike.get same).2, rfl⟩
  | remove same => exact ⟨(alike.remove same).2, rfl⟩
  | contains same => exact ⟨alike, rfl⟩
  | clear => exact ⟨alike.clear, rfl⟩
  | advance milliseconds => exact ⟨alike, rfl⟩
  | reorder order proposed =>
      rw [apply_reorder determined, apply_reorder (alike.kind ▸ determined)]
      exact ⟨alike, rfl⟩

theorem resembles (respelt : state.Respelt other) (determined : state.cache.policy.kind ≠ .simple)
    (same : operation.Respelt another) :
    Step.Resembles ⟨state, operation⟩ ⟨other, another⟩ where
  stats := (respelt.apply determined same).cache.stats
  answer := by
    obtain ⟨cache, now⟩ := state
    obtain ⟨otherCache, later⟩ := other
    obtain ⟨alike, rfl⟩ := respelt
    cases same with
    | get same => exact .module (alike.get same).1
    | remove same => exact .module (alike.remove same).1
    | contains same =>
        change Answer.Respelt (.presence (cache.contains now _))
          (.presence (otherCache.contains now _))
        rw [alike.contains same now]
        exact .presence _
    | _ => exact .nothing
  victims := by
    obtain ⟨cache, now⟩ := state
    obtain ⟨otherCache, later⟩ := other
    obtain ⟨alike, rfl⟩ := respelt
    cases same with
    | put same => exact alike.displaced same
    | _ => rfl

end Respelt

theorem steps_of_respelt {operations others : List Operation} (respelt : state.Respelt other)
    (coherent : state.cache.Coherent) (determined : state.cache.policy.kind ≠ .simple)
    (same : List.Forall₂ Operation.Respelt operations others) :
    List.Forall₂ Step.Resembles (state.steps operations) (other.steps others) := by
  induction same generalizing state other with
  | nil => exact .nil
  | cons first _ ih =>
      refine .cons (respelt.resembles determined first) (ih (respelt.apply determined first) ?_ ?_)
      · exact (apply_coherent coherent _).1
      · rwa [kind_apply coherent]

/-- What a look-up finds is as the latest put of the path spelt it. -/
theorem latest_put_of_hit {initial : Clocked} (coherent : initial.cache.Coherent)
    (empty : initial.cache.entries = []) {operations : List Operation} {path : Path}
    {stored : CachedModule}
    (hit : ((initial.run operations).cache.get (initial.run operations).now path).1 = some stored) :
    ∃ since step earlier, initial.past operations = since ++ step :: earlier ∧
      step.operation = .put stored ∧ stored.key.Same path ∧
      ∀ later ∈ since, ¬ later.operation.Puts path := by
  have reached := (run_coherent operations initial coherent).1
  obtain ⟨entry, member, same, rfl⟩ := (get_eq_some_iff reached.nodup).mp hit
  obtain ⟨⟨since, step, earlier, parts, ⟨isPut, _⟩, spares⟩, _⟩ :=
    (mem_live_run coherent empty operations).mp member
  refine ⟨since, step, earlier, parts, isPut, same, fun later laterMember puts => ?_⟩
  apply (spares later laterMember).notPut
  obtain ⟨before, operation⟩ := later
  cases operation with
  | put module => exact Path.Same.trans puts same.symm
  | _ => exact puts

/-- Two runs of a cache whose policy determines its victims, with other spellings of the paths in the
second one, show the same after every step: the same answers and victims but for spellings, and the
same length and counters. What a look-up finds is spelt as the latest put of the path spelt it. -/
theorem run_ignores_spelling {capacity : Nat} {kind : EvictionKind} {lifetime : Option Nat}
    {fresh : ModuleCache} {allocator : Allocator}
    (made : ModuleCache.new allocator capacity kind lifetime = .ok fresh)
    (determined : kind ≠ .simple) (start : Nat) {operations others : List Operation}
    (respelt : List.Forall₂ Operation.Respelt operations others) :
    let initial := Clocked.mk fresh start
    let reached := initial.run operations
    List.Forall₂ Step.Resembles (initial.steps operations) (initial.steps others) ∧
      ∀ path stored, (reached.cache.get reached.now path).1 = some stored →
        ∃ since step earlier, initial.past operations = since ++ step :: earlier ∧
          step.operation = .put stored ∧ stored.key.Same path ∧
          ∀ later ∈ since, ¬ later.operation.Puts path := by
  intro initial reached
  obtain ⟨_, _, unused⟩ := new_eq_ok made
  have coherent : initial.cache.Coherent := (Coherent.of_new made).1
  have sameKind : initial.cache.policy.kind = kind := by
    simp only [initial, unused, Policy.kind_empty]
  refine ⟨steps_of_respelt ⟨rfl, rfl⟩ coherent (sameKind ▸ determined) respelt, ?_⟩
  intro path stored hit
  exact latest_put_of_hit coherent (congrArg ModuleCache.entries unused) hit

/-- Every path has another spelling in the second run, and the last put takes a victim. -/
theorem run_ignores_spelling_arc :
    let stored (path : Path) : CachedModule := ⟨path, .wasmtime, [1], "hash"⟩
    let operations : List Operation :=
      [.put (stored "d/a"), .get "d/a", .put (stored "d//a"), .put (stored "b")]
    let others : List Operation :=
      [.put (stored "d//a"), .get "d//a", .put (stored "d/a"), .put (stored "b/.")]
    let fresh : ModuleCache := ⟨1, some 5, .arc (.empty 1), [], .zero⟩
    ModuleCache.new .generous 1 .arc (some 5) = .ok fresh ∧ EvictionKind.arc ≠ .simple ∧
      List.Forall₂ Operation.Respelt operations others ∧
      List.Forall₂ Step.Resembles ((Clocked.mk fresh 0).steps operations)
        ((Clocked.mk fresh 0).steps others) := by
  intro stored operations others fresh
  have made : ModuleCache.new .generous 1 .arc (some 5) = .ok fresh := rfl
  have determined : EvictionKind.arc ≠ .simple := by decide
  have first : Path.Same "d/a" "d//a" := by decide
  have last : Path.Same "b" "b/." := by decide
  have respelt : List.Forall₂ Operation.Respelt operations others :=
    .cons (.put ⟨first, rfl, rfl, rfl⟩) (.cons (.get first)
      (.cons (.put ⟨first.symm, rfl, rfl, rfl⟩) (.cons (.put ⟨last, rfl, rfl, rfl⟩) .nil)))
  exact ⟨made, determined, respelt, (run_ignores_spelling made determined 0 respelt).1⟩

end Cache.Clocked

end WasmTasks
