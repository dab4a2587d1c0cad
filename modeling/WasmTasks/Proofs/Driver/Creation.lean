import WasmTasks.Proofs.Cache.Stock
import WasmTasks.Proofs.Driver.Reservation

/-!
How a driver is created. The checks of the configuration leave nothing for the cache to refuse, so a
driver is refused only if the checks or the warm-up fail; but the checks let sizes pass for which
there is no memory, and then creation is aborted. The cache of a new driver holds the modules of the
directory, and keeps them while the driver is at work: only lookups and stores reach the cache.
-/

namespace WasmTasks

open Cache ModuleCache

namespace Loader

theorem exists_makes_iff {load : Loader} {paths : List Path} :
    (∃ modules, load.Makes paths modules) ↔ ∀ path ∈ paths, ∃ stored, load path = .ok stored := by
  induction paths with
  | nil => exact iff_of_true ⟨[], .nil⟩ nofun
  | cons path rest ih =>
      rw [List.forall_mem_cons, ← ih]
      constructor
      · intro ⟨_, .cons loaded made⟩
        exact ⟨⟨_, loaded⟩, ⟨_, made⟩⟩
      · intro ⟨⟨_, loaded⟩, ⟨_, made⟩⟩
        exact ⟨_, .cons loaded made⟩

end Loader

theorem KeyedLoader.load_key_of_makes (loader : KeyedLoader) {paths : List Path}
    {modules : List CachedModule} (made : Loader.Makes loader.load paths modules) :
    ∀ stored ∈ modules, loader.load stored.key = .ok stored := by
  induction made with
  | nil => exact nofun
  | cons loaded _ ih =>
      rw [List.forall_mem_cons, loader.keyed loaded]
      exact ⟨loaded, ih⟩

namespace PluginConfig

variable {config : PluginConfig}

theorem validate_eq_ok_iff :
    config.validate = .ok () ↔
      config.cache.size ≠ 0 ∧
        (config.cache.expiration.enabled = true → config.cache.expiration.lifetime ≠ 0) ∧
        (config.cache.preCache.enabled = true → config.cache.preCache.modulesDirectory ≠ none) := by
  rw [validate]
  split
  · rename_i empty
    exact iff_of_false nofun fun valid => valid.1 empty
  · rename_i sized
    split
    · rename_i lifeless
      exact iff_of_false nofun fun valid => valid.2.1 lifeless.1 lifeless.2
    · rename_i lives
      split
      · rename_i unset
        exact iff_of_false nofun fun valid => valid.2.2 unset.1 unset.2
      · rename_i placed
        exact iff_of_true rfl ⟨sized, not_and.mp lives, not_and.mp placed⟩

/-- Milliseconds an entry of the cache lives, if entries expire. -/
def span? (config : PluginConfig) : Option Nat :=
  config.cache.lifetime?.map fun seconds => seconds.toNat * 1000

theorem span?_ne_zero (valid : config.validate = .ok ()) : config.span? ≠ some 0 := by
  intro lifeless
  rw [span?, CacheConfig.lifetime?] at lifeless
  split at lifeless
  · rename_i expires
    have lives := (validate_eq_ok_iff.mp valid).2.1 expires
    rw [Option.map_some, Option.some.injEq] at lifeless
    refine lives (UInt64.toNat_inj.mp ?_)
    rw [UInt64.toNat_zero]
    omega
  · cases lifeless

def emptyCache (config : PluginConfig) : ModuleCache :=
  ⟨config.cache.size.toNat, config.span?, .empty config.cache.kind config.cache.size.toNat, [],
    .zero⟩

variable {allocator : Allocator}

theorem new_of_valid (allocator : Allocator) (valid : config.validate = .ok ()) :
    ModuleCache.new allocator config.cache.size.toNat config.cache.kind config.span? =
      if allocator.grants config.cache.size.toNat then .ok config.emptyCache
      else .error .aborted := by
  have sized : config.cache.size.toNat ≠ 0 := fun empty =>
    (validate_eq_ok_iff.mp valid).1 (UInt64.toNat_inj.mp empty)
  rw [ModuleCache.new, if_neg sized, if_neg (span?_ne_zero valid)]
  rfl

theorem new_emptyCache (valid : config.validate = .ok ())
    (granted : allocator.grants config.cache.size.toNat = true) :
    ModuleCache.new allocator config.cache.size.toNat config.cache.kind config.span? =
      .ok config.emptyCache := by
  rw [new_of_valid allocator valid, if_pos granted]

/-- The table of the cache can be had, if there is to be a cache. -/
def Granted (allocator : Allocator) (config : PluginConfig) : Prop :=
  config.cache.enabled = true → allocator.grants config.cache.size.toNat = true

theorem ofConfig_of_granted (valid : config.validate = .ok ())
    (granted : config.Granted allocator) :
    ModuleCache.ofConfig allocator config.cache =
      .ok (if config.cache.enabled then some config.emptyCache else none) := by
  rw [ModuleCache.ofConfig]
  split
  · rename_i enabled
    change Except.map some (ModuleCache.new _ _ _ config.span?) = _
    rw [new_emptyCache valid (granted enabled)]
    rfl
  · rfl

theorem ofConfig_of_denied (valid : config.validate = .ok ())
    (denied : ¬ config.Granted allocator) :
    ModuleCache.ofConfig allocator config.cache = .error .aborted := by
  rw [Granted, Classical.not_imp] at denied
  rw [ModuleCache.ofConfig, if_pos denied.1]
  change Except.map some (ModuleCache.new _ _ _ config.span?) = _
  rw [new_of_valid allocator valid, if_neg denied.2]
  rfl

def warms (config : PluginConfig) : Bool :=
  config.cache.enabled && config.cache.preCache.enabled

end PluginConfig

namespace Driver

variable {driver : Driver} {config : PluginConfig} {load : Loader} {now : Nat}
  {discover : Path → Except DriverError (List Path)} {allocator : Allocator} {clock : Nat → Nat}

theorem new_of_invalid {error : DriverError} (invalid : config.validate = .error error) :
    new allocator load discover clock config = .error (.refused error) := by
  rw [new, invalid]
  rfl

theorem new_of_denied (valid : config.validate = .ok ()) (denied : ¬ config.Granted allocator) :
    new allocator load discover clock config = .error .aborted := by
  rw [new, valid, PluginConfig.ofConfig_of_denied valid denied]
  rfl

theorem new_of_cold (valid : config.validate = .ok ()) (granted : config.Granted allocator)
    (cold : config.warms = false) :
    new allocator load discover clock config =
      .ok ⟨config, if config.cache.enabled then some config.emptyCache else none, .empty,
        false⟩ := by
  rw [new, valid, PluginConfig.ofConfig_of_granted valid granted]
  rw [PluginConfig.warms, Bool.and_eq_false_iff] at cold
  obtain disabled | unasked := cold
  · rw [disabled]
    rfl
  · rw [unasked]
    cases config.cache.enabled <;> rfl

theorem new_of_warm (valid : config.validate = .ok ()) (granted : config.Granted allocator)
    (warm : config.warms = true) {dir : Path}
    (given : config.cache.preCache.modulesDirectory = some dir) :
    new allocator load discover clock config =
      match config.emptyCache.warm load (discover dir) clock with
      | (.error error, _) => .error (.refused error)
      | (.ok _, warmed) => .ok ⟨config, some warmed, .empty, false⟩ := by
  rw [PluginConfig.warms, Bool.and_eq_true] at warm
  rw [new, valid, PluginConfig.ofConfig_of_granted valid granted, warm.1, warm.2, given]
  cases warmed : config.emptyCache.warm load (discover dir) clock with
  | mk answer cache =>
      cases answer <;> simp [warmed, bind, Except.bind, pure, Except.pure, Except.mapError]

theorem new_eq_ok_iff_of_warm (valid : config.validate = .ok ())
    (granted : config.Granted allocator) (warm : config.warms = true) {dir : Path}
    (given : config.cache.preCache.modulesDirectory = some dir) :
    new allocator load discover clock config = .ok driver ↔
      ∃ paths modules, discover dir = .ok paths ∧ paths.length ≤ config.cache.size.toNat ∧
        load.Makes paths modules ∧
        driver = ⟨config, some (config.emptyCache.putAll clock modules), .empty, false⟩ := by
  rw [new_of_warm valid granted warm given]
  constructor
  · intro created
    cases answer : config.emptyCache.warm load (discover dir) clock with
    | mk outcome warmed =>
        rw [answer] at created
        cases outcome with
        | error error => cases created
        | ok count =>
            cases created
            obtain ⟨paths, modules, scanned, fits, made, _, left⟩ := warm_eq_ok_iff.mp answer
            exact ⟨paths, modules, scanned, fits, made, by rw [left]⟩
  · intro ⟨paths, modules, scanned, fits, made, same⟩
    rw [scanned, warm_of_makes fits made, same]

/-- A warm-up that fails is no abortion. -/
theorem new_eq_aborted_iff :
    new allocator load discover clock config = .error .aborted ↔
      config.validate = .ok () ∧ ¬ config.Granted allocator := by
  cases valid : config.validate with
  | error error => simp [new_of_invalid valid]
  | ok checked =>
      by_cases granted : config.Granted allocator
      · refine iff_of_false (fun aborted => ?_) fun denied => denied.2 granted
        cases warm : config.warms with
        | false =>
            rw [new_of_cold valid granted warm] at aborted
            cases aborted
        | true =>
            have asked := (Bool.and_eq_true_iff.mp warm).2
            obtain ⟨dir, given⟩ := Option.ne_none_iff_exists'.mp
              ((PluginConfig.validate_eq_ok_iff.mp valid).2.2 asked)
            rw [new_of_warm valid granted warm given] at aborted
            split at aborted <;> cases aborted
      · exact iff_of_true (new_of_denied valid granted) ⟨rfl, granted⟩

/-! What the calls of a driver do to its cache. -/

theorem StartPhase.cache_step (phase : StartPhase) (ref : TaskRef) (driver : Driver) :
    (phase.step ref driver).2.cache = driver.cache := by
  cases phase with
  | loaded outcome =>
      cases outcome with
      | error error => rfl
      | ok stored =>
          rw [step]
          split
          · rfl
          · split <;> rfl
  | stopping reason =>
      rw [step]
      split <;> rfl
  | _ => rfl

theorem StopPhase.cache_step (phase : StopPhase) (id : String) (driver : Driver) :
    (phase.step id driver).2.cache = driver.cache := by
  cases phase with
  | lookingUp | stopping ref =>
      rw [step]
      split <;> rfl
  | notifying accepted => cases accepted <;> rfl
  | _ => rfl

theorem DestroyPhase.cache_step (phase : DestroyPhase) (id : String) (force : Bool)
    (driver : Driver) : (phase.step id force driver).2.cache = driver.cache := by
  cases phase with
  | lookingUp =>
      rw [step]
      split <;> rfl
  | examining ref =>
      rw [step]
      split
      · rfl
      · split <;> rfl
  | stopping phase =>
      have kept : (phase.step id driver).2.cache = driver.cache := phase.cache_step id driver
      cases phase with
      | done outcome => cases outcome <;> rfl
      | _ => exact kept
  | removing =>
      rw [step]
      split <;> rfl
  | done outcome => rfl

theorem ShutdownPhase.cache_step (phase : ShutdownPhase) (driver : Driver) :
    (phase.step driver).2.cache = driver.cache := by
  cases phase with
  | stopping snapshot remaining =>
      cases remaining with
      | nil => rfl
      | cons ref remaining =>
          rw [step]
          split <;> rfl
  | _ => rfl

theorem Call.cache_step (call : Call) (driver : Driver) :
    (call.step driver).2.cache = driver.cache := by
  cases call with
  | start ref phase => exact phase.cache_step ref driver
  | refused error => rfl
  | stop id phase => exact phase.cache_step id driver
  | destroy id force phase => exact phase.cache_step id force driver
  | shutdown phase => exact phase.cache_step driver

theorem cache_of_reserved {reserved : Driver} {descriptor : TaskDescriptor} {ref : TaskRef}
    (accepted : driver.reserve now descriptor = .ok (ref, reserved)) :
    reserved.cache = driver.cache := by
  obtain ⟨_, ⟨_, _, same⟩ | ⟨_, _, same⟩⟩ := driver.reserve_cases now descriptor
  · rw [same] at accepted
    cases accepted
  · rw [same] at accepted
    cases accepted
    rfl

namespace Action

def time? : Action → Option Nat
  | lookup now _ | store now _ => some now
  | _ => none

def stored? : Action → Option CachedModule
  | store _ stored => some stored
  | _ => none

end Action

namespace Floor

variable {floor : Floor} {since later : Nat} {modules : List CachedModule} {cache : ModuleCache}
  {paths : List Path} {path : Path}

theorem cache_apply_waiting {action : Action} {index : Nat} (own : action.call? = some index)
    (waits : action ≠ .advance index) : (floor.apply action).driver.cache = floor.driver.cache := by
  obtain same | ⟨_, _, _, _, same⟩ := floor.apply_waiting own waits
  · rw [same]
  · rw [same]
    rfl

theorem cache_apply {action : Action} (unused : action.time? = none) :
    (floor.apply action).driver.cache = floor.driver.cache := by
  cases action with
  | start now descriptor =>
      cases attempt : floor.driver.reserve now descriptor with
      | error error =>
          simp only [apply, attempt]
          rfl
      | ok reserved =>
          simp only [apply, attempt]
          exact cache_of_reserved attempt
  | advance index =>
      cases held : floor.calls[index]? with
      | none => simp only [apply, held]
      | some call =>
          rw [apply_advance held]
          exact call.cache_step floor.driver
  | loaded index outcome => exact cache_apply_waiting rfl (by simp)
  | abandon index => exact cache_apply_waiting rfl (by simp)
  | finish ref result =>
      rw [apply]
      split <;> rfl
  | lookup now path => cases unused
  | store now stored => cases unused
  | _ => rfl

/-- From one moment to the other, the cache is given modules under these keys only. -/
structure Undisturbed (paths : List Path) (since later : Nat) (actions : List Action) : Prop where
  timely : ∀ action ∈ actions, ∀ time, action.time? = some time → since ≤ time ∧ time ≤ later
  known : ∀ action ∈ actions, ∀ stored, action.stored? = some stored →
    ∃ path ∈ paths, path.Same stored.key

/-- One action gives the cache at most another module that it has a place for. -/
theorem keeps_apply (held : floor.driver.cache = some cache) (ample : cache.Ample paths)
    (keeps : cache.Keeps since modules path) {action : Action}
    (young : ∀ time, action.time? = some time →
      since ≤ time ∧ ∀ span, cache.lifetime = some span → time - since < span)
    (known : ∀ stored, action.stored? = some stored → stored.key.key ∈ Path.keys paths) :
    ∃ after, (floor.apply action).driver.cache = some after ∧ after.lifetime = cache.lifetime ∧
      after.Ample paths ∧ after.Keeps since (modules ++ action.stored?.toList) path := by
  cases action with
  | lookup now other =>
      refine ⟨(cache.get now other).2, ?_, ModuleCache.lifetime_get cache now other,
        ample.get now other, ?_⟩
      · rw [apply, lookupModule, held]
      · change ModuleCache.Keeps _ since (modules ++ []) path
        rw [List.append_nil]
        exact keeps.get ample.coherent (young now rfl).2 other
  | store now stored =>
      have own := known stored rfl
      refine ⟨cache.put now stored, ?_, ample.coherent.lifetime_put now stored, ample.put own now,
        keeps.put (ample.places own) (young now rfl).1⟩
      rw [apply, storeModule, held]
      rfl
  | _ =>
      refine ⟨cache, (cache_apply rfl).trans held, rfl, ample, ?_⟩
      change cache.Keeps since (modules ++ []) path
      rw [List.append_nil]
      exact keeps

theorem keeps_run (held : floor.driver.cache = some cache) (ample : cache.Ample paths)
    (keeps : cache.Keeps since modules path)
    (young : ∀ span, cache.lifetime = some span → later - since < span) {actions : List Action}
    (undisturbed : Undisturbed paths since later actions) :
    ∃ after, (floor.run actions).driver.cache = some after ∧ after.lifetime = cache.lifetime ∧
      after.Ample paths ∧ after.Keeps since (modules ++ actions.filterMap Action.stored?) path := by
  induction actions using List.reverseRecOn with
  | nil =>
      refine ⟨cache, held, rfl, ample, ?_⟩
      rw [List.filterMap_nil, List.append_nil]
      exact keeps
  | append_singleton earlier action ih =>
      obtain ⟨timely, known⟩ := undisturbed
      rw [List.forall_mem_append, List.forall_mem_singleton] at timely known
      obtain ⟨reached, reachedHeld, lives, reachedAmple, reachedKeeps⟩ := ih ⟨timely.1, known.1⟩
      have last : floor.run (earlier ++ [action]) = (floor.run earlier).apply action :=
        List.foldl_append
      -- no action before `later` finds the module expired
      have inTime (time : Nat) (used : action.time? = some time) :
          since ≤ time ∧ ∀ span, reached.lifetime = some span → time - since < span := by
        obtain ⟨started, ended⟩ := timely.2 time used
        refine ⟨started, fun span lasts => ?_⟩
        have passed := young span (lives ▸ lasts)
        omega
      have given (stored : CachedModule) (stores : action.stored? = some stored) :
          stored.key.key ∈ Path.keys paths :=
        (Path.mem_keys _ _).mpr (known.2 stored stores)
      obtain ⟨after, afterHeld, afterLives, afterAmple, afterKeeps⟩ :=
        keeps_apply reachedHeld reachedAmple reachedKeeps inTime given
      have collected : (earlier ++ [action]).filterMap Action.stored? =
          earlier.filterMap Action.stored? ++ action.stored?.toList := by
        rw [List.filterMap_append]
        cases stores : action.stored? <;> simp [stores]
      refine ⟨after, last ▸ afterHeld, afterLives.trans lives, afterAmple, ?_⟩
      rw [collected, ← List.append_assoc]
      exact afterKeeps

/-- Until its lifetime has passed, a module that was given is found. -/
theorem hits_run (held : floor.driver.cache = some cache) (ample : cache.Ample paths)
    (keeps : cache.Keeps since modules path)
    (young : ∀ span, cache.lifetime = some span → later - since < span) {actions : List Action}
    (undisturbed : Undisturbed paths since later actions) :
    ∃ reached stored, (floor.run actions).driver.cache = some reached ∧ stored.key.Same path ∧
      reached.Hits later path stored ∧
      (stored ∈ modules ∨ ∃ action ∈ actions, action.stored? = some stored) := by
  obtain ⟨reached, reachedHeld, lives, ample, after⟩ := keeps_run held ample keeps young undisturbed
  obtain ⟨stored, member, same, hits⟩ := after.hits ample.coherent.nodup (by rwa [lives])
  rw [List.mem_append, List.mem_filterMap] at member
  exact ⟨reached, stored, reachedHeld, same, hits, member⟩

end Floor

/-- A configuration that is not valid is refused. A valid one gives a driver, unless there is no
memory for its cache, which aborts, or the cache is to be warmed and that fails; the cache itself
then has nothing to object to, and there is a directory to warm it from. Without a warm-up no file is
looked at. The warm-up fails if the directory cannot be scanned, holds more modules than the cache,
or holds one that cannot be loaded. If it does not fail, the cache holds its modules and nothing else
and has counted nothing; and until its lifetime has passed, whatever the driver does short of caching
other modules, resolving one of them is a hit. -/
theorem new_succeeds_iff_warmed {clock : Nat → Nat} (steady : Monotone clock)
    (allocator : Allocator) (loader : KeyedLoader) (tree : FileTree) (config : PluginConfig) :
    let created := new allocator loader.load tree.discover clock config
    (∀ error, config.validate = .error error → created = .error (.refused error)) ∧
      (created = .error .aborted ↔ config.validate = .ok () ∧ config.cache.enabled = true ∧
        allocator.grants config.cache.size.toNat = false) ∧
      (config.validate = .ok () →
        (config.cache.enabled = true → allocator.grants config.cache.size.toNat = true) →
        (∃ cache, ModuleCache.ofConfig allocator config.cache = .ok cache ∧
          cache.isSome = config.cache.enabled) ∧
        (config.cache.preCache.enabled = true → config.cache.preCache.modulesDirectory ≠ none) ∧
        (config.cache.enabled = false ∨ config.cache.preCache.enabled = false →
          ∃ driver, ∀ load discover, new allocator load discover clock config = .ok driver) ∧
        (config.cache.enabled = true → config.cache.preCache.enabled = true →
          ∃ dir, config.cache.preCache.modulesDirectory = some dir ∧
            ((∃ driver, created = .ok driver) ↔
              ∃ paths, tree.discover dir = .ok paths ∧
                paths.length ≤ config.cache.size.toNat ∧
                ∀ path ∈ paths, ∃ stored, loader.load path = .ok stored) ∧
            ∀ driver, created = .ok driver →
              ∃ paths cache, tree.discover dir = .ok paths ∧ driver.cache = some cache ∧
                cache.counters = .zero ∧ cache.keys.Nodup ∧
                (∀ entry ∈ cache.entries,
                  entry.stored.key ∈ paths ∧ loader.load entry.stored.key = .ok entry.stored) ∧
                (∀ path, (cache.find? path).isSome = true ↔ ∃ found ∈ paths, found.Same path) ∧
                ∀ index found, paths[index]? = some found → ∀ later actions,
                  (∀ span, config.span? = some span → later - clock index < span) →
                  Floor.Undisturbed paths (clock index) later actions →
                  ∀ path, found.Same path →
                    ∃ reached stored,
                      ((Floor.mk driver []).run actions).driver.cache = some reached ∧
                        stored.key.Same path ∧ reached.Hits later path stored ∧
                        (loader.load stored.key = .ok stored ∨
                          ∃ action ∈ actions, action.stored? = some stored))) := by
  intro created
  refine ⟨fun error invalid => new_of_invalid invalid, ?_, fun valid granted => ⟨?_, ?_, ?_, ?_⟩⟩
  · rw [new_eq_aborted_iff, PluginConfig.Granted, Classical.not_imp, Bool.not_eq_true]
  · refine ⟨_, PluginConfig.ofConfig_of_granted valid granted, ?_⟩
    cases config.cache.enabled <;> rfl
  · exact (PluginConfig.validate_eq_ok_iff.mp valid).2.2
  · intro unwarmed
    have cold : config.warms = false := by rwa [PluginConfig.warms, Bool.and_eq_false_iff]
    exact ⟨_, fun load discover => new_of_cold valid granted cold⟩
  · intro enabled asked
    have warm : config.warms = true := by rw [PluginConfig.warms, enabled, asked]; rfl
    have placed := (PluginConfig.validate_eq_ok_iff.mp valid).2.2 asked
    obtain ⟨dir, given⟩ := Option.ne_none_iff_exists'.mp placed
    have succeeds (driver : Driver) : created = .ok driver ↔ _ :=
      new_eq_ok_iff_of_warm valid granted warm given
    refine ⟨dir, given, ?_, ?_⟩
    · constructor
      · intro ⟨driver, success⟩
        obtain ⟨paths, modules, scanned, fits, made, _⟩ := (succeeds driver).mp success
        exact ⟨paths, scanned, fits, Loader.exists_makes_iff.mp ⟨modules, made⟩⟩
      · intro ⟨paths, scanned, fits, loadable⟩
        obtain ⟨modules, made⟩ := Loader.exists_makes_iff.mpr loadable
        exact ⟨_, (succeeds _).mpr ⟨paths, modules, scanned, fits, made, rfl⟩⟩
    · intro driver success
      obtain ⟨paths, modules, scanned, fits, made, rfl⟩ := (succeeds driver).mp success
      have keyed : modules.map CachedModule.key = paths := loader.map_key_of_makes made
      let opened := config.emptyCache.putAll clock modules
      have coherent : config.emptyCache.Coherent :=
        (Coherent.of_new (PluginConfig.new_emptyCache valid (granted enabled))).1
      have ample : config.emptyCache.Ample paths := ⟨coherent, nofun, fits⟩
      have known : ∀ stored ∈ modules, stored.key.key ∈ Path.keys paths := fun stored member =>
        List.mem_map_of_mem (keyed ▸ List.mem_map_of_mem member)
      obtain ⟨openedAmple, counted⟩ := ample.putAll known clock
      refine ⟨paths, opened, scanned, rfl, counted, openedAmple.coherent.nodup, ?_, ?_, ?_⟩
      · intro entry member
        have put := ample.only_putAll known rfl clock entry member
        exact ⟨keyed ▸ List.mem_map_of_mem put, loader.load_key_of_makes made _ put⟩
      · intro path
        rw [isSome_find?_putAll ample known rfl steady]
        simp [← keyed]
      · intro index found listed later actions young undisturbed path same
        rw [← keyed, List.getElem?_map, Option.map_eq_some_iff] at listed
        obtain ⟨module, put, rfl⟩ := listed
        have keeps := (Keeps.putAll ample known steady put).congr same
        let floor : Floor := ⟨⟨config, some opened, .empty, false⟩, []⟩
        obtain ⟨reached, stored, held, own, hits, origin⟩ :=
          Floor.hits_run (rfl : floor.driver.cache = some opened) openedAmple keeps
            (by rwa [lifetime_putAll coherent]) undisturbed
        exact ⟨reached, stored, held, own, hits,
          origin.imp_left (loader.load_key_of_makes made stored)⟩

/-- The two modules are stored at different times, and the second one is found for longer. -/
theorem new_succeeds_iff_warmed_pair :
    let files := [(Text.Utf8.encode "a.wasm", .file Description.shortest),
      (Text.Utf8.encode "b.wasm", .file Description.shortest)]
    let tree : FileTree := ⟨[(Text.Utf8.encode "m", .directory files)], .root⟩
    let load := (Description.machine []).loadModule tree
    let clock := fun reading => 100 * reading
    let config : PluginConfig :=
      ⟨.standard, ⟨true, .arc, 2, ⟨true, 5⟩, ⟨true, some "m"⟩⟩⟩
    let actions := [.lookup 4000 "m/a.wasm", .lookup 5050 "m/a.wasm", .lookup 5060 "c.wasm",
      .shutdown]
    ∃ driver reached stored, new .generous load tree.discover clock config = .ok driver ∧
      ((Floor.mk driver []).run actions).driver.cache = some reached ∧
      reached.Hits 5099 "m/b.wasm" stored := by
  intro files tree load clock config actions
  have steady : Monotone clock := fun _ _ le => Nat.mul_le_mul_left 100 le
  have valid : config.validate = .ok () := rfl
  have granted : config.cache.enabled = true →
      Allocator.generous.grants config.cache.size.toNat = true := fun _ => rfl
  have scanned : tree.discover "m" = .ok ["m/a.wasm", "m/b.wasm"] :=
    Clocked.discover_pair Description.shortest
  have loadable := Loader.exists_makes_iff.mp ⟨_, Clocked.makes_pair⟩
  obtain ⟨_, _, created⟩ := new_succeeds_iff_warmed steady .generous
    ((Description.machine []).loader tree) tree config
  obtain ⟨_, _, _, warmed⟩ := created valid granted
  obtain ⟨dir, given, succeeds, holds⟩ := warmed rfl rfl
  cases given
  obtain ⟨driver, success⟩ := succeeds.mpr ⟨_, scanned, Nat.le_refl 2, loadable⟩
  obtain ⟨paths, _, found, _, _, _, _, _, hits⟩ := holds driver success
  cases scanned.symm.trans found
  have undisturbed : Floor.Undisturbed ["m/a.wasm", "m/b.wasm"] 100 5099 actions := by
    constructor <;> simp [actions, Action.time?, Action.stored?]
  have young : ∀ span, config.span? = some span → 5099 - 100 < span := by
    intro span lasts
    cases lasts
    decide
  obtain ⟨reached, stored, held, _, hit, _⟩ :=
    hits 1 "m/b.wasm" rfl 5099 actions young undisturbed "m/b.wasm" (Path.Same.refl _)
  exact ⟨driver, reached, stored, success, held, hit⟩

/-- The size of a cache is not checked, and a table of this size takes more bytes than can be
counted. -/
theorem new_aborts_for_lack_of_memory :
    let config : PluginConfig :=
      ⟨.standard, ⟨true, .lfu, 2305843009213693952, ⟨false, 0⟩, ⟨false, none⟩⟩⟩
    config.validate = .ok () ∧ ∀ load discover clock,
      new .generous load discover clock config = .error .aborted := by
  intro config
  have valid : config.validate = .ok () := rfl
  have denied : ¬ config.Granted .generous := fun granted => absurd (granted rfl) (by decide)
  exact ⟨valid, fun load discover clock => new_of_denied valid denied⟩

end Driver

end WasmTasks
