import WasmTasks.Proofs.Cache.Workspace
import WasmTasks.Proofs.FileTree.Spelling

/-!
Resolving with a cache and without one, over files that do not change. The outcomes are the same but
for one case: a module that is held under one spelling of its path is found under every other one,
also under one that the system refuses to open.
-/

namespace WasmTasks

open WasmTasks.Path

/-- The same module, its key's spelling aside, or the same error. -/
inductive SameOutcome :
    Except DriverError CachedModule → Except DriverError CachedModule → Prop where
  | ok {first second : CachedModule} (hash : first.contentHash = second.contentHash)
      (backend : first.backend = second.backend) (artifact : first.artifact = second.artifact) :
      SameOutcome (.ok first) (.ok second)
  | error (error : DriverError) : SameOutcome (.error error) (.error error)

theorem SameOutcome.refl (outcome : Except DriverError CachedModule) :
    SameOutcome outcome outcome := by
  cases outcome with
  | ok module => exact .ok rfl rfl rfl
  | error error => exact .error error

variable {μ ν : Type} {machine : Machine μ ν}

namespace Machine

variable {tree : FileTree} {path other : Path} {module : CachedModule} {time : Nat}

theorem loadModule_of_same (same : other.Same path)
    (loaded : machine.loadModule tree other = .ok module) :
    SameOutcome (.ok module) (machine.loadModule tree path) ∨
      ∃ refusal, machine.loadModule tree path = .error (.load path (.unreadable refusal.message)) ∧
        Misspelt path refusal := by
  obtain ⟨content, found, cached⟩ := loadModule_eq_ok_iff.mp loaded
  obtain ⟨nonempty, module, artifact, compiled, serialized, rfl⟩ := cachedOf_eq_ok_iff.mp cached
  obtain again | ⟨refusal, refused, misspelt⟩ := FileTree.read_of_same same found
  · have reloaded := loadModule_eq_ok_iff.mpr ⟨content, again, cachedOf_eq_ok_iff.mpr
      ⟨nonempty, module, artifact, compiled, serialized, rfl⟩⟩
    rw [reloaded]
    exact .inl (.ok rfl rfl rfl)
  · refine .inr ⟨refusal, ?_, misspelt⟩
    rw [loadModule, refused]

theorem tree_of_loadAt? {load : Load machine}
    (made : machine.loadAt? tree time path = some load) : load.tree = tree := by
  unfold loadAt? at made
  split at made
  · cases made
  · cases made
    rfl

theorem tree_of_mem_loadsAlong {load : Load machine} (paths : List Path)
    (member : load ∈ machine.loadsAlong tree time paths) : load.tree = tree := by
  induction paths with
  | nil => cases member
  | cons path rest ih =>
      unfold loadsAlong at member
      split at member
      · cases member
      · rename_i first made
        rcases List.mem_append.mp member with later | only
        · exact ih later
        · rw [List.mem_singleton.mp only]
          exact tree_of_loadAt? made

end Machine

namespace Workspace

open Cache Clocked Machine

def Action.changesFiles : Action → Bool
  | .write _ _ => true
  | .delete _ => true
  | _ => false

variable {state : Workspace}

theorem tree_of_mem_loadsOf {action : Action} {load : Load machine}
    (member : load ∈ state.loadsOf machine action) : load.tree = state.tree := by
  cases action with
  | resolve path =>
      simp only [loadsOf] at member
      split at member
      · cases member
      · exact tree_of_loadAt? (Option.mem_toList.mp member)
  | warm dir =>
      simp only [loadsOf] at member
      split at member
      · cases member
      · split at member
        · cases member
        · exact tree_of_mem_loadsAlong _ member
  | _ => cases member

theorem tree_apply (machine : Machine μ ν) {action : Action}
    (still : action.changesFiles = false) : (state.apply machine action).tree = state.tree := by
  cases action with
  | write path node => cases still
  | delete path => cases still
  | _ => rfl

theorem tree_run (machine : Machine μ ν) (state : Workspace) (actions : List Action)
    (still : ∀ action ∈ actions, action.changesFiles = false) :
    (state.run machine actions).tree = state.tree ∧
      ∀ load ∈ state.loads machine actions, load.tree = state.tree := by
  induction actions using List.reverseRecOn with
  | nil => exact ⟨rfl, nofun⟩
  | append_singleton earlier last ih =>
      obtain ⟨same, loads⟩ := ih fun action member => still action (List.mem_append_left _ member)
      rw [run_concat, loads_concat]
      refine ⟨?_, fun load member => ?_⟩
      · have lastStill := still last (List.mem_append_right _ List.mem_cons_self)
        exact (tree_apply machine lastStill).trans same
      · rcases List.mem_append.mp member with made | earlier
        · exact (tree_of_mem_loadsOf made).trans same
        · exact loads load earlier

/-- The cache changes no outcome while the files stay as they are, with one exception: a module that
was loaded under one spelling of its path is found under another one which the system refuses,
because it ends as only a directory's name may or because it is too long. -/
theorem run_resolves_as_uncached {capacity : Nat} {kind : EvictionKind} {lifetime : Option Nat}
    {fresh : ModuleCache} {allocator : Allocator}
    (made : ModuleCache.new allocator capacity kind lifetime = .ok fresh) (machine : Machine μ ν)
    (start : Nat) (tree : FileTree) (actions : List Action)
    (still : ∀ action ∈ actions, action.changesFiles = false) (path : Path) :
    let reached := Workspace.run machine ⟨⟨fresh, start⟩, tree⟩ actions
    let load := machine.loadModule tree
    let cached := (resolveModule load reached.now reached.now (some reached.cache) path).1
    let plain := (resolveModule load reached.now reached.now none path).1
    SameOutcome cached plain ∨
      ∃ module refusal, cached = .ok module ∧ module.key.Same path ∧
        load module.key = .ok module ∧
        plain = .error (.load path (.unreadable refusal.message)) ∧ Misspelt path refusal := by
  intro reached load cached plain
  let initial : Workspace := ⟨⟨fresh, start⟩, tree⟩
  have recorded : Recorded lifetime (initial.loads machine actions) reached.toClocked :=
    recorded_run (Recorded.of_new made start) actions
  obtain ⟨_, unchanged⟩ := tree_run machine initial actions still
  simp only [cached, resolveModule_eq load reached.toClocked path]
  obtain ⟨module, hit, same⟩ | ⟨missed, ⟨error, failed, same⟩ | ⟨module, loaded, same⟩⟩ :=
    resolve_cases load reached.toClocked path
  · obtain ⟨⟨last, latest, rfl, _⟩, _⟩ := resolved_of_hit recorded hit
    have known : last.tree = tree := unchanged last (List.mem_of_find?_eq_some latest)
    have own : last.path.Same path := by simpa using List.find?_some latest
    have succeeded := last.succeeded
    rw [known] at succeeded
    rw [same]
    refine (loadModule_of_same own succeeded).imp_right ?_
    rintro ⟨refusal, refused, misspelt⟩
    refine ⟨last.module, refusal, rfl, ?_, ?_, refused, misspelt⟩
    · rwa [last.key]
    · rwa [last.key]
  · rw [same]
    exact .inl (failed ▸ .refl _)
  · rw [same]
    exact .inl (loaded ▸ .refl _)

/-- `d//a` is found once `d/a` was loaded, and would be loaded as well. -/
theorem run_resolves_as_uncached_respelt :
    let machine := Description.machine []
    let files := [(Text.Utf8.encode "a", .file Description.shortest)]
    let tree : FileTree := ⟨[(Text.Utf8.encode "d", .directory files)], .root⟩
    let fresh : ModuleCache := ⟨1, some 5, .lru .empty, [], .zero⟩
    let actions := [.resolve "d/a", .advance 4]
    let reached := Workspace.run machine ⟨⟨fresh, 0⟩, tree⟩ actions
    let load := machine.loadModule tree
    ModuleCache.new .generous 1 .lru (some 5) = .ok fresh ∧
      (∀ action ∈ actions, action.changesFiles = false) ∧
      SameOutcome (resolveModule load reached.now reached.now (some reached.cache) "d//a").1
        (resolveModule load reached.now reached.now none "d//a").1 := by
  intro machine files tree fresh actions reached load
  have made : ModuleCache.new .generous 1 .lru (some 5) = .ok fresh := rfl
  have still : ∀ action ∈ actions, action.changesFiles = false := by decide
  have read : tree.read "d//a" = .ok Description.shortest := by cbv
  have loaded : load "d//a" = .ok (Description.shortestAt "d//a") :=
    Description.loadModule_shortest read
  refine ⟨made, still, ?_⟩
  obtain same | ⟨_, _, _, _, _, refused, _⟩ :=
    run_resolves_as_uncached made machine 0 tree actions still "d//a"
  · exact same
  · cases loaded.symm.trans refused

/-- A slash after the name of a file: refused by the system, but found once the file was loaded. -/
theorem resolves_trailing_slash_if_cached :
    let machine := Description.machine []
    let tree : FileTree := ⟨[(Text.Utf8.encode "m", .file Description.shortest)], .root⟩
    let fresh : ModuleCache := ⟨1, none, .lru .empty, [], .zero⟩
    let reached := Workspace.run machine ⟨⟨fresh, 0⟩, tree⟩ [.resolve "m"]
    let load := machine.loadModule tree
    let path : Path := "m/"
    let cached := (resolveModule load reached.now reached.now (some reached.cache) path).1
    let plain := (resolveModule load reached.now reached.now none path).1
    ModuleCache.new .generous 1 .lru none = .ok fresh ∧
      cached = .ok (Description.shortestAt "m") ∧
      plain = .error (.load path (.unreadable "Not a directory (os error 20)")) ∧
      ¬ SameOutcome cached plain := by
  intro machine tree fresh reached load path cached plain
  let module := Description.shortestAt "m"
  have read : tree.read "m" = .ok Description.shortest := by cbv
  let cache : ModuleCache := ⟨1, none, .lru ⟨["m"]⟩, [⟨module, 0⟩], ⟨0, 1, 0, 0⟩⟩
  have first : reached = ⟨⟨cache, 0⟩, tree⟩ :=
    apply_resolve_unused Nat.one_pos (Description.loadModule_shortest read)
  have same : module.key.Same path := by decide
  have held : cache.find? path = some ⟨module, 0⟩ := by
    simp [ModuleCache.find?, cache, same]
  have hit : (cache.get 0 path).1 = some module :=
    congrArg Prod.fst (ModuleCache.get_of_fresh held rfl)
  have answered : cached = .ok module := by
    have found : (Clocked.resolve load ⟨cache, 0⟩ path).1 = .ok module := by
      rw [resolve_of_hit hit]
    simp only [cached, first]
    exact found
  have refused : plain = .error (.load path (.unreadable "Not a directory (os error 20)")) := by
    have unread : tree.read path = .error .notADirectory := by cbv
    change machine.loadModule tree path = _
    rw [Machine.loadModule, unread]
    rfl
  refine ⟨rfl, answered, refused, ?_⟩
  rw [answered, refused]
  intro agree
  cases agree

end Workspace

end WasmTasks
