import WasmTasks.Proofs.Cache.History

/-!
A cache answers from its history. It holds a module for exactly as long as the put that brought it
in is the latest of its key, is younger than the lifetime, and was not undone by a removal, a clear
or an eviction; and it evicts only a full cache of live entries.
-/

namespace WasmTasks

namespace Cache

namespace History

variable {past : List Step} {step : Step} {entry : Entry}

@[simp] theorem not_stored_nil : ¬ Stored [] entry := by
  rintro ⟨since, step, earlier, parts, _⟩
  simp at parts

theorem stored_cons :
    Stored (step :: past) entry ↔
      step.Brings entry ∨ Stored past entry ∧ step.Spares entry.stored.key := by
  constructor
  · rintro ⟨since, source, earlier, parts, brings, spares⟩
    cases since with
    | nil =>
        cases parts
        exact .inl brings
    | cons latest since =>
        obtain ⟨rfl, rest⟩ := List.cons.inj parts
        have kept := List.forall_mem_cons.mp spares
        exact .inr ⟨⟨since, source, earlier, rest, brings, kept.2⟩, kept.1⟩
  · rintro (brings | ⟨⟨since, source, earlier, rfl, brings, spares⟩, latest⟩)
    · exact ⟨[], step, past, rfl, brings, nofun⟩
    · exact ⟨step :: since, source, earlier, rfl, brings, List.forall_mem_cons.mpr ⟨latest, spares⟩⟩

end History

namespace Clocked

variable {state : Clocked} {entry : Entry}

theorem lifetime_run (coherent : state.cache.Coherent) (operations : List Operation) :
    (state.run operations).cache.lifetime = state.cache.lifetime := by
  induction operations using List.reverseRecOn with
  | nil => rfl
  | append_singleton earlier operation ih =>
      rw [run_concat, lifetime_apply (run_coherent earlier state coherent).1, ih]

/-- The live entries are those which the history stored and which have not expired. -/
theorem mem_live_run (coherent : state.cache.Coherent) (empty : state.cache.entries = [])
    (operations : List Operation) :
    entry ∈ (state.run operations).live ↔
      History.Stored (state.past operations) entry ∧
        state.cache.isExpired (state.run operations).now entry = false := by
  induction operations using List.reverseRecOn with
  | nil => simp [run, live, ModuleCache.live, empty]
  | append_singleton earlier operation ih =>
      have reached := (run_coherent earlier state coherent).1
      have same := ModuleCache.isExpired_congr (lifetime_run coherent earlier)
      rw [run_concat, past_concat, mem_live_apply reached, History.stored_cons, ih, same]
      -- time only moves on, so what is fresh after the step was fresh before it
      refine and_congr_left fun fresh => or_congr_right (and_congr_left fun _ => ?_)
      have before := ModuleCache.isExpired_of_le (now_le_apply (state.run earlier) operation) fresh
      exact and_iff_left before

end Clocked

end Cache

namespace ModuleCache

open Cache

variable {cache : ModuleCache} {now : Nat}

theorem Coherent.find?_put (coherent : cache.Coherent) (now : Nat) (stored : CachedModule) :
    (cache.put now stored).find? stored.key = some ⟨stored, now⟩ := by
  rw [find?_eq_some_iff (coherent.put now stored).nodup]
  refine ⟨?_, Path.Same.refl _⟩
  by_cases held : stored.key.key ∈ cache.keys
  · rw [put_of_held held, mem_entries_replace held]
    exact .inl rfl
  · rw [put_of_new held, mem_entries_insert]
    exact .inr rfl

theorem Coherent.contains_put_iff (coherent : cache.Coherent) (stored : CachedModule) (later : Nat) :
    (cache.put now stored).contains later stored.key = true ↔
      ∀ span, cache.lifetime = some span → later - now < span := by
  rw [contains, coherent.find?_put, isExpired_congr (coherent.lifetime_put now stored),
    Bool.not_eq_true']
  exact isExpired_eq_false_iff

theorem Coherent.put_makes_room (coherent : cache.Coherent) (now : Nat) (stored : CachedModule) :
    cache.displaced now stored = [] ∧
        (cache.put now stored).counters.evictions = cache.counters.evictions ∨
      ∃ victim, cache.displaced now stored = [victim] ∧ ¬ victim.Same stored.key ∧
        (cache.find? victim).isSome = true ∧
        (cache.put now stored).entries = cache.without victim ++ [⟨stored, now⟩] ∧
        (cache.put now stored).counters.evictions = cache.counters.evictions + 1 := by
  obtain ⟨none, counted, _⟩ | ⟨victim, policy, absent, overflows, only, same⟩ :=
    coherent.displaced_cases now stored
  · exact .inl ⟨none, counted⟩
  · refine .inr ⟨victim, only, ?_, ?_, ?_, ?_⟩
    · intro own
      exact (cache.find?_eq_none_iff stored.key).mp absent (own ▸ overflows.held)
    · exact (cache.isSome_find?_iff victim).mpr overflows.held
    · rw [← overflows.entries_evict]
      exact congrArg ModuleCache.entries same
    · rw [← overflows.evictions_evict]
      exact congrArg (fun cache => cache.counters.evictions) same

theorem contains_get_of_hit {path : Path} {stored : CachedModule}
    (hit : (cache.get now path).1 = some stored) (later : Nat) (other : Path) :
    (cache.get now path).2.contains later other = cache.contains later other := by
  obtain ⟨_, _, _, _, used⟩ := get_of_hit hit
  rw [used]
  rfl

end ModuleCache

namespace Cache.Clocked

open ModuleCache

/-- After any run a module is found under a path if and only if the latest put of the path stored it,
less than a lifetime ago, and neither a removal nor a clear nor an eviction took it out since. A put
takes a victim if and only if its key is new and every slot holds a live entry, and then exactly one
other entry makes room. Hits prolong no life, and a put begins one. -/
theorem run_answers_from_history {capacity : Nat} {kind : EvictionKind} {lifetime : Option Nat}
    {fresh : ModuleCache} {allocator : Allocator}
    (made : ModuleCache.new allocator capacity kind lifetime = .ok fresh)
    (start : Nat) (operations : List Operation) :
    let initial := Clocked.mk fresh start
    let reached := initial.run operations
    let past := initial.past operations
    let young (time : Nat) := ∀ span, lifetime = some span → reached.now - time < span
    (∀ path stored, (reached.cache.get reached.now path).1 = some stored ↔
        stored.key.Same path ∧ ∃ time, History.Stored past ⟨stored, time⟩ ∧ young time) ∧
      (∀ path, reached.cache.contains reached.now path = true ↔
        ∃ stored time, stored.key.Same path ∧ History.Stored past ⟨stored, time⟩ ∧ young time) ∧
      (∀ stored, reached.cache.displaced reached.now stored ≠ [] ↔
        reached.cache.find? stored.key = none ∧ reached.cache.entries.length = capacity ∧
          ∀ entry ∈ reached.cache.entries, young entry.insertedAt) ∧
      (∀ stored, let next := reached.cache.put reached.now stored
        reached.cache.displaced reached.now stored = [] ∧
            next.counters.evictions = reached.cache.counters.evictions ∨
          ∃ victim, reached.cache.displaced reached.now stored = [victim] ∧
            ¬ victim.Same stored.key ∧ (reached.cache.find? victim).isSome = true ∧
            next.entries = reached.cache.without victim ++ [⟨stored, reached.now⟩] ∧
            next.counters.evictions = reached.cache.counters.evictions + 1) ∧
      (∀ path stored, (reached.cache.get reached.now path).1 = some stored →
        ∀ later other, (reached.cache.get reached.now path).2.contains later other =
          reached.cache.contains later other) ∧
      ∀ stored later, (reached.cache.put reached.now stored).contains later stored.key = true ↔
        ∀ span, lifetime = some span → later - reached.now < span := by
  intro initial reached past young
  obtain ⟨_, _, unused⟩ := new_eq_ok made
  have lifetimeFresh : fresh.lifetime = lifetime := by rw [unused]
  have freshCoherent : initial.cache.Coherent := (Coherent.of_new made).1
  have empty : initial.cache.entries = [] := congrArg ModuleCache.entries unused
  have coherent : reached.cache.Coherent := (run_coherent operations initial freshCoherent).1
  have sameCapacity : reached.cache.capacity = capacity :=
    (run_coherent operations initial freshCoherent).2.trans (Coherent.of_new made).2
  have sameLifetime : reached.cache.lifetime = lifetime :=
    (lifetime_run freshCoherent operations).trans lifetimeFresh
  have youngIff (entry : Entry) :
      reached.cache.isExpired reached.now entry = false ↔ young entry.insertedAt := by
    rw [isExpired_eq_false_iff, sameLifetime]
  have stored (entry : Entry) : entry ∈ reached.cache.live reached.now ↔
      History.Stored past entry ∧ young entry.insertedAt := by
    rw [← youngIff, isExpired_congr (lifetime_run freshCoherent operations)]
    exact mem_live_run freshCoherent empty operations
  refine ⟨?_, ?_, ?_, ?_, ?_, ?_⟩
  · intro path module
    rw [get_eq_some_iff coherent.nodup]
    constructor
    · rintro ⟨⟨_, time⟩, member, same, rfl⟩
      exact ⟨same, time, (stored _).mp member⟩
    · rintro ⟨same, time, member⟩
      exact ⟨⟨module, time⟩, (stored _).mpr member, same, rfl⟩
  · intro path
    rw [contains_iff coherent.nodup]
    constructor
    · rintro ⟨⟨module, time⟩, member, same⟩
      exact ⟨module, time, same, (stored _).mp member⟩
    · rintro ⟨module, time, same, member⟩
      exact ⟨⟨module, time⟩, (stored _).mpr member, same⟩
  · intro module
    rw [coherent.displaced_ne_nil_iff, sameCapacity]
    simp only [youngIff]
  · exact coherent.put_makes_room reached.now
  · intro path module hit
    exact contains_get_of_hit hit
  · intro module later
    rw [coherent.contains_put_iff, sameLifetime]

theorem run_answers_from_history_stored :
    let named (name : String) : CachedModule := ⟨.ofString name, .wasmtime, [], ""⟩
    let fresh : ModuleCache := ⟨1, some 5, .lru .empty, [], .zero⟩
    let reached := (Clocked.mk fresh 0).run [.put (named "a"), .advance 4]
    ModuleCache.new .generous 1 .lru (some 5) = .ok fresh ∧
      (reached.cache.get reached.now "a/").1 = some (named "a") ∧
      reached.cache.displaced reached.now (named "b") ≠ [] := by
  intro named fresh reached
  have made : ModuleCache.new .generous 1 .lru (some 5) = .ok fresh := rfl
  obtain ⟨found, _, displaces, _⟩ :=
    run_answers_from_history made 0 [.put (named "a"), .advance 4]
  have spared : Step.Spares ⟨(Clocked.mk fresh 0).apply (.put (named "a")), .advance 4⟩ "a" :=
    (Step.spares_of_not_put rfl).mpr nofun
  have same : (Path.ofString "a").Same "a/" := by
    unfold Path.Same
    cbv
  have entries : reached.cache.entries = [⟨named "a", 0⟩] := by cbv
  have absent : reached.cache.find? "b" = none := by cbv
  refine ⟨made, (found "a/" (named "a")).mpr ⟨same, 0, ?_, ?_⟩,
    (displaces (named "b")).mpr ⟨absent, congrArg List.length entries, ?_⟩⟩
  · exact ⟨_, ⟨⟨fresh, 0⟩, .put (named "a")⟩, [], rfl, ⟨rfl, rfl⟩,
      List.forall_mem_singleton.mpr spared⟩
  · rintro span ⟨⟩
    decide
  · intro entry member
    rw [entries] at member
    obtain rfl := List.mem_singleton.mp member
    rintro span ⟨⟩
    decide

end Cache.Clocked

end WasmTasks
