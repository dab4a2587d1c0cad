import WasmTasks.Proofs.Cache.PolicySteps

/-!
The victims that the history dictates. A policy keeps counters, serials or an order, none of which
remembers the history; but they rank the tracked keys as the history does, and so the least
frequently used key is the one with the fewest accesses since it was admitted, and the least recently
used one is the one that was left alone for longest.
-/

namespace WasmTasks

namespace Cache

namespace Step

variable {step : Step} {path other : Path}

theorem admits_of_none (none : step.admitted? = none) (path : Path) : step.admits path = false := by
  simp [admits, none]

theorem admits_of_some (some : step.admitted? = some path) (other : Path) :
    step.admits other = decide (path.Same other) := by
  simp [admits, some]

theorem uses_of_none (none : step.used? = none) (path : Path) : step.uses path = false := by
  simp [uses, none]

theorem uses_of_some (some : step.used? = some path) (other : Path) :
    step.uses other = decide (path.Same other) := by
  simp [uses, some]

theorem admits_congr (same : path.Same other) : step.admits path = step.admits other := by
  simp only [admits, Path.decide_same_congr same]

theorem uses_congr (same : path.Same other) : step.uses path = step.uses other := by
  simp only [uses, Path.decide_same_congr same]

end Step

namespace History

variable {past : List Step} {path other : Path}

theorem age_cons (step : Step) (past : List Step) (path : Path) :
    age (step :: past) path = if step.admits path then 0 else age past path + 1 := by
  cases admits : step.admits path <;> simp [age, sinceAdmission, admits]

theorem accesses_cons (step : Step) (past : List Step) (path : Path) :
    accesses (step :: past) path =
      if step.admits path then 0 else accesses past path + if step.uses path then 1 else 0 := by
  cases admits : step.admits path <;>
    simp [accesses, sinceAdmission, admits, List.countP_cons]

theorem idle_cons (step : Step) (past : List Step) (path : Path) :
    idle (step :: past) path =
      if step.admits path || step.uses path then 0 else idle past path + 1 := by
  rw [idle, List.takeWhile_cons]
  cases step.admits path || step.uses path <;> rfl

theorem age_congr (same : path.Same other) : age past path = age past other := by
  simp only [age, sinceAdmission, Step.admits_congr same]

theorem accesses_congr (same : path.Same other) : accesses past path = accesses past other := by
  simp only [accesses, sinceAdmission, Step.admits_congr same, Step.uses_congr same]

theorem idle_congr (same : path.Same other) : idle past path = idle past other := by
  simp only [idle, Step.admits_congr same, Step.uses_congr same]

end History

/-! The order of use. -/

namespace Lru

open History

variable {past : List Step} {step : Step} {policy rest : Lru} {path victim : Path}

/-- Whoever stands further back was used more recently. -/
def Ranked (past : List Step) (policy : Lru) : Prop :=
  policy.order.Pairwise fun earlier later => idle past later < idle past earlier

theorem Ranked.pause (ranked : policy.Ranked past) (rests : ∀ path, step.admits path = false)
    (unused : ∀ path, step.uses path = false) : policy.Ranked (step :: past) := by
  refine List.Pairwise.imp ?_ ranked
  intro earlier later before
  simpa [idle_cons, rests, unused] using before

theorem Ranked.touch (ranked : policy.Ranked past)
    (touched : ∀ other, (step.admits other || step.uses other) = decide (path.Same other)) :
    (policy.touch path).Ranked (step :: past) := by
  have moved : ∀ other, idle (step :: past) other =
      if path.Same other then 0 else idle past other + 1 := by
    intro other
    simp [idle_cons, touched]
  have away : ∀ other ∈ (policy.remove path).order, ¬ path.Same other := by
    intro other member same
    have different : ¬ other.Same path := by simpa using (List.mem_filter.mp member).2
    exact different same.symm
  refine List.pairwise_append.mpr ⟨?_, List.pairwise_singleton _ _, ?_⟩
  · refine List.Pairwise.imp_of_mem ?_ (ranked.sublist List.filter_sublist)
    intro earlier later earlierHeld laterHeld before
    rw [moved, moved, if_neg (away _ earlierHeld), if_neg (away _ laterHeld)]
    omega
  · intro other member last lastMember
    obtain rfl := List.mem_singleton.mp lastMember
    rw [moved, moved, if_neg (away _ member), if_pos (Path.Same.refl _)]
    omega

theorem Ranked.of_evict? (ranked : policy.Ranked past)
    (chosen : policy.evict? = some (victim, rest)) :
    rest.Ranked past ∧ ∀ other ∈ rest.tracked, idle past other < idle past victim := by
  obtain ⟨order⟩ := policy
  cases order with
  | nil => cases chosen
  | cons oldest others =>
      cases chosen
      have parts := List.pairwise_cons.mp ranked
      exact ⟨parts.2, parts.1⟩

end Lru

/-! The counters and serials of accesses. -/

namespace Lfu

open History

variable {past : List Step} {step : Step} {policy rest : Lfu} {path victim : Path}

/-- Admitted earlier, by the serials and by the history. -/
structure Entry.Precedes (past : List Step) (earlier later : Entry) : Prop where
  serial : earlier.serial < later.serial
  age : age past later.path < age past earlier.path

structure Ranked (past : List Step) (policy : Lfu) : Prop where
  counted : ∀ entry ∈ policy.entries, entry.accesses = accesses past entry.path
  ordered : policy.entries.Pairwise (Entry.Precedes past)
  issued : ∀ entry ∈ policy.entries, entry.serial < policy.nextSerial

theorem Ranked.remove (ranked : policy.Ranked past) (path : Path) :
    (policy.remove path).Ranked past where
  counted := fun entry member => ranked.counted entry (List.mem_of_mem_filter member)
  ordered := ranked.ordered.sublist List.filter_sublist
  issued := fun entry member => ranked.issued entry (List.mem_of_mem_filter member)

theorem Ranked.pause (ranked : policy.Ranked past) (rests : ∀ path, step.admits path = false)
    (unused : ∀ path, step.uses path = false) : policy.Ranked (step :: past) where
  counted := by
    intro entry member
    rw [ranked.counted entry member]
    simp [accesses_cons, rests, unused]
  ordered := by
    refine List.Pairwise.imp ?_ ranked.ordered
    rintro earlier later ⟨serial, before⟩
    refine ⟨serial, ?_⟩
    simpa [age_cons, rests] using before
  issued := ranked.issued

theorem Ranked.touch (ranked : policy.Ranked past) (rests : ∀ path, step.admits path = false)
    (used : ∀ other, step.uses other = decide (path.Same other)) :
    (policy.touch path).Ranked (step :: past) where
  counted := by
    intro entry member
    obtain ⟨old, oldMember, rfl⟩ := List.mem_map.mp member
    have counted := ranked.counted old oldMember
    by_cases same : old.path.Same path
    · simp [accesses_cons, rests, used, same, same.symm, counted]
    · have different : ¬ path.Same old.path := fun other => same other.symm
      simp [accesses_cons, rests, used, same, different, counted]
  ordered := by
    refine List.pairwise_map.mpr (List.Pairwise.imp ?_ ranked.ordered)
    rintro earlier later ⟨serial, before⟩
    have aged : age (step :: past) later.path < age (step :: past) earlier.path := by
      simpa [age_cons, rests] using before
    -- a use changes neither the path nor the serial of an entry
    constructor
    · split <;> split <;> exact serial
    · split <;> split <;> exact aged
  issued := by
    intro entry member
    obtain ⟨old, oldMember, rfl⟩ := List.mem_map.mp member
    have issued := ranked.issued old oldMember
    split <;> exact issued

theorem Ranked.add (ranked : policy.Ranked past)
    (new : path.key ∉ Path.keys policy.tracked)
    (admitted : ∀ other, step.admits other = decide (path.Same other))
    (unused : ∀ other, step.uses other = false) : (policy.add path).Ranked (step :: past) := by
  have appended := entries_add_of_notMem new
  have away : ∀ entry ∈ policy.entries, ¬ path.Same entry.path := by
    intro entry member same
    exact new ((Path.mem_keys _ path).mpr ⟨entry.path, List.mem_map_of_mem member, same.symm⟩)
  have aged : ∀ entry ∈ policy.entries,
      age (step :: past) entry.path = age past entry.path + 1 := by
    intro entry member
    simp [age_cons, admitted, away entry member]
  have young : age (step :: past) path = 0 := by
    simp [age_cons, admitted, Path.Same.refl]
  refine ⟨?_, ?_, ?_⟩
  · rw [appended, List.forall_mem_append, List.forall_mem_singleton]
    constructor
    · intro entry member
      rw [ranked.counted entry member]
      simp [accesses_cons, admitted, unused, away entry member]
    · simp [accesses_cons, admitted, Path.Same.refl]
  · rw [appended]
    refine List.pairwise_append.mpr ⟨?_, List.pairwise_singleton _ _, ?_⟩
    · refine List.Pairwise.imp_of_mem ?_ ranked.ordered
      rintro earlier later earlierMember laterMember ⟨serial, before⟩
      refine ⟨serial, ?_⟩
      rw [aged earlier earlierMember, aged later laterMember]
      exact Nat.add_lt_add_right before 1
    · intro entry member last lastMember
      obtain rfl := List.mem_singleton.mp lastMember
      refine ⟨ranked.issued entry member, ?_⟩
      rw [aged entry member, young]
      exact Nat.succ_pos _
  · rw [appended, List.forall_mem_append, List.forall_mem_singleton]
    exact ⟨fun entry member => Nat.lt_succ_of_lt (ranked.issued entry member), Nat.lt_succ_self _⟩

theorem Ranked.precedes_or (ranked : policy.Ranked past) {first second : Entry}
    (firstHeld : first ∈ policy.entries) (secondHeld : second ∈ policy.entries)
    (apart : first ≠ second) : first.Precedes past second ∨ second.Precedes past first := by
  have symmetric : Std.Symm fun a b : Entry => a.Precedes past b ∨ b.Precedes past a :=
    ⟨fun _ _ => Or.symm⟩
  have linked : policy.entries.Pairwise fun a b => a.Precedes past b ∨ b.Precedes past a :=
    List.Pairwise.imp Or.inl ranked.ordered
  exact linked.forall firstHeld secondHeld apart

namespace Entry

theorem before_eq_true_iff (a b : Entry) : a.before b = true ↔
    a.accesses < b.accesses ∨ a.accesses = b.accesses ∧ a.serial < b.serial := by
  simp [before]

theorem before_eq_false_iff (a b : Entry) : a.before b = false ↔
    b.accesses < a.accesses ∨ b.accesses = a.accesses ∧ b.serial ≤ a.serial := by
  rw [← Bool.not_eq_true, before_eq_true_iff]
  omega

end Entry

theorem not_before_least? {entries : List Entry} {least : Entry}
    (found : least? entries = some least) :
    ∀ entry ∈ entries, entry.before least = false := by
  induction entries generalizing least with
  | nil => cases found
  | cons head others ih =>
      simp only [least?] at found
      cases known : least? others with
      | none =>
          rw [known] at found
          cases found
          simp [(least?_eq_none_iff others).mp known, Entry.before]
      | some best =>
          rw [known] at found
          have behind := ih known
          rw [List.forall_mem_cons]
          cases first : best.before head with
          | true =>
              simp only [first, if_true] at found
              cases found
              refine ⟨?_, behind⟩
              rw [Entry.before_eq_true_iff] at first
              rw [Entry.before_eq_false_iff]
              omega
          | false =>
              simp only [first, Bool.false_eq_true, if_false] at found
              cases found
              refine ⟨by simp [Entry.before], fun entry member => ?_⟩
              -- the head is the least: it is not behind `best`, and nobody else is in front of `best`
              have bestBehind := behind entry member
              rw [Entry.before_eq_false_iff] at first bestBehind ⊢
              omega

theorem Ranked.of_evict? (ranked : policy.Ranked past)
    (chosen : policy.evict? = some (victim, rest)) :
    rest.Ranked past ∧ ∀ other ∈ rest.tracked, accesses past victim < accesses past other ∨
      accesses past victim = accesses past other ∧ age past other < age past victim := by
  obtain ⟨least, found, same⟩ := Option.map_eq_some_iff.mp chosen
  cases same
  refine ⟨ranked.remove least.path, ?_⟩
  intro other member
  obtain ⟨entry, entryMember, rfl⟩ := List.mem_map.mp member
  obtain ⟨entryHeld, different⟩ := List.mem_filter.mp entryMember
  have leastHeld := mem_of_least? found
  have apart : entry ≠ least := by
    rintro rfl
    simp [Path.Same] at different
  have behind := not_before_least? found entry entryHeld
  rw [Entry.before_eq_false_iff] at behind
  rw [← ranked.counted least leastHeld, ← ranked.counted entry entryHeld]
  obtain ⟨serial, _⟩ | ⟨_, age⟩ := ranked.precedes_or entryHeld leastHeld apart
  · omega
  · omega

end Lfu

/-! Every policy along a run. -/

namespace Policy

variable {past : List Step} {step : Step} {policy next shrunk : Policy} {path : Path}

def Ranked (past : List Step) : Policy → Prop
  | lfu policy => policy.Ranked past
  | lru policy => policy.Ranked past
  | _ => True

theorem ranked_empty (kind : EvictionKind) (capacity : Nat) : (empty kind capacity).Ranked [] := by
  cases kind with
  | lfu => exact ⟨nofun, .nil, nofun⟩
  | lru => exact List.Pairwise.nil
  | _ => trivial

theorem Ranked.shrink (ranked : policy.Ranked past) (shrinks : policy.Shrinks shrunk) :
    shrunk.Ranked past := by
  induction shrinks with
  | refl => exact ranked
  | @remove current path _ ih =>
      cases current with
      | lfu current => exact Lfu.Ranked.remove ih path
      | lru current => exact List.Pairwise.sublist List.filter_sublist ih
      | _ => trivial
  | @evict current rest victim _ chosen ih =>
      cases current <;> simp only [evict?, Option.map_eq_some_iff] at chosen <;>
        obtain ⟨_, found, same⟩ := chosen <;> cases same
      · exact (Lfu.Ranked.of_evict? ih found).1
      · exact (Lru.Ranked.of_evict? ih found).1
      · trivial
      · trivial
  | @reorder current order _ ih =>
      cases current with
      | simple current =>
          rw [reorder]
          split <;> trivial
      | _ => exact ih

/-- What a step does to the policy, it does to the history. -/
theorem Ranked.follow (ranked : policy.Ranked past) (moves : step.Moves policy next) :
    next.Ranked (step :: past) := by
  cases moves with
  | rests noneAdmitted noneUsed shrinks =>
      have left := ranked.shrink shrinks
      have rests := Step.admits_of_none noneAdmitted
      have unused := Step.uses_of_none noneUsed
      cases next with
      | lfu next => exact Lfu.Ranked.pause left rests unused
      | lru next => exact Lru.Ranked.pause left rests unused
      | _ => trivial
  | uses noneAdmitted used =>
      have rests := Step.admits_of_none noneAdmitted
      have touched := Step.uses_of_some used
      cases policy with
      | lfu policy => exact Lfu.Ranked.touch ranked rests touched
      | lru policy =>
          exact Lru.Ranked.touch ranked fun other => by rw [rests, touched, Bool.false_or]
      | _ => trivial
  | @admits path shrunk admitted noneUsed shrinks new =>
      have left := ranked.shrink shrinks
      have touched := Step.admits_of_some admitted
      have unused := Step.uses_of_none noneUsed
      cases shrunk with
      | lfu shrunk => exact Lfu.Ranked.add left new touched unused
      | lru shrunk =>
          exact Lru.Ranked.touch left fun other => by rw [unused, touched, Bool.or_false]
      | _ => trivial

end Policy

end Cache

namespace ModuleCache

open Cache

variable {cache : ModuleCache} {now : Nat} {victim : Path} {policy : Policy} {past : List Step}

theorem Coherent.tracked_of_evict? (coherent : cache.Coherent)
    (chosen : cache.policy.evict? = some (victim, policy)) {entry : Entry}
    (member : entry ∈ cache.entries) (spared : ¬ entry.stored.key.Same victim) :
    ∃ tracked ∈ policy.tracked, tracked.Same entry.stored.key := by
  have held : entry.stored.key.key ∈ cache.keys :=
    (cache.mem_keys entry.stored.key).mpr ⟨entry, member, Path.Same.refl _⟩
  have tracked := (coherent.mem_policy_iff _).mpr held
  rw [(Policy.keys_evict?_perm coherent.policy_nodup chosen).mem_iff, List.mem_cons] at tracked
  exact (Path.mem_keys policy.tracked entry.stored.key).mp (tracked.resolve_left spared)

theorem Coherent.idle_lt_victim (coherent : cache.Coherent) (lru : cache.policy.kind = .lru)
    (ranked : cache.policy.Ranked past) (chosen : cache.policy.evict? = some (victim, policy)) :
    ∀ entry ∈ cache.entries, ¬ entry.stored.key.Same victim →
      History.idle past entry.stored.key < History.idle past victim := by
  intro entry member spared
  obtain ⟨other, tracked, same⟩ := coherent.tracked_of_evict? chosen member spared
  rw [← History.idle_congr same]
  cases found : cache.policy with
  | lru current =>
      rw [found] at ranked chosen
      obtain ⟨_, evicted, parts⟩ := Option.map_eq_some_iff.mp chosen
      cases parts
      exact (Lru.Ranked.of_evict? ranked evicted).2 other tracked
  | _ =>
      rw [found] at lru
      cases lru

theorem Coherent.victim_least_accessed (coherent : cache.Coherent)
    (lfu : cache.policy.kind = .lfu) (ranked : cache.policy.Ranked past)
    (chosen : cache.policy.evict? = some (victim, policy)) :
    ∀ entry ∈ cache.entries, ¬ entry.stored.key.Same victim →
      History.accesses past victim < History.accesses past entry.stored.key ∨
        History.accesses past victim = History.accesses past entry.stored.key ∧
          History.age past entry.stored.key < History.age past victim := by
  intro entry member spared
  obtain ⟨other, tracked, same⟩ := coherent.tracked_of_evict? chosen member spared
  rw [← History.accesses_congr same, ← History.age_congr same]
  cases found : cache.policy with
  | lfu current =>
      rw [found] at ranked chosen
      obtain ⟨_, evicted, parts⟩ := Option.map_eq_some_iff.mp chosen
      cases parts
      exact (Lfu.Ranked.of_evict? ranked evicted).2 other tracked
  | _ =>
      rw [found] at lfu
      cases lfu

end ModuleCache

namespace Cache.Clocked

open ModuleCache

theorem ranked_run {state : Clocked} (coherent : state.cache.Coherent)
    (ranked : state.cache.policy.Ranked []) (operations : List Operation) :
    (state.run operations).cache.policy.Ranked (state.past operations) := by
  induction operations using List.reverseRecOn with
  | nil => exact ranked
  | append_singleton earlier operation ih =>
      rw [run_concat, past_concat]
      exact ih.follow (moves_apply (run_coherent earlier state coherent).1 operation)

/-- After any run a put takes out what it evicts and nothing else, and each eviction is counted. What
it evicts was held, and the history names it: of all held keys a least frequently used cache gives
up the one with the fewest accesses since its admission, and of those the one admitted first; a least
recently used cache gives up the one put or hit longest ago. -/
theorem run_evicts_as_history_dictates {capacity : Nat} {kind : EvictionKind}
    {lifetime : Option Nat} {fresh : ModuleCache}
    {allocator : Allocator}
    (made : ModuleCache.new allocator capacity kind lifetime = .ok fresh) (start : Nat)
    (operations : List Operation) :
    let initial := Clocked.mk fresh start
    let reached := initial.run operations
    let past := initial.past operations
    ∀ stored,
      let next := reached.cache.put reached.now stored
      let victims := reached.cache.displaced reached.now stored
      next.counters.evictions = reached.cache.counters.evictions + victims.length ∧
      ∀ victim ∈ victims,
        (∃ entry ∈ reached.cache.entries, entry.stored.key.Same victim) ∧
        next.entries = reached.cache.without victim ++ [⟨stored, reached.now⟩] ∧
        (kind = .lfu → ∀ entry ∈ reached.cache.entries, ¬ entry.stored.key.Same victim →
          History.accesses past victim < History.accesses past entry.stored.key ∨
            History.accesses past victim = History.accesses past entry.stored.key ∧
              History.age past entry.stored.key < History.age past victim) ∧
        (kind = .lru → ∀ entry ∈ reached.cache.entries, ¬ entry.stored.key.Same victim →
          History.idle past entry.stored.key < History.idle past victim) := by
  intro initial reached past stored next victims
  obtain ⟨_, _, unused⟩ := new_eq_ok made
  have freshCoherent : initial.cache.Coherent := (Coherent.of_new made).1
  have freshPolicy : initial.cache.policy = .empty kind capacity :=
    congrArg ModuleCache.policy unused
  have coherent : reached.cache.Coherent := (run_coherent operations initial freshCoherent).1
  have ranked : reached.cache.policy.Ranked past := by
    refine ranked_run freshCoherent ?_ operations
    rw [freshPolicy]
    exact Policy.ranked_empty kind capacity
  have sameKind : reached.cache.policy.kind = kind := by
    rw [kind_run freshCoherent, freshPolicy, Policy.kind_empty]
  obtain ⟨none, unchanged, _⟩ | ⟨victim, policy, _, overflows, only, evicted⟩ :=
    coherent.displaced_cases reached.now stored
  · refine ⟨?_, fun victim displaced => ?_⟩
    · simp only [next, victims, none, unchanged, List.length_nil, Nat.add_zero]
    · rw [show victims = [] from none] at displaced
      cases displaced
  · have counted := overflows.evictions_evict
    have left := overflows.entries_evict
    refine ⟨?_, ?_⟩
    · simp only [next, victims, only, evicted, ModuleCache.insert, counted, List.length_singleton]
    · rw [show victims = [victim] from only, List.forall_mem_singleton]
      refine ⟨(reached.cache.mem_keys victim).mp overflows.held, ?_, ?_, ?_⟩
      · simp only [next, evicted, ModuleCache.insert, left]
      · intro lfu
        exact coherent.victim_least_accessed (sameKind.trans lfu) ranked overflows.chosen
      · intro lru
        exact coherent.idle_lt_victim (sameKind.trans lru) ranked overflows.chosen

/-- Both keys were used once, and the one admitted first goes. -/
theorem run_evicts_as_history_dictates_tie :
    let named (name : String) : CachedModule := ⟨.ofString name, .wasmtime, [], ""⟩
    let fresh : ModuleCache := ⟨2, none, .lfu .empty, [], .zero⟩
    let operations := [.put (named "a"), .put (named "b"), .put (named "b"), .get "a/"]
    let reached := (Clocked.mk fresh 0).run operations
    let past := (Clocked.mk fresh 0).past operations
    ModuleCache.new .generous 2 .lfu none = .ok fresh ∧
      reached.cache.displaced reached.now (named "c") = [.ofString "a"] ∧
      (reached.cache.put reached.now (named "c")).entries = [⟨named "b", 0⟩, ⟨named "c", 0⟩] ∧
      History.accesses past "a" = 1 ∧ History.accesses past "b" = 1 ∧
      History.age past "b" < History.age past "a" := by
  intro named fresh operations reached past
  have made : ModuleCache.new .generous 2 .lfu none = .ok fresh := rfl
  have displaced : reached.cache.displaced reached.now (named "c") = [.ofString "a"] := by cbv
  have first : History.accesses past "a" = 1 := by cbv
  have second : History.accesses past "b" = 1 := by cbv
  have entries : reached.cache.entries = [⟨named "a", 0⟩, ⟨named "b", 0⟩] := by cbv
  have same : (named "a").key.Same "a" := Path.Same.refl _
  have apart : ¬ (named "b").key.Same "a" := by decide
  obtain ⟨_, dictated⟩ := run_evicts_as_history_dictates made 0 operations (named "c")
  obtain ⟨_, left, least, _⟩ := dictated "a" (displaced ▸ List.mem_singleton_self _)
  have others : reached.cache.without "a" = [⟨named "b", 0⟩] := by
    rw [ModuleCache.without, entries]
    simp [same, apart]
  have member : (⟨named "b", 0⟩ : Entry) ∈ reached.cache.entries := by
    rw [entries]
    exact List.mem_cons_of_mem _ (List.mem_singleton_self _)
  refine ⟨made, displaced, left.trans (by rw [others]; rfl), first, second, ?_⟩
  obtain fewer | ⟨_, older⟩ := least rfl ⟨named "b", 0⟩ member apart
  · change History.accesses past "a" < History.accesses past "b" at fewer
    omega
  · exact older

end Cache.Clocked

end WasmTasks
