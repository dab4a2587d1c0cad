import Mathlib
import WasmTasks.Proofs.Cache.PolicyKeys

/-!
The contract of a replacement policy, over any calls that a cache may make: it tracks the keys that
were added and have not left since, and gives up each of them once when it is asked often enough.
A simple policy may take up its keys in another order before every victim.
-/

namespace WasmTasks.Cache.Policy

/-- A call, and the victim of one that asked for a victim. -/
inductive Event where
  | add (path : Path)
  | touch (path : Path)
  | remove (path : Path)
  | evict (victim? : Option Path)

namespace Event

def Adds (event : Event) (path : Path) : Prop :=
  match event with
  | add added => added.Same path
  | _ => False

def Drops (event : Event) (path : Path) : Prop :=
  match event with
  | remove removed => removed.Same path
  | evict (some victim) => victim.Same path
  | _ => False

end Event

/-- What a call does. Only keys that are not tracked are added, and only tracked ones are used. -/
inductive Does (policy : Policy) : Event → Policy → Prop
  | add {path : Path} (new : path.key ∉ policy.keys) : Does policy (.add path) (policy.add path)
  | touch {path : Path} (held : path.key ∈ policy.keys) :
      Does policy (.touch path) (policy.touch path)
  | remove (path : Path) : Does policy (.remove path) (policy.remove path)
  | evict {order : List Path} {victim : Path} {rest : Policy}
      (chosen : (policy.reorder order).evict? = some (victim, rest)) :
      Does policy (.evict (some victim)) rest
  | exhaust {order : List Path} (exhausted : (policy.reorder order).evict? = none) :
      Does policy (.evict none) policy

/-- The calls that lead from one policy to another, the latest first. -/
inductive Runs (policy : Policy) : List Event → Policy → Prop
  | nil : Runs policy [] policy
  | cons {past : List Event} {current next : Policy} {event : Event} :
      Runs policy past current → Does current event next → Runs policy (event :: past) next

/-- The calls, the latest first, added the key, and none since then dropped it. -/
def Keeps (past : List Event) (path : Path) : Prop :=
  ∃ since event before, past = since ++ event :: before ∧ event.Adds path ∧
    ∀ later ∈ since, ¬ later.Drops path

variable {policy next last : Policy} {event : Event} {past later : List Event} {path victim : Path}

theorem keeps_cons :
    Keeps (event :: past) path ↔ event.Adds path ∨ Keeps past path ∧ ¬ event.Drops path := by
  constructor
  · rintro ⟨since, added, before, split, adds, spared⟩
    cases since with
    | nil =>
        cases split
        exact .inl adds
    | cons first since =>
        cases split
        exact .inr ⟨⟨since, added, before, rfl, adds, fun _ member => spared _ (.tail _ member)⟩,
          spared _ (.head _)⟩
  · rintro (adds | ⟨⟨since, added, before, rfl, adds, spared⟩, spares⟩)
    · exact ⟨[], event, past, rfl, adds, nofun⟩
    · refine ⟨event :: since, added, before, rfl, adds, fun later member => ?_⟩
      rcases List.mem_cons.mp member with rfl | member
      · exact spares
      · exact spared later member

theorem Runs.append {current : Policy} (runs : policy.Runs past current)
    (further : current.Runs later last) : policy.Runs (later ++ past) last := by
  induction further with
  | nil => exact runs
  | cons _ does ih => exact .cons ih does

theorem keys_of_evict? {order : List Path} (nodup : policy.keys.Nodup)
    (chosen : (policy.reorder order).evict? = some (victim, next)) :
    policy.keys.Perm (victim.key :: next.keys) := by
  have reordered := policy.keys_reorder_perm order
  exact reordered.symm.trans (keys_evict?_perm (reordered.nodup_iff.mpr nodup) chosen)

theorem evict?_reorder_eq_none_iff (order : List Path) :
    (policy.reorder order).evict? = none ↔ policy.keys = [] := by
  have reordered := policy.keys_reorder_perm order
  rw [evict?_eq_none_iff, ← List.perm_nil, ← List.perm_nil]
  exact ⟨reordered.symm.trans, reordered.trans⟩

theorem Does.nodup (does : policy.Does event next) (nodup : policy.keys.Nodup) :
    next.keys.Nodup := by
  cases does with
  | add new => exact (keys_add_perm nodup new).nodup_iff.mpr (List.nodup_cons.mpr ⟨new, nodup⟩)
  | touch held => exact (keys_touch_perm nodup held).nodup_iff.mpr nodup
  | remove path => exact keys_remove nodup path ▸ nodup.erase _
  | evict chosen => exact ((keys_of_evict? nodup chosen).nodup_iff.mp nodup).of_cons
  | exhaust => exact nodup

theorem mem_of_evict? {order : List Path} (nodup : policy.keys.Nodup)
    (chosen : (policy.reorder order).evict? = some (victim, next)) (key : List Component) :
    key ∈ next.keys ↔ key ∈ policy.keys ∧ key ≠ victim.key := by
  have leaves := keys_of_evict? nodup chosen
  have left : victim.key ∉ next.keys := (List.nodup_cons.mp (leaves.nodup_iff.mp nodup)).1
  rw [leaves.mem_iff, List.mem_cons]
  constructor
  · exact fun member => ⟨.inr member, fun same => left (same ▸ member)⟩
  · exact fun ⟨member, apart⟩ => member.resolve_left apart

/-- A call brings in the key it adds and takes away the key it drops, and no other. -/
theorem Does.mem_keys_iff (does : policy.Does event next) (nodup : policy.keys.Nodup)
    (path : Path) :
    path.key ∈ next.keys ↔ event.Adds path ∨ path.key ∈ policy.keys ∧ ¬ event.Drops path := by
  cases does with
  | add new =>
      rw [(keys_add_perm nodup new).mem_iff, List.mem_cons]
      simp [Event.Adds, Event.Drops, Path.Same, eq_comm]
  | touch held =>
      rw [(keys_touch_perm nodup held).mem_iff]
      simp [Event.Adds, Event.Drops]
  | remove removed =>
      rw [keys_remove nodup, nodup.mem_erase_iff]
      simp [Event.Adds, Event.Drops, Path.Same, eq_comm, and_comm]
  | evict chosen =>
      rw [mem_of_evict? nodup chosen]
      simp [Event.Adds, Event.Drops, Path.Same, eq_comm]
  | exhaust => simp [Event.Adds, Event.Drops]

theorem Runs.nodup (runs : policy.Runs past next) (nodup : policy.keys.Nodup) :
    next.keys.Nodup := by
  induction runs with
  | nil => exact nodup
  | cons _ does ih => exact does.nodup ih

theorem Runs.mem_keys_iff (runs : policy.Runs past next) (vacant : policy.keys = [])
    (path : Path) : path.key ∈ next.keys ↔ Keeps past path := by
  induction runs with
  | nil => simp [vacant, Keeps]
  | cons runs does ih =>
      rw [does.mem_keys_iff (runs.nodup (by simp [vacant])), keeps_cons, ih]

theorem Runs.keys_perm {victims : List Path}
    (runs : policy.Runs (victims.map fun victim => .evict (some victim)) last)
    (nodup : policy.keys.Nodup) : policy.keys.Perm (Path.keys victims ++ last.keys) := by
  induction victims generalizing last with
  | nil =>
      cases runs
      exact .refl _
  | cons victim victims ih =>
      cases runs with
      | cons runs does =>
          cases does with
          | evict chosen =>
              refine (ih runs).trans ?_
              exact ((keys_of_evict? (runs.nodup nodup) chosen).append_left _).trans
                List.perm_middle

@[simp] theorem reorder_nil (policy : Policy) : policy.reorder [] = policy := by
  cases policy with
  | simple policy =>
      obtain ⟨keys⟩ := policy
      cases keys <;> simp [reorder]
  | _ => rfl

theorem runs_drain (policy : Policy) :
    policy.Runs (policy.drain.1.reverse.map fun victim => .evict (some victim)) policy.drain.2 ∧
      policy.drain.2.evict? = none := by
  fun_induction drain policy with
  | case1 policy exhausted => exact ⟨.nil, exhausted⟩
  | case2 policy victim rest chosen victims last drained ih =>
      have first : policy.Runs [.evict (some victim)] rest :=
        .cons .nil (.evict (by rw [reorder_nil, chosen]))
      rw [drained] at ih
      refine ⟨?_, ih.2⟩
      simpa using first.append ih.1

/-- After any calls a policy tracks what was added and not dropped since, it gives up one tracked
key whenever there is one, and being asked again and again it gives up each of them once. -/
theorem runs_meet_contract {kind : EvictionKind} {capacity : Nat}
    (runs : (empty kind capacity).Runs past policy) :
    policy.keys.Nodup ∧
    (∀ path : Path, path.key ∈ policy.keys ↔ Keeps past path) ∧
    (∀ order, (policy.reorder order).evict? = none ↔ policy.keys = []) ∧
    (∀ order victim rest, (policy.reorder order).evict? = some (victim, rest) →
      victim.key ∈ policy.keys ∧
      ∀ key, key ∈ rest.keys ↔ key ∈ policy.keys ∧ key ≠ victim.key) ∧
    (∀ victims last, policy.Runs (victims.map fun victim => .evict (some victim)) last →
      victims.length ≤ policy.keys.length ∧
      ((∃ order, (last.reorder order).evict? = none) →
        (Path.keys victims).Perm policy.keys)) ∧
    (Path.keys policy.drain.1).Perm policy.keys ∧ policy.drain.2.keys = [] := by
  have vacant := keys_empty kind capacity
  have nodup : policy.keys.Nodup := runs.nodup (vacant ▸ List.nodup_nil)
  have drains {victims : List Path} {last : Policy}
      (evictions : policy.Runs (victims.map fun victim => .evict (some victim)) last)
      (drained : last.keys = []) : (Path.keys victims).Perm policy.keys := by
    simpa [drained] using (evictions.keys_perm nodup).symm
  obtain ⟨drain, exhausted⟩ := policy.runs_drain
  have drained := (evict?_eq_none_iff _).mp exhausted
  refine ⟨nodup, runs.mem_keys_iff vacant, evict?_reorder_eq_none_iff,
    fun order victim rest chosen => ⟨?_, mem_of_evict? nodup chosen⟩,
    fun victims last evictions => ⟨?_, ?_⟩, ?_, drained⟩
  · exact (keys_of_evict? nodup chosen).mem_iff.mpr List.mem_cons_self
  · have lengths := (evictions.keys_perm nodup).length_eq
    simp only [Path.keys, List.length_append, List.length_map] at lengths
    omega
  · rintro ⟨order, none⟩
    exact drains evictions ((evict?_reorder_eq_none_iff order).mp none)
  · have each := drains drain drained
    rw [Path.keys, List.map_reverse] at each
    exact (List.reverse_perm _).symm.trans each

theorem runs_meet_contract_ghost :
    let past : List Event := [.add "./b", .remove "b", .add "b", .evict (some "b"),
      .touch "a", .add "b", .add "a"]
    let reached : Policy := .arc ⟨2, 1, ["./b"], ["a"], [], []⟩
    (empty .arc 2).Runs past reached ∧ Keeps past "a/" ∧ ¬ Keeps past "b" ∧
    (Path.keys reached.drain.1).Perm (Path.keys ["./b", "a"]) := by
  intro past reached
  have evicted : (empty .arc 2).Runs
      [.evict (some "b"), .touch "a", .add "b", .add "a"]
      (.arc ⟨2, 0, [], ["a"], ["b"], []⟩) := by
    have chosen : ((((empty .arc 2).add "a").add "b").touch "a").evict? =
        some (.ofString "b", .arc ⟨2, 0, [], ["a"], ["b"], []⟩) := by cbv
    exact .cons (.cons (.cons (.cons .nil (.add (of_decide_eq_true (by cbv))))
      (.add (of_decide_eq_true (by cbv)))) (.touch (of_decide_eq_true (by cbv))))
      (.evict (by rw [reorder_nil, chosen]))
  have runs : (empty .arc 2).Runs past reached := by
    have last : (((arc ⟨2, 0, [], ["a"], ["b"], []⟩).add "b").remove "b").add "./b" =
        reached := by cbv
    rw [← last]
    exact .cons (.cons (.cons evicted (.add (of_decide_eq_true (by cbv)))) (.remove _))
      (.add (of_decide_eq_true (by cbv)))
  have keys : reached.keys = [.current :: Path.key "b", Path.key "a"] := by cbv
  have named : Path.key "a/" = Path.key "a" ∧ Path.key "b" ≠ Path.key "a" ∧
      Path.key "b" ≠ .current :: Path.key "b" := by decide
  obtain ⟨-, keeps, -, -, -, drained, -⟩ := runs_meet_contract runs
  have listed : reached.keys = Path.keys [.ofString "./b", .ofString "a"] :=
    keys.trans (by decide)
  refine ⟨runs, (keeps _).mp ?_, fun kept => ?_, listed ▸ drained⟩
  · simp [named, keys]
  · simpa [named, keys] using (keeps _).mpr kept

end WasmTasks.Cache.Policy
