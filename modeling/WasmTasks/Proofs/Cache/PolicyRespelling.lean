import Mathlib.Logic.Function.Basic
import WasmTasks.Proofs.Cache.PolicyKeys

/-!
Other spellings of the keys that a policy tracks. A policy tells keys apart by their components, so
whatever it does to its keys commutes with spelling them in another way.
-/

namespace WasmTasks

namespace Path

/-- A spelling for every path. -/
structure Respelling where
  spell : Path → Path
  faithful : ∀ path, (spell path).Same path

namespace Respelling

variable (respelling : Respelling) (path other : Path)

@[simp] theorem same_iff :
    (respelling.spell path).Same (respelling.spell other) ↔ path.Same other := by
  rw [Same, respelling.faithful path, respelling.faithful other, Same]

theorem keys_spell (paths : List Path) : keys (paths.map respelling.spell) = keys paths := by
  rw [keys, List.map_map]
  exact List.map_congr_left fun path _ => respelling.faithful path

/-- All spellings of a path are replaced by one of them. -/
noncomputable def standard : Respelling where
  spell path := Function.invFun key path.key
  faithful path := Function.invFun_eq ⟨path, rfl⟩

theorem standard_eq_iff : standard.spell path = standard.spell other ↔ path.Same other := by
  constructor
  · intro equal
    rw [← standard.same_iff, equal]
    exact Same.refl _
  · exact congrArg (Function.invFun key)

end Respelling

end Path

namespace Cache

open WasmTasks.Path

variable (respelling : Respelling) (path : Path)

/-! Access counts. -/

namespace Lfu

def Entry.respell (entry : Entry) : Entry :=
  { entry with path := respelling.spell entry.path }

def respell (policy : Lfu) : Lfu :=
  { policy with entries := policy.entries.map (Entry.respell respelling) }

theorem respell_add (policy : Lfu) :
    (policy.add path).respell respelling =
      (policy.respell respelling).add (respelling.spell path) := by
  have known : (policy.respell respelling).entries.any
        (fun entry => entry.path.Same (respelling.spell path)) =
      policy.entries.any fun entry => entry.path.Same path := by
    simp [respell, List.any_map, Function.comp_def, Entry.respell]
  unfold add
  rw [known]
  cases policy.entries.any (fun entry => entry.path.Same path) with
  | true =>
      simp only [respell, if_true, List.map_map]
      refine congrArg (Lfu.mk · _) (List.map_congr_left fun entry _ => ?_)
      simp only [Function.comp_apply, Entry.respell, Respelling.same_iff]
      split <;> rfl
  | false => simp [respell, Entry.respell]

theorem respell_touch (policy : Lfu) :
    (policy.touch path).respell respelling =
      (policy.respell respelling).touch (respelling.spell path) := by
  simp only [respell, touch, List.map_map]
  refine congrArg (Lfu.mk · _) (List.map_congr_left fun entry _ => ?_)
  simp only [Function.comp_apply, Entry.respell, Respelling.same_iff]
  split <;> rfl

theorem respell_remove (policy : Lfu) :
    (policy.remove path).respell respelling =
      (policy.respell respelling).remove (respelling.spell path) := by
  simp only [respell, remove, List.filter_map]
  refine congrArg (Lfu.mk · _) (congrArg _ (List.filter_congr fun entry _ => ?_))
  simp [Entry.respell]

theorem least?_respell (entries : List Entry) :
    least? (entries.map (Entry.respell respelling)) =
      (least? entries).map (Entry.respell respelling) := by
  induction entries with
  | nil => rfl
  | cons entry rest ih =>
      rw [List.map_cons, least?, least?, ih]
      cases least? rest with
      | none => rfl
      | some best =>
          have ranked : (best.respell respelling).before (entry.respell respelling) =
              best.before entry := rfl
          simp only [Option.map_some, ranked]
          split <;> rfl

theorem evict?_respell (policy : Lfu) :
    (policy.respell respelling).evict? = policy.evict?.map fun (victim, rest) =>
      (respelling.spell victim, rest.respell respelling) := by
  rw [evict?, evict?, respell, least?_respell, Option.map_map, Option.map_map]
  apply congrArg (Option.map · _)
  funext entry
  exact congrArg (Prod.mk _) (policy.respell_remove respelling entry.path).symm

end Lfu

/-! The order of use. -/

namespace Lru

def respell (policy : Lru) : Lru :=
  ⟨policy.order.map respelling.spell⟩

theorem respell_remove (policy : Lru) :
    (policy.remove path).respell respelling =
      (policy.respell respelling).remove (respelling.spell path) := by
  simp only [respell, remove, List.filter_map]
  refine congrArg Lru.mk (congrArg _ (List.filter_congr fun entry _ => ?_))
  simp

theorem respell_touch (policy : Lru) :
    (policy.touch path).respell respelling =
      (policy.respell respelling).touch (respelling.spell path) := by
  rw [touch, touch, ← respell_remove]
  simp [respell]

theorem evict?_respell (policy : Lru) :
    (policy.respell respelling).evict? = policy.evict?.map fun (victim, rest) =>
      (respelling.spell victim, rest.respell respelling) := by
  obtain ⟨order⟩ := policy
  cases order <;> rfl

end Lru

/-! Adaptive replacement. -/

namespace Arc

def respell (policy : Arc) : Arc :=
  { policy with
    recent := policy.recent.map respelling.spell
    frequent := policy.frequent.map respelling.spell
    recentGhosts := policy.recentGhosts.map respelling.spell
    frequentGhosts := policy.frequentGhosts.map respelling.spell }

@[simp] theorem holds_respell (list : List Path) :
    holds (list.map respelling.spell) (respelling.spell path) = holds list path := by
  simp [holds, Function.comp_def]

@[simp] theorem drop_respell (list : List Path) :
    drop (list.map respelling.spell) (respelling.spell path) =
      (drop list path).map respelling.spell := by
  simp [drop, List.eraseP_map, Function.comp_def]

@[simp] theorem trim_respell (capacity : Nat) (ghosts : List Path) :
    trim capacity (ghosts.map respelling.spell) = (trim capacity ghosts).map respelling.spell := by
  simp [trim]

theorem respell_add (policy : Arc) :
    (policy.add path).respell respelling =
      (policy.respell respelling).add (respelling.spell path) := by
  simp only [add, respell, holds_respell, drop_respell, List.length_map]
  split
  · simp
  · split <;> simp

theorem respell_touch (policy : Arc) :
    (policy.touch path).respell respelling =
      (policy.respell respelling).touch (respelling.spell path) := by
  simp only [touch, respell, holds_respell, drop_respell]
  split
  · simp
  · split <;> simp

theorem respell_remove (policy : Arc) :
    (policy.remove path).respell respelling =
      (policy.respell respelling).remove (respelling.spell path) := by
  simp only [remove, respell, holds_respell, drop_respell]
  split <;> rfl

theorem respell_demoteRecent (policy : Arc) (victim : Path) (rest : List Path) :
    (policy.demoteRecent victim rest).respell respelling =
      (policy.respell respelling).demoteRecent (respelling.spell victim)
        (rest.map respelling.spell) := by
  simp [demoteRecent, respell, ← trim_respell]

theorem respell_demoteFrequent (policy : Arc) (victim : Path) (rest : List Path) :
    (policy.demoteFrequent victim rest).respell respelling =
      (policy.respell respelling).demoteFrequent (respelling.spell victim)
        (rest.map respelling.spell) := by
  simp [demoteFrequent, respell, ← trim_respell]

theorem evict?_respell (policy : Arc) :
    (policy.respell respelling).evict? = policy.evict?.map fun (victim, rest) =>
      (respelling.spell victim, rest.respell respelling) := by
  cases recentEquation : policy.recent with
  | nil =>
      cases frequentEquation : policy.frequent with
      | nil => simp [evict?, respell, recentEquation, frequentEquation]
      | cons victim rest =>
          have found : (policy.respell respelling).frequent =
              respelling.spell victim :: rest.map respelling.spell := by
            simp [respell, frequentEquation]
          have none : (policy.respell respelling).recent = [] := by
            simp [respell, recentEquation]
          simp [evict?, recentEquation, frequentEquation, found, none, respell_demoteFrequent]
  | cons oldest others =>
      have head : (policy.respell respelling).recent =
          respelling.spell oldest :: others.map respelling.spell := by
        simp [respell, recentEquation]
      cases frequentEquation : policy.frequent with
      | nil =>
          have none : (policy.respell respelling).frequent = [] := by
            simp [respell, frequentEquation]
          simp [evict?, recentEquation, frequentEquation, head, none, respell_demoteRecent]
      | cons victim rest =>
          have found : (policy.respell respelling).frequent =
              respelling.spell victim :: rest.map respelling.spell := by
            simp [respell, frequentEquation]
          have target : (policy.respell respelling).target = policy.target := rfl
          simp only [evict?, recentEquation, frequentEquation, head, found, target,
            List.length_map]
          split
          · simp [respell_demoteRecent]
          · simp [respell_demoteFrequent]

end Arc

/-! A set of keys. -/

namespace Simple

def respell (policy : Simple) : Simple :=
  ⟨policy.keys.map respelling.spell⟩

theorem respell_add (policy : Simple) :
    (policy.add path).respell respelling =
      (policy.respell respelling).add (respelling.spell path) := by
  simp only [add, respell, List.any_map, Function.comp_def, Respelling.same_iff]
  split <;> simp

theorem respell_remove (policy : Simple) :
    (policy.remove path).respell respelling =
      (policy.respell respelling).remove (respelling.spell path) := by
  simp only [respell, remove, List.filter_map]
  refine congrArg Simple.mk (congrArg _ (List.filter_congr fun entry _ => ?_))
  simp

theorem evict?_respell (policy : Simple) :
    (policy.respell respelling).evict? = policy.evict?.map fun (victim, rest) =>
      (respelling.spell victim, rest.respell respelling) := by
  obtain ⟨keys⟩ := policy
  cases keys <;> rfl

end Simple

/-! Whatever the policy. -/

namespace Policy

def respell : Policy → Policy
  | lfu policy => lfu (policy.respell respelling)
  | lru policy => lru (policy.respell respelling)
  | arc policy => arc (policy.respell respelling)
  | simple policy => simple (policy.respell respelling)

@[simp] theorem kind_respell (policy : Policy) : (policy.respell respelling).kind = policy.kind := by
  cases policy <;> rfl

theorem respell_add (policy : Policy) :
    (policy.add path).respell respelling =
      (policy.respell respelling).add (respelling.spell path) := by
  cases policy with
  | lfu policy => exact congrArg lfu (policy.respell_add respelling path)
  | lru policy => exact congrArg lru (policy.respell_touch respelling path)
  | arc policy => exact congrArg arc (policy.respell_add respelling path)
  | simple policy => exact congrArg simple (policy.respell_add respelling path)

theorem respell_touch (policy : Policy) :
    (policy.touch path).respell respelling =
      (policy.respell respelling).touch (respelling.spell path) := by
  cases policy with
  | lfu policy => exact congrArg lfu (policy.respell_touch respelling path)
  | lru policy => exact congrArg lru (policy.respell_touch respelling path)
  | arc policy => exact congrArg arc (policy.respell_touch respelling path)
  | simple policy => rfl

theorem respell_remove (policy : Policy) :
    (policy.remove path).respell respelling =
      (policy.respell respelling).remove (respelling.spell path) := by
  cases policy with
  | lfu policy => exact congrArg lfu (policy.respell_remove respelling path)
  | lru policy => exact congrArg lru (policy.respell_remove respelling path)
  | arc policy => exact congrArg arc (policy.respell_remove respelling path)
  | simple policy => exact congrArg simple (policy.respell_remove respelling path)

theorem evict?_respell (policy : Policy) :
    (policy.respell respelling).evict? = policy.evict?.map fun (victim, rest) =>
      (respelling.spell victim, rest.respell respelling) := by
  cases policy with
  | lfu policy => simp [evict?, respell, policy.evict?_respell, Function.comp_def]
  | lru policy => simp [evict?, respell, policy.evict?_respell, Function.comp_def]
  | arc policy => simp [evict?, respell, policy.evict?_respell, Function.comp_def]
  | simple policy => simp [evict?, respell, policy.evict?_respell, Function.comp_def]

end Policy

end Cache

end WasmTasks
