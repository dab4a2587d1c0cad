import WasmTasks.Proofs.Guest.Calls
import WasmTasks.Protocol.GuestBackend

/-!
Access to guest memory from outside. A range is read or written exactly if it ends within the memory,
which is the one that the module exports; a write changes the bytes of its range and nothing else.
-/

namespace WasmTasks

namespace Memory

/-- The memory with the bytes at the offset, and nothing else changed. -/
structure Receives (memory : Memory) (offset : Nat) (bytes : Bytes) (written : Memory) :
    Prop where
  pages : written.pages = memory.pages
  limit : written.limit = memory.limit
  inside : ∀ index (inside : index < bytes.length), written.byte (offset + index) = bytes[index]
  outside : ∀ address, address < offset ∨ offset + bytes.length ≤ address →
    written.byte address = memory.byte address

variable {memory written : Memory} {offset : Nat} {bytes : Bytes}

theorem receives_overlay (memory : Memory) (offset : Nat) (bytes : Bytes) :
    memory.Receives offset bytes (memory.overlay offset bytes) where
  pages := rfl
  limit := rfl
  inside := fun _ inside => memory.byte_overlay bytes inside
  outside := fun _ outside =>
    outside.elim (memory.byte_overlay_of_lt bytes) (memory.byte_overlay_of_le bytes)

theorem Receives.eq_overlay (receives : memory.Receives offset bytes written) :
    written = memory.overlay offset bytes := by
  have same (address : Nat) :
      written.byte address = (memory.overlay offset bytes).byte address := by
    by_cases outside : address < offset ∨ offset + bytes.length ≤ address
    · rw [receives.outside address outside,
        (receives_overlay memory offset bytes).outside address outside]
    · have inside : address - offset < bytes.length := by omega
      have place : offset + (address - offset) = address := by omega
      rw [← place, receives.inside _ inside, byte_overlay memory bytes inside]
  obtain ⟨pages, limit, byte⟩ := written
  obtain ⟨rfl, rfl, _, _⟩ := receives
  exact congrArg (fun byte => ({ memory with byte := byte } : Memory)) (funext same)

theorem write?_of_fits (fits : offset + bytes.length ≤ memory.size) :
    memory.write? offset bytes = some (memory.overlay offset bytes) :=
  if_pos (decide_eq_true fits)

theorem write?_of_exceeds (exceeds : memory.size < offset + bytes.length) :
    memory.write? offset bytes = none :=
  if_neg fun fits => Nat.not_le_of_lt exceeds (of_decide_eq_true fits)

theorem read?_of_fits {length : Nat} (fits : offset + length ≤ memory.size) :
    memory.read? offset length =
      some ((List.range length).map fun index => memory.byte (offset + index)) :=
  if_pos (decide_eq_true fits)

theorem read?_of_exceeds {length : Nat} (exceeds : memory.size < offset + length) :
    memory.read? offset length = none :=
  if_neg fun fits => Nat.not_le_of_lt exceeds (of_decide_eq_true fits)

theorem read?_eq_some_iff {length : Nat} {found : Bytes} :
    memory.read? offset length = some found ↔
      offset + length ≤ memory.size ∧ found.length = length ∧
        ∀ index < length, found[index]? = some (memory.byte (offset + index)) := by
  obtain exceeds | fits := Nat.lt_or_ge memory.size (offset + length)
  · rw [read?_of_exceeds exceeds]
    exact iff_of_false nofun fun ⟨fits, _⟩ => Nat.not_le_of_lt exceeds fits
  · rw [read?_of_fits fits, Option.some.injEq, and_iff_right fits]
    constructor
    · rintro rfl
      refine ⟨by rw [List.length_map, List.length_range], fun index below => ?_⟩
      rw [List.getElem?_map, List.getElem?_range below, Option.map_some]
    · rintro ⟨rfl, bytes⟩
      refine List.ext_getElem? fun index => ?_
      rw [List.getElem?_map]
      obtain below | beyond := Nat.lt_or_ge index found.length
      · rw [List.getElem?_range below, bytes index below, Option.map_some]
      · rw [List.getElem?_eq_none beyond, List.getElem?_eq_none (by rwa [List.length_range])]
        rfl

/-- A range of `old` bytes that starts at `start`, after `bytes` were written from `offset` on. -/
structure Overwritten (offset : Nat) (bytes : Bytes) (start : Nat) (old found : Bytes) :
    Prop where
  length : found.length = old.length
  inside : ∀ index < old.length, offset ≤ start + index → start + index < offset + bytes.length →
    found[index]? = bytes[start + index - offset]?
  outside : ∀ index < old.length, start + index < offset ∨ offset + bytes.length ≤ start + index →
    found[index]? = old[index]?

theorem Overwritten.unique {offset start : Nat} {bytes old found other : Bytes}
    (overwritten : Overwritten offset bytes start old found)
    (again : Overwritten offset bytes start old other) : found = other := by
  refine List.ext_getElem? fun index => ?_
  obtain below | beyond := Nat.lt_or_ge index old.length
  · by_cases inside : offset ≤ start + index ∧ start + index < offset + bytes.length
    · rw [overwritten.inside index below inside.1 inside.2,
        again.inside index below inside.1 inside.2]
    · have outside : start + index < offset ∨ offset + bytes.length ≤ start + index := by omega
      rw [overwritten.outside index below outside, again.outside index below outside]
  · rw [List.getElem?_eq_none (overwritten.length ▸ beyond),
      List.getElem?_eq_none (again.length ▸ beyond)]

theorem Receives.overwritten {start length : Nat} {old found : Bytes}
    (receives : memory.Receives offset bytes written)
    (before : memory.read? start length = some old)
    (after : written.read? start length = some found) :
    Overwritten offset bytes start old found := by
  obtain ⟨_, oldLength, olds⟩ := read?_eq_some_iff.mp before
  obtain ⟨_, foundLength, founds⟩ := read?_eq_some_iff.mp after
  refine ⟨foundLength.trans oldLength.symm, ?_, ?_⟩
  · intro index below first last
    have place : offset + (start + index - offset) = start + index := by omega
    have within : start + index - offset < bytes.length := by omega
    rw [founds index (oldLength ▸ below), List.getElem?_eq_getElem within,
      ← receives.inside _ within, place]
  · intro index below outside
    rw [founds index (oldLength ▸ below), olds index (oldLength ▸ below),
      receives.outside _ outside]

theorem Receives.read?_eq_some_iff {start length : Nat} {found : Bytes}
    (receives : memory.Receives offset bytes written) :
    written.read? start length = some found ↔ ∃ old, memory.read? start length = some old ∧
      Overwritten offset bytes start old found := by
  have sizes : written.size = memory.size := congrArg (· * pageSize) receives.pages
  constructor
  · intro after
    have fits := (Memory.read?_eq_some_iff.mp after).1
    rw [sizes] at fits
    exact ⟨_, read?_of_fits fits, receives.overwritten (read?_of_fits fits) after⟩
  · rintro ⟨old, before, overwritten⟩
    have fits := (Memory.read?_eq_some_iff.mp before).1
    rw [← sizes] at fits
    rw [read?_of_fits fits]
    exact congrArg some
      ((receives.overwritten before (read?_of_fits fits)).unique overwritten)

end Memory

variable {μ ν : Type}

namespace Context

variable {context : Context ν} {index : Nat} {memory : Memory}

def place (context : Context ν) (index : Nat) (memory : Memory) : Context ν :=
  { context with
    state := { context.state with memories := context.state.memories.set index memory } }

theorem memory?_eq_some_iff :
    context.memory? = some (index, memory) ↔
      context.guest.exportedMemory? = some index ∧ context.state.memories[index]? = some memory := by
  simp only [memory?, Option.bind_eq_bind, Option.bind_eq_some_iff, Option.pure_def,
    Option.some.injEq, Prod.mk.injEq]
  constructor
  · rintro ⟨_, exported, _, held, rfl, rfl⟩
    exact ⟨exported, held⟩
  · rintro ⟨exported, held⟩
    exact ⟨index, exported, memory, held, rfl, rfl⟩

theorem memory?_place (found : context.memory? = some (index, memory)) (other : Memory) :
    (context.place index other).memory? = some (index, other) := by
  rw [memory?_eq_some_iff] at found ⊢
  refine ⟨found.1, List.getElem?_set_self ?_⟩
  exact (List.getElem?_eq_some_iff.mp found.2).1

theorem write_of_missing (missing : context.memory? = none) (offset : Nat) (bytes : Bytes) :
    context.write offset bytes = .error .missingMemory := by
  rw [write, missing]

theorem write_of_fits (found : context.memory? = some (index, memory)) {offset : Nat}
    {bytes : Bytes} (fits : offset + bytes.length ≤ memory.size) :
    context.write offset bytes = .ok (context.place index (memory.overlay offset bytes)) := by
  rw [write, found]
  dsimp only
  rw [Memory.write?_of_fits fits]
  rfl

theorem write_of_exceeds (found : context.memory? = some (index, memory)) {offset : Nat}
    {bytes : Bytes} (exceeds : memory.size < offset + bytes.length) :
    context.write offset bytes = .error (.outOfBounds offset bytes.length memory.size) := by
  rw [write, found]
  dsimp only
  rw [Memory.write?_of_exceeds exceeds]

theorem memory?_eq_none_iff : context.memory? = none ↔ context.memorySize? = none := by
  rw [memorySize?, Option.map_eq_none_iff]

theorem memorySize?_of_found (found : context.memory? = some (index, memory)) :
    context.memorySize? = some memory.size := by
  rw [memorySize?, found, Option.map_some]

theorem memorySize?_eq_some_iff {size : Nat} : context.memorySize? = some size ↔
    ∃ index memory, context.memory? = some (index, memory) ∧ memory.size = size := by
  rw [memorySize?, Option.map_eq_some_iff, Prod.exists]

theorem read_of_missing (missing : context.memory? = none) (start length : Nat) :
    context.read start length = some (.error .missingMemory) := by
  rw [read, missing]

/-- What lies within a memory is never too large to be read. -/
theorem read_eq_ok_iff (found : context.memory? = some (index, memory)) {start length : Nat}
    {bytes : Bytes} :
    context.read start length = some (.ok bytes) ↔ memory.read? start length = some bytes := by
  rw [read, found]
  dsimp only
  obtain large | small := Nat.lt_or_ge largestObject length
  · have size := memory.size_le_largestObject
    rw [if_pos large, Memory.read?_of_exceeds (by omega)]
    exact iff_of_false nofun nofun
  · rw [if_neg (Nat.not_lt_of_le small)]
    cases memory.read? start length <;> simp

theorem read_eq_none_iff (found : context.memory? = some (index, memory)) {start length : Nat} :
    context.read start length = none ↔ largestObject < length := by
  rw [read, found]
  dsimp only
  split
  · exact iff_of_true rfl ‹_›
  · refine iff_of_false ?_ ‹_›
    cases memory.read? start length <;> nofun

end Context

/-! The memory that a module exports. -/

namespace Guest

variable {guest : Guest ν}

theorem mem_of_exportedMemory? {index : Nat} (exported : guest.exportedMemory? = some index) :
    ∃ name, (name, .memory index) ∈ guest.exports := by
  rw [exportedMemory?, Option.orElse_eq_orElse, Option.orElse_eq_or] at exported
  obtain named | ⟨_, first⟩ := Option.or_eq_some_iff.mp exported
  · obtain ⟨⟨name, item⟩, member, found⟩ := List.exists_of_findSome?_eq_some named
    cases item with
    | memory place =>
        dsimp only at found
        split at found
        · cases found
          exact ⟨name, member⟩
        · cases found
    | function function => cases found
  · obtain ⟨⟨name, item⟩, member, found⟩ := List.exists_of_findSome?_eq_some first
    cases item with
    | memory place =>
        cases found
        exact ⟨name, member⟩
    | function function => cases found

theorem exists_exportedMemory? {name : String} {index : Nat}
    (member : (name, .memory index) ∈ guest.exports) :
    ∃ place, guest.exportedMemory? = some place := by
  refine Option.ne_none_iff_exists'.mp fun none => ?_
  rw [exportedMemory?, Option.orElse_eq_orElse, Option.orElse_eq_or] at none
  have missing := (Option.or_eq_none_iff.mp none).2
  cases List.findSome?_eq_none_iff.mp missing _ member

theorem exportedMemory?_lt {index : Nat} (exported : guest.exportedMemory? = some index) :
    index < guest.initial.memories.length := by
  obtain ⟨name, member⟩ := mem_of_exportedMemory? exported
  exact guest.exported name index member

end Guest

namespace Context

variable {machine : Machine μ ν}

/-- The contexts there are: those made for a module, which were then called and written to. -/
inductive Made (machine : Machine μ ν) : Context ν → Prop where
  | instantiated {id : String} {stored : CachedModule} {timeline later : Timeline}
      {context : Context ν}
      (answered : instantiate machine id stored timeline = .answered (.ok context) later) :
      Made machine context
  | called {context next : Context ν} {name : String} {args : List Int64}
      {timeline later : Timeline} {outcome : Except CallError (List Int64)}
      (made : Made machine context)
      (answered : context.call name args timeline = .answered outcome (next, later)) :
      Made machine next
  | written {context next : Context ν} {offset : Nat} {bytes : Bytes} (made : Made machine context)
      (wrote : context.write offset bytes = .ok next) : Made machine next

variable {context next : Context ν} {timeline later : Timeline}

/-- No guest code makes memories or takes them away. -/
def Whole (context : Context ν) : Prop :=
  context.state.memories.length = context.guest.initial.memories.length

namespace Whole

theorem enter (whole : context.Whole) {code : Code ν} {args : List Value}
    {outcome : Except (Option Trap) (List Value)}
    (entered : context.enter code args timeline = .answered outcome (next, later)) :
    next.Whole := by
  have keeps := code.keeps args context.state
  obtain ⟨work, _, works, _, same⟩ | ⟨checkpoint, _, _, same⟩ := context.enter_cases entered
  · obtain rfl : next = _ := same
    exact (keeps.ending work works).trans whole
  · obtain rfl : next = _ := same
    exact (keeps.reached checkpoint).trans whole

theorem instantiate {id : String} {stored : CachedModule}
    (answered : Context.instantiate machine id stored timeline = .answered (.ok context) later) :
    context.Whole := by
  unfold Context.instantiate at answered
  split at answered
  · cases answered
  · rename_i compiled _
    have fresh : Whole ⟨id, machine.guest compiled.module, (machine.guest compiled.module).initial,
        .arm timeline.next.1.epoch⟩ := rfl
    dsimp only at answered
    split at answered
    · cases answered
    · cases answered
    · cases answered
      exact fresh
    · split at answered
      · rename_i entered
        cases answered
        exact fresh.enter entered
      all_goals cases answered

theorem call (whole : context.Whole) {name : String} {args : List Int64}
    {outcome : Except CallError (List Int64)}
    (answered : context.call name args timeline = .answered outcome (next, later)) :
    next.Whole := by
  cases prepared : context.prepare name args with
  | error error =>
      rw [Context.call, prepared] at answered
      cases answered
      exact whole
  | ok entering =>
      obtain ⟨function, values⟩ := entering
      rw [call_of_prepare prepared] at answered
      cases entered : context.enter function.code values timeline with
      | answered ended state =>
          rw [entered] at answered
          cases answered
          exact whole.enter entered
      | _ =>
          rw [entered] at answered
          cases answered

theorem place (whole : context.Whole) (index : Nat) (memory : Memory) :
    (context.place index memory).Whole :=
  List.length_set.trans whole

end Whole

/-- A write changes the memory that the module exports, and needs its whole range in it. -/
theorem write_eq_ok_iff {offset : Nat} {bytes : Bytes} {written : Context ν} :
    context.write offset bytes = .ok written ↔
      ∃ index memory after, context.memory? = some (index, memory) ∧
        offset + bytes.length ≤ memory.size ∧ memory.Receives offset bytes after ∧
        written = context.place index after := by
  cases found : context.memory? with
  | none =>
      rw [write_of_missing found]
      exact iff_of_false nofun nofun
  | some exported =>
      obtain ⟨index, memory⟩ := exported
      obtain exceeds | fits := Nat.lt_or_ge memory.size (offset + bytes.length)
      · rw [write_of_exceeds found exceeds]
        refine iff_of_false nofun ?_
        rintro ⟨_, _, _, ⟨⟩, fits, _⟩
        exact Nat.not_le_of_lt exceeds fits
      · rw [write_of_fits found fits]
        constructor
        · rintro ⟨⟩
          exact ⟨index, memory, _, rfl, fits, memory.receives_overlay offset bytes, rfl⟩
        · rintro ⟨_, _, after, ⟨⟩, _, receives, rfl⟩
          rw [receives.eq_overlay]

theorem Made.whole (made : context.Made machine) : context.Whole := by
  induction made with
  | instantiated answered => exact .instantiate answered
  | called _ answered ih => exact ih.call answered
  | written _ wrote ih =>
      obtain ⟨index, _, after, _, _, _, rfl⟩ := write_eq_ok_iff.mp wrote
      exact ih.place index after

theorem Whole.exports_iff (whole : context.Whole) :
    (∃ size, context.memorySize? = some size) ↔
      ∃ name index, (name, .memory index) ∈ context.guest.exports := by
  constructor
  · rintro ⟨size, sized⟩
    obtain ⟨index, memory, found, _⟩ := memorySize?_eq_some_iff.mp sized
    obtain ⟨name, member⟩ := Guest.mem_of_exportedMemory? (memory?_eq_some_iff.mp found).1
    exact ⟨name, index, member⟩
  · rintro ⟨name, index, member⟩
    obtain ⟨place, exported⟩ := Guest.exists_exportedMemory? member
    have below : place < context.state.memories.length := whole ▸ Guest.exportedMemory?_lt exported
    have held := List.getElem?_eq_getElem below
    exact ⟨_, memorySize?_of_found (memory?_eq_some_iff.mpr ⟨exported, held⟩)⟩

/-- In every context that there is, a memory can be accessed exactly if the module exports one, and a
range of it is read or written exactly if its end, taken without a limit, is not beyond the current
size. After a write every range reads as before, but for the new bytes, and the size is the same. A
write that is refused changes nothing, and its error tells the reason. Only a range that is larger
than any object is asked for in vain. -/
theorem memory_access_within_size (made : context.Made machine) (offset : Nat) (bytes : Bytes) :
    ((∃ size, context.memorySize? = some size) ↔
        ∃ name index, (name, .memory index) ∈ context.guest.exports) ∧
      ((∃ written, context.write offset bytes = .ok written) ↔
        ∃ size, context.memorySize? = some size ∧ offset + bytes.length ≤ size) ∧
      (∀ written, context.write offset bytes = .ok written →
        written.memorySize? = context.memorySize? ∧
          (∀ start length found, written.read start length = some (.ok found) ↔
            ∃ old, context.read start length = some (.ok old) ∧
              Memory.Overwritten offset bytes start old found) ∧
          ∃ index memory after, context.memory? = some (index, memory) ∧
            memory.Receives offset bytes after ∧ written = context.place index after) ∧
      (∀ error, context.write offset bytes = .error error →
        (context.memorySize? = none ∧ error = .missingMemory ∨
          ∃ size, context.memorySize? = some size ∧ size < offset + bytes.length ∧
            error = .outOfBounds offset bytes.length size) ∧
        ∀ timeline, GuestRun.write offset bytes ⟨some context, timeline⟩ =
          .answered (.error error) ⟨some context, timeline⟩) ∧
      ∀ start length,
        ((∃ found, context.read start length = some (.ok found)) ↔
          ∃ size, context.memorySize? = some size ∧ start + length ≤ size) ∧
        (context.read start length = none ↔
          (∃ size, context.memorySize? = some size) ∧ largestObject < length) := by
  refine ⟨made.whole.exports_iff, ?_, ?_, ?_, ?_⟩
  · simp only [write_eq_ok_iff, memorySize?_eq_some_iff]
    constructor
    · rintro ⟨_, index, memory, _, found, fits, _⟩
      exact ⟨_, ⟨index, memory, found, rfl⟩, fits⟩
    · rintro ⟨_, ⟨index, memory, found, rfl⟩, fits⟩
      exact ⟨_, index, memory, _, found, fits, memory.receives_overlay offset bytes, rfl⟩
  · intro written wrote
    obtain ⟨index, memory, after, found, _, receives, rfl⟩ := write_eq_ok_iff.mp wrote
    have now := memory?_place found after
    refine ⟨?_, ?_, index, memory, after, found, receives, rfl⟩
    · rw [memorySize?_of_found now, memorySize?_of_found found]
      exact congrArg (fun pages => some (pages * Memory.pageSize)) receives.pages
    · intro start length bytes
      simp only [read_eq_ok_iff now, read_eq_ok_iff found]
      exact receives.read?_eq_some_iff
  · intro error refused
    refine ⟨?_, fun timeline => by simp only [GuestRun.write, refused]⟩
    cases found : context.memory? with
    | none =>
        rw [write_of_missing found] at refused
        cases refused
        exact .inl ⟨memory?_eq_none_iff.mp found, rfl⟩
    | some exported =>
        obtain ⟨index, memory⟩ := exported
        obtain exceeds | fits := Nat.lt_or_ge memory.size (offset + bytes.length)
        · rw [write_of_exceeds found exceeds] at refused
          cases refused
          exact .inr ⟨_, memorySize?_of_found found, exceeds, rfl⟩
        · rw [write_of_fits found fits] at refused
          cases refused
  · intro start length
    cases found : context.memory? with
    | none =>
        rw [read_of_missing found, memory?_eq_none_iff.mp found]
        exact ⟨iff_of_false nofun nofun, iff_of_false nofun nofun⟩
    | some exported =>
        obtain ⟨index, memory⟩ := exported
        refine ⟨?_, (read_eq_none_iff found).trans ?_⟩
        · simp only [read_eq_ok_iff found, memorySize?_of_found found, Option.some.injEq,
            exists_eq_left']
          constructor
          · rintro ⟨_, read⟩
            exact (Memory.read?_eq_some_iff.mp read).1
          · exact fun fits => ⟨_, Memory.read?_of_fits fits⟩
        · exact (and_iff_right ⟨_, memorySize?_of_found found⟩).symm

/-- The guest has added a page. The byte at its end is written, and one whose range would end at the
number of all offsets is refused. -/
theorem memory_access_within_size_grown :
    let grow : Code Unit := ⟨fun _ state =>
      ⟨fun _ => state, some ⟨0, .ok [], ⟨state.memories.map fun memory =>
        (memory.grow? 1).getD memory, ()⟩⟩⟩,
        fun _ _ => ⟨fun _ => rfl, by rintro _ ⟨⟩; exact List.length_map _⟩⟩
    let memory : Memory := .blank 1 2 (by decide) (by decide)
    let guest : Guest Unit := ⟨[], [("memory", .memory 0),
      ("grow", .function ⟨[], [], grow, by rintro _ _ _ _ _ ⟨⟩ ⟨⟩; rfl⟩)],
      ⟨[memory], ()⟩, none, none,
      by rintro _ _ (_ | ⟨_, _ | ⟨_, ⟨⟩⟩⟩); exact Nat.zero_lt_one⟩
    let machine : Machine Unit Unit := ⟨fun _ => .ok (), fun _ => .ok [], fun _ => .ok (),
      fun _ => guest⟩
    let grown : Context Unit := ⟨"task", guest, ⟨[.blank 2 2 (by decide) (by decide)], ()⟩, .arm 0⟩
    grown.Made machine ∧
      (∃ written, grown.write 131071 [7] = .ok written ∧
        written.read 131070 2 = some (.ok [0, 7])) ∧
      ¬ ∃ written, grown.write 18446744073709551615 [7] = .ok written := by
  intro grow memory guest machine grown
  let stored : CachedModule := ⟨"m", .wasmtime, [], "hash"⟩
  let start : Context Unit := ⟨"task", guest, guest.initial, .arm 0⟩
  let timeline := Timeline.constant ⟨0, false⟩
  have instantiated : instantiate machine "task" stored timeline = .answered (.ok start) timeline :=
    rfl
  have called : start.call "grow" [] timeline = .answered (.ok []) (grown, timeline) := rfl
  have made : grown.Made machine := .called (.instantiated instantiated) called
  have found : grown.memory? = some (0, .blank 2 2 (by decide) (by decide)) := rfl
  have blank : grown.read 131070 2 = some (.ok [0, 0]) :=
    (read_eq_ok_iff found).mpr (Memory.read?_of_fits (by decide))
  have size : grown.memorySize? = some 131072 := rfl
  obtain ⟨_, writes, after, _⟩ := memory_access_within_size made 131071 [7]
  obtain ⟨written, wrote⟩ := writes.mpr ⟨_, size, by decide⟩
  obtain ⟨_, reads, _⟩ := after written wrote
  refine ⟨made, ⟨written, wrote, (reads 131070 2 [0, 7]).mpr ⟨[0, 0], blank, rfl, ?_, ?_⟩⟩, ?_⟩
  · intro index below first last
    obtain rfl : index = 1 := by simp at first last; omega
    rfl
  · intro index below outside
    obtain rfl : index = 0 := by simp at below outside; omega
    rfl
  · obtain ⟨_, refuses, _⟩ := memory_access_within_size made 18446744073709551615 [7]
    rw [refuses, size]
    rintro ⟨_, ⟨⟩, fits⟩
    simp at fits

end Context

end WasmTasks
