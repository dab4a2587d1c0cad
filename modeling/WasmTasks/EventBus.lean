/-!
Broadcast of task events. The bus keeps the whole history, and each subscriber a position in it;
a subscriber more than `capacity` events behind loses the oldest ones and is told how many.
-/

namespace WasmTasks

structure TaskEvent where
  id : String
  message : String
  deriving DecidableEq, Repr

inductive Delivery where
  | event (event : TaskEvent)
  | lagged (missed : Nat)
  deriving DecidableEq, Repr

structure EventBus where
  published : Array TaskEvent
  deriving Repr

/-- The number of events already passed over. -/
structure Subscription where
  position : Nat
  deriving DecidableEq, Repr

namespace EventBus

def capacity : Nat := 64

def empty : EventBus := ⟨#[]⟩

def publish (bus : EventBus) (id message : String) : EventBus :=
  ⟨bus.published.push ⟨id, message⟩⟩

/-- A new subscriber sees only later events. -/
def subscribe (bus : EventBus) : Subscription :=
  ⟨bus.published.size⟩

/-- The next event for the subscriber; missed events are reported once, before the oldest kept one. -/
def next? (bus : EventBus) (reader : Subscription) : Option (Delivery × Subscription) :=
  if bus.published.size - reader.position > capacity then
    let oldest := bus.published.size - capacity
    some (.lagged (oldest - reader.position), ⟨oldest⟩)
  else if h : reader.position < bus.published.size then
    some (.event bus.published[reader.position], ⟨reader.position + 1⟩)
  else none

def drain (bus : EventBus) (reader : Subscription) : List Delivery × Subscription :=
  let oldest := max reader.position (bus.published.size - capacity)
  let missed := if oldest > reader.position then [.lagged (oldest - reader.position)] else []
  (missed ++ (bus.published.toList.drop oldest).map .event,
    ⟨max reader.position bus.published.size⟩)

end EventBus

end WasmTasks
