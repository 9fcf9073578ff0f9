import PmacFabric.Event.Basic

/-!
# The event queue

Events are taken in the order in which they were added. The queue keeps its tail reversed, so that
adding is cheap; `toList` is its content, oldest first, and every operation is described through it.
-/

namespace PmacFabric

structure EventQueue where
  front : List Event := []
  /-- The newer events, newest first. -/
  back : List Event := []
deriving DecidableEq, Repr, Inhabited

namespace EventQueue

def empty : EventQueue := {}

/-- The waiting events, oldest first. -/
def toList (queue : EventQueue) : List Event := queue.front ++ queue.back.reverse

def isEmpty (queue : EventQueue) : Bool := queue.front.isEmpty && queue.back.isEmpty

/-- Adds an event behind all others. -/
def push (queue : EventQueue) (event : Event) : EventQueue :=
  { queue with back := event :: queue.back }

/-- Adds events in order behind all others. -/
def pushAll (queue : EventQueue) (events : List Event) : EventQueue :=
  events.foldl push queue

/-- Takes the oldest event. -/
def pop? (queue : EventQueue) : Option (Event × EventQueue) :=
  match queue.front with
  | event :: front => some (event, { queue with front })
  | [] =>
    match queue.back.reverse with
    | event :: front => some (event, { front, back := [] })
    | [] => none

@[simp] theorem toList_empty : empty.toList = [] := rfl

@[simp] theorem toList_push (queue : EventQueue) (event : Event) :
    (queue.push event).toList = queue.toList ++ [event] := by
  simp [push, toList]

/-- New events go behind those that wait, in their order. -/
@[simp] theorem toList_pushAll (queue : EventQueue) (events : List Event) :
    (queue.pushAll events).toList = queue.toList ++ events := by
  induction events generalizing queue with
  | nil => simp [pushAll]
  | cons event rest ih =>
    rw [pushAll, List.foldl_cons]
    change ((queue.push event).pushAll rest).toList = _
    rw [ih, toList_push, List.append_assoc, List.singleton_append]

theorem isEmpty_iff {queue : EventQueue} : queue.isEmpty = true ↔ queue.toList = [] := by
  simp [isEmpty, toList]

theorem pop?_eq_none_iff {queue : EventQueue} : queue.pop? = none ↔ queue.toList = [] := by
  obtain ⟨front, back⟩ := queue
  cases front with
  | cons => simp [pop?, toList]
  | nil =>
    simp only [pop?, toList, List.nil_append]
    split <;> simp_all

/-- The event taken is the first one, and the others stay in order. -/
theorem toList_of_pop?_eq_some {queue rest : EventQueue} {event : Event}
    (taken : queue.pop? = some (event, rest)) : queue.toList = event :: rest.toList := by
  obtain ⟨front, back⟩ := queue
  cases front with
  | cons =>
    simp only [pop?, Option.some.injEq, Prod.mk.injEq] at taken
    obtain ⟨rfl, rfl⟩ := taken
    rfl
  | nil =>
    simp only [pop?] at taken
    split at taken
    · rename_i reversed
      simp only [Option.some.injEq, Prod.mk.injEq] at taken
      obtain ⟨rfl, rfl⟩ := taken
      simp [toList, reversed]
    · cases taken

end EventQueue

end PmacFabric
