import EcSystemCore.Protocol.Types

/-!
# The single-producer single-consumer queue

`SpscQueue` of `main.cpp`: a ring of slots with one index written by the consumer
and one written by the producer.  The atomic accesses and the element copies are
separate operations here, so that the two threads can be interleaved between
them; `TryPush` and `TryPop` are the sequences of these operations that the
threads' step functions spell out.
-/

namespace EcSystemCore

/-- `SpscQueue<Value, Capacity>`. -/
structure SpscQueue (α : Type) where
  values : ℕ → α
  readIndex : ℕ := 0
  writeIndex : ℕ := 0

namespace SpscQueue

variable {α : Type}

/-- The empty queue, every slot value-initialized. -/
def empty [Inhabited α] : SpscQueue α where
  values := fun _ => default

/-- `Next`. -/
def next (capacity index : ℕ) : ℕ := (index + 1) % capacity

/-- `values_[index] = value`. -/
def storeValue (queue : SpscQueue α) (index : ℕ) (value : α) : SpscQueue α :=
  { queue with values := Function.update queue.values index value }

/-- `write_.store(index)`. -/
def storeWrite (queue : SpscQueue α) (index : ℕ) : SpscQueue α :=
  { queue with writeIndex := index }

/-- `read_.store(index)`. -/
def storeRead (queue : SpscQueue α) (index : ℕ) : SpscQueue α :=
  { queue with readIndex := index }

/-- Every slot holds its initial value or one of `pushed`. -/
def SlotsFrom [Inhabited α] (queue : SpscQueue α) (pushed : List α) : Prop :=
  ∀ index, queue.values index = default ∨ queue.values index ∈ pushed

theorem slotsFrom_empty [Inhabited α] (pushed : List α) :
    (empty : SpscQueue α).SlotsFrom pushed :=
  fun _ => .inl rfl

/-- Copying a value into a slot keeps the slots accounted for. -/
theorem SlotsFrom.storeValue [Inhabited α] {queue : SpscQueue α} {pushed : List α}
    (h : queue.SlotsFrom pushed) (index : ℕ) {value : α} (hvalue : value ∈ pushed) :
    (queue.storeValue index value).SlotsFrom pushed := by
  intro i
  by_cases hi : i = index
  · subst hi
    simp [SpscQueue.storeValue, hvalue]
  · simpa [SpscQueue.storeValue, hi] using h i

theorem SlotsFrom.mono [Inhabited α] {queue : SpscQueue α} {pushed pushed' : List α}
    (h : queue.SlotsFrom pushed) (hsub : pushed ⊆ pushed') : queue.SlotsFrom pushed' :=
  fun index => (h index).imp_right fun hmem => hsub hmem

end SpscQueue

end EcSystemCore
