import EcSystemCore.Bus.SpscQueue
import EcSystemCore.Lib.Execution

/-!
# The two threads of the queue

`TryPush`, `TryPop` and `AvailableToWrite` of `SpscQueue`, as one producer and one consumer
run them side by side: every atomic access is a step of its own, and so is every copy of
an element, of which the producer may also have made only a part.

The number of values pushed and popped so far determines both indices, modulo the
capacity (`Consistent`).  From this follow the order of the values, that the two threads
never meet in a slot, and what the producer may rely on once it has asked for the free
space (`spsc_is_fifo`).
-/

namespace EcSystemCore.SpscQueue

open Execution

variable {α : Type}

/-! ### The threads -/

/-- `AvailableToWrite`, of the two indices it has loaded. -/
def availableToWrite (capacity write read : ℕ) : ℕ :=
  if read > write then read - write - 1 else capacity - (write - read) - 1

/-- Where the producer is in `TryPush` or `AvailableToWrite`. -/
inductive Producer (α : Type) where
  | idle
  /-- `TryPush` has loaded `write_`. -/
  | loaded (value : α) (write : ℕ)
  /-- `TryPush` copies the value into its slot. -/
  | copying (value : α) (write : ℕ)
  /-- `TryPush` has copied the value. -/
  | copied (value : α) (write : ℕ)
  /-- `AvailableToWrite` has loaded `write_`. -/
  | sizing (write : ℕ)

/-- Where the consumer is in `TryPop`. -/
inductive Consumer (α : Type) where
  | idle
  /-- It has loaded `read_`. -/
  | loaded (read : ℕ)
  /-- It copies the value out of its slot. -/
  | copying (read : ℕ)
  /-- It has copied the value. -/
  | copied (value : α) (read : ℕ)

/-- What a call has returned. -/
inductive Returned (α : Type) where
  | pushed (value : α)
  | refused (value : α)
  | popped (value : α)
  | empty
  | available (count : ℕ)

/-- The queue, its two threads, and the calls that have returned so far. -/
structure Threads (α : Type) where
  queue : SpscQueue α
  producer : Producer α := .idle
  consumer : Consumer α := .idle
  calls : List (Returned α) := []

/-- An atomic access or a copy. -/
inductive Access (α : Type) where
  /-- The producer calls `TryPush`, which loads `write_`. -/
  | push (value : α)
  /-- `TryPush` loads `read_`. -/
  | pushCheck
  /-- A part of the copy into the slot has been made. -/
  | pushCopyPart (slot : α)
  /-- The copy into the slot ends. -/
  | pushCopy
  /-- `TryPush` stores `write_`. -/
  | pushStore
  /-- The producer calls `AvailableToWrite`, which loads `write_`. -/
  | size
  /-- `AvailableToWrite` loads `read_`. -/
  | sizeCheck
  /-- The consumer calls `TryPop`, which loads `read_`. -/
  | pop
  /-- `TryPop` loads `write_`. -/
  | popCheck
  /-- The copy out of the slot ends. -/
  | popCopy
  /-- `TryPop` stores `read_`. -/
  | popStore

namespace Threads

/-- An empty queue and idle threads. -/
def start [Inhabited α] : Threads α where
  queue := SpscQueue.empty

/-- A call of the producer returns. -/
def producerReturns (s : Threads α) (result : Returned α) : Threads α :=
  { s with producer := .idle, calls := s.calls ++ [result] }

/-- A call of the consumer returns. -/
def consumerReturns (s : Threads α) (result : Returned α) : Threads α :=
  { s with consumer := .idle, calls := s.calls ++ [result] }

/-- One step of one of the threads. -/
def step (capacity : ℕ) (s : Threads α) : Access α → Option (Threads α)
  | .push value =>
    match s.producer with
    | .idle => some { s with producer := .loaded value s.queue.writeIndex }
    | _ => none
  | .pushCheck =>
    match s.producer with
    | .loaded value write =>
      if next capacity write = s.queue.readIndex then
        some (s.producerReturns (.refused value))
      else some { s with producer := .copying value write }
    | _ => none
  | .pushCopyPart slot =>
    match s.producer with
    | .copying _ write => some { s with queue := s.queue.storeValue write slot }
    | _ => none
  | .pushCopy =>
    match s.producer with
    | .copying value write =>
      some { s with
        queue := s.queue.storeValue write value
        producer := .copied value write }
    | _ => none
  | .pushStore =>
    match s.producer with
    | .copied value write =>
      some ({ s with queue := s.queue.storeWrite (next capacity write) }.producerReturns
        (.pushed value))
    | _ => none
  | .size =>
    match s.producer with
    | .idle => some { s with producer := .sizing s.queue.writeIndex }
    | _ => none
  | .sizeCheck =>
    match s.producer with
    | .sizing write =>
      some (s.producerReturns
        (.available (availableToWrite capacity write s.queue.readIndex)))
    | _ => none
  | .pop =>
    match s.consumer with
    | .idle => some { s with consumer := .loaded s.queue.readIndex }
    | _ => none
  | .popCheck =>
    match s.consumer with
    | .loaded read =>
      if read = s.queue.writeIndex then some (s.consumerReturns .empty)
      else some { s with consumer := .copying read }
    | _ => none
  | .popCopy =>
    match s.consumer with
    | .copying read => some { s with consumer := .copied (s.queue.values read) read }
    | _ => none
  | .popStore =>
    match s.consumer with
    | .copied value read =>
      some ({ s with queue := s.queue.storeRead (next capacity read) }.consumerReturns
        (.popped value))
    | _ => none

end Threads

/-- What a step does. -/
inductive Move (capacity : ℕ) (s : Threads α) : Access α → Threads α → Prop where
  | push {value : α} (phase : s.producer = .idle) :
      Move capacity s (.push value) { s with producer := .loaded value s.queue.writeIndex }
  | refuse {value : α} {write : ℕ} (phase : s.producer = .loaded value write)
      (full : next capacity write = s.queue.readIndex) :
      Move capacity s .pushCheck (s.producerReturns (.refused value))
  | accept {value : α} {write : ℕ} (phase : s.producer = .loaded value write)
      (room : next capacity write ≠ s.queue.readIndex) :
      Move capacity s .pushCheck { s with producer := .copying value write }
  | copyPart {value slot : α} {write : ℕ} (phase : s.producer = .copying value write) :
      Move capacity s (.pushCopyPart slot) { s with queue := s.queue.storeValue write slot }
  | copyIn {value : α} {write : ℕ} (phase : s.producer = .copying value write) :
      Move capacity s .pushCopy { s with
        queue := s.queue.storeValue write value, producer := .copied value write }
  | pushed {value : α} {write : ℕ} (phase : s.producer = .copied value write) :
      Move capacity s .pushStore
        ({ s with queue := s.queue.storeWrite (next capacity write) }.producerReturns
          (.pushed value))
  | size (phase : s.producer = .idle) :
      Move capacity s .size { s with producer := .sizing s.queue.writeIndex }
  | sized {write : ℕ} (phase : s.producer = .sizing write) :
      Move capacity s .sizeCheck
        (s.producerReturns (.available (availableToWrite capacity write s.queue.readIndex)))
  | pop (phase : s.consumer = .idle) :
      Move capacity s .pop { s with consumer := .loaded s.queue.readIndex }
  | empty {read : ℕ} (phase : s.consumer = .loaded read) (none : read = s.queue.writeIndex) :
      Move capacity s .popCheck (s.consumerReturns .empty)
  | found {read : ℕ} (phase : s.consumer = .loaded read) (some : read ≠ s.queue.writeIndex) :
      Move capacity s .popCheck { s with consumer := .copying read }
  | copyOut {read : ℕ} (phase : s.consumer = .copying read) :
      Move capacity s .popCopy { s with consumer := .copied (s.queue.values read) read }
  | popped {value : α} {read : ℕ} (phase : s.consumer = .copied value read) :
      Move capacity s .popStore
        ({ s with queue := s.queue.storeRead (next capacity read) }.consumerReturns
          (.popped value))

theorem Threads.move_of_step {capacity : ℕ} {s t : Threads α} {access : Access α}
    (h : s.step capacity access = some t) : Move capacity s access t := by
  cases access with
  | push value =>
    simp only [Threads.step] at h
    split at h <;> cases h
    exact .push ‹_›
  | pushCheck =>
    simp only [Threads.step] at h
    split at h
    · split at h <;> cases h
      · exact .refuse ‹_› ‹_›
      · exact .accept ‹_› ‹_›
    · cases h
  | pushCopyPart slot =>
    simp only [Threads.step] at h
    split at h <;> cases h
    exact .copyPart ‹_›
  | pushCopy =>
    simp only [Threads.step] at h
    split at h <;> cases h
    exact .copyIn ‹_›
  | pushStore =>
    simp only [Threads.step] at h
    split at h <;> cases h
    exact .pushed ‹_›
  | size =>
    simp only [Threads.step] at h
    split at h <;> cases h
    exact .size ‹_›
  | sizeCheck =>
    simp only [Threads.step] at h
    split at h <;> cases h
    exact .sized ‹_›
  | pop =>
    simp only [Threads.step] at h
    split at h <;> cases h
    exact .pop ‹_›
  | popCheck =>
    simp only [Threads.step] at h
    split at h
    · split at h <;> cases h
      · exact .empty ‹_› ‹_›
      · exact .found ‹_› ‹_›
    · cases h
  | popCopy =>
    simp only [Threads.step] at h
    split at h <;> cases h
    exact .copyOut ‹_›
  | popStore =>
    simp only [Threads.step] at h
    split at h <;> cases h
    exact .popped ‹_›

/-! ### What the calls say -/

/-- The value of a successful `TryPush`. -/
def Returned.pushed? : Returned α → Option α
  | pushed value => some value
  | _ => none

/-- The value of a successful `TryPop`. -/
def Returned.popped? : Returned α → Option α
  | popped value => some value
  | _ => none

/-- What a `TryPush` returned. -/
def Returned.accepted? : Returned α → Option Bool
  | pushed _ => some true
  | refused _ => some false
  | _ => none

namespace Threads

/-- The values pushed, in order. -/
def pushed (s : Threads α) : List α := s.calls.filterMap Returned.pushed?

/-- The values popped, in order. -/
def popped (s : Threads α) : List α := s.calls.filterMap Returned.popped?

/-- The values between the two indices of the ring. -/
def contents (capacity : ℕ) (s : Threads α) : List α :=
  (List.range ((s.queue.writeIndex + capacity - s.queue.readIndex) % capacity)).map fun i =>
    s.queue.values ((s.queue.readIndex + i) % capacity)

/-- The producer is writing the slot. -/
def Writing (s : Threads α) (slot : ℕ) : Prop := ∃ value, s.producer = .copying value slot

/-- The consumer may be reading the slot. -/
def Reading (s : Threads α) (slot : ℕ) : Prop := s.consumer = .copying slot

end Threads

/-- After the free space was reported, so many calls of `TryPush` succeed, and as many as
have not been made yet still fit. -/
def Promised (capacity pushed popped : ℕ) (calls : List (Returned α)) : Prop :=
  ∀ front count rest, calls = front ++ .available count :: rest →
    (∀ accepted ∈ (rest.filterMap Returned.accepted?).take count, accepted = true) ∧
      ((rest.filterMap Returned.accepted?).length < count →
        count + pushed < (rest.filterMap Returned.accepted?).length + popped + capacity)

/-! ### Slots -/

section

variable {capacity i j : ℕ}

/-- Positions less than a capacity apart have different slots. -/
theorem slot_ne (h : i < j) (hj : j < i + capacity) : i % capacity ≠ j % capacity := by
  intro heq
  have hdvd : capacity ∣ j - i := Nat.dvd_of_mod_eq_zero (Nat.sub_mod_eq_zero_of_mod_eq heq.symm)
  have := Nat.le_of_dvd (by omega) hdvd
  omega

theorem next_slot (i : ℕ) : next capacity (i % capacity) = (i + 1) % capacity := by
  unfold next
  rw [Nat.add_mod, Nat.mod_mod, ← Nat.add_mod]

/-- Equal slots within a capacity are equal positions, or a whole capacity apart. -/
theorem slot_eq_iff (h : i ≤ j) (hj : j ≤ i + capacity) (hcapacity : 0 < capacity) :
    i % capacity = j % capacity ↔ j = i ∨ j = i + capacity := by
  constructor
  · intro heq
    by_contra hne
    rw [not_or] at hne
    exact slot_ne (by omega) (by omega) heq
  · rintro (rfl | rfl)
    · rfl
    · rw [Nat.add_mod_right]

/-- The distance between two slots. -/
theorem slot_distance (h : i ≤ j) (hj : j < i + capacity) :
    (j % capacity + capacity - i % capacity) % capacity = j - i := by
  have hi := Nat.mod_lt i (show 0 < capacity by omega)
  obtain ⟨k, rfl⟩ := Nat.exists_eq_add_of_le h
  have hk : k < capacity := by omega
  rw [Nat.add_mod i k, Nat.mod_eq_of_lt hk]
  rcases Nat.lt_or_ge (i % capacity + k) capacity with hlt | hge
  · rw [Nat.mod_eq_of_lt hlt, show i % capacity + k + capacity - i % capacity = k + capacity by omega,
      Nat.add_mod_right, Nat.mod_eq_of_lt hk]
    omega
  · have hwrap : (i % capacity + k) % capacity = i % capacity + k - capacity := by
      rw [Nat.mod_eq_sub_mod hge, Nat.mod_eq_of_lt (by omega)]
    rw [hwrap, show i % capacity + k - capacity + capacity - i % capacity = k by omega,
      Nat.mod_eq_of_lt hk]
    omega

/-- What `AvailableToWrite` computes from the two slots. -/
theorem availableToWrite_slots (h : i ≤ j) (hj : j < i + capacity) :
    availableToWrite capacity (j % capacity) (i % capacity) + j + 1 = i + capacity := by
  have hi := Nat.mod_lt i (show 0 < capacity by omega)
  have hj' := Nat.mod_lt j (show 0 < capacity by omega)
  have hdistance := slot_distance h hj
  unfold availableToWrite
  split
  · rw [Nat.mod_eq_of_lt (by omega)] at hdistance
    omega
  · rw [show j % capacity + capacity - i % capacity = j % capacity - i % capacity + capacity by omega,
      Nat.add_mod_right, Nat.mod_eq_of_lt (by omega)] at hdistance
    omega

end

/-! ### The invariant -/

/-- What the producer knows: where it is going to write, and that there is room. -/
def Producer.Knows (capacity pushed popped : ℕ) (values : ℕ → α) : Producer α → Prop
  | idle => True
  | loaded _ write => write = pushed % capacity
  | copying _ write => write = pushed % capacity ∧ pushed + 1 < popped + capacity
  | copied value write =>
    write = pushed % capacity ∧ pushed + 1 < popped + capacity ∧ values write = value
  | sizing write => write = pushed % capacity

/-- What the consumer knows: where it is going to read, and that there is a value. -/
def Consumer.Knows (capacity : ℕ) (pushed : List α) (popped : ℕ) : Consumer α → Prop
  | idle => True
  | loaded read => read = popped % capacity
  | copying read => read = popped % capacity ∧ popped < pushed.length
  | copied value read => read = popped % capacity ∧ pushed[popped]? = some value

/-- The indices count what has been pushed and popped, and the slots between them hold the
values that are still to be popped. -/
structure Consistent (capacity : ℕ) (queue : SpscQueue α) (pushed popped : List α)
    (producer : Producer α) (consumer : Consumer α) (calls : List (Returned α)) : Prop where
  order : popped = pushed.take popped.length
  le : popped.length ≤ pushed.length
  lt : pushed.length < popped.length + capacity
  read : queue.readIndex = popped.length % capacity
  write : queue.writeIndex = pushed.length % capacity
  slots : ∀ i value, pushed[i]? = some value → popped.length ≤ i →
    queue.values (i % capacity) = value
  producer : producer.Knows capacity pushed.length popped.length queue.values
  consumer : consumer.Knows capacity pushed popped.length
  promised : Promised capacity pushed.length popped.length calls

/-- The threads are consistent with the calls that have returned. -/
def Threads.IsConsistent (capacity : ℕ) (s : Threads α) : Prop :=
  Consistent capacity s.queue s.pushed s.popped s.producer s.consumer s.calls

theorem isConsistent_start [Inhabited α] {capacity : ℕ} (hcapacity : 2 ≤ capacity) :
    (Threads.start : Threads α).IsConsistent capacity where
  order := rfl
  le := Nat.le_refl 0
  lt := by
    show 0 < 0 + capacity
    omega
  read := rfl
  write := rfl
  slots := by
    intro i value h
    cases h
  producer := trivial
  consumer := trivial
  promised := by
    intro front count rest h
    simp [Threads.start] at h

section

variable {capacity pushed popped : ℕ} {calls : List (Returned α)}

/-- Popping makes more room. -/
theorem Producer.Knows.mono {producer : Producer α} {values : ℕ → α}
    (h : producer.Knows capacity pushed popped values) {popped' : ℕ} (hle : popped ≤ popped') :
    producer.Knows capacity pushed popped' values := by
  cases producer with
  | idle => trivial
  | loaded value write => exact h
  | copying value write => exact ⟨h.1, by have := h.2; omega⟩
  | copied value write => exact ⟨h.1, by have := h.2.1; omega, h.2.2⟩
  | sizing write => exact h

/-- Pushing keeps what there is to read. -/
theorem Consumer.Knows.concat {consumer : Consumer α} {values : List α}
    (h : consumer.Knows capacity values popped) (value : α) :
    consumer.Knows capacity (values ++ [value]) popped := by
  cases consumer with
  | idle => trivial
  | loaded read => exact h
  | copying read => exact ⟨h.1, by have := h.2; simp; omega⟩
  | copied found read =>
    obtain ⟨hlt, -⟩ := List.getElem?_eq_some_iff.mp h.2
    exact ⟨h.1, by rw [List.getElem?_append_left hlt]; exact h.2⟩

/-- A report of the free space is the last call, or an earlier one. -/
theorem available_of_concat {front rest : List (Returned α)} {result : Returned α} {count : ℕ}
    (h : calls ++ [result] = front ++ .available count :: rest) :
    rest = [] ∧ result = .available count ∨
      ∃ rest', rest = rest' ++ [result] ∧ calls = front ++ .available count :: rest' := by
  rcases List.eq_nil_or_concat rest with rfl | ⟨rest', last, rfl⟩
  · exact .inl ⟨rfl, (List.append_inj' h rfl).2 |> List.singleton_inj.mp⟩
  · refine .inr ⟨rest', ?_⟩
    rw [List.concat_eq_append] at h ⊢
    rw [← List.cons_append, ← List.append_assoc] at h
    obtain ⟨hcalls, hlast⟩ := List.append_inj' h rfl
    rw [List.singleton_inj.mp hlast]
    exact ⟨rfl, hcalls⟩

/-- A call that is no `TryPush` leaves the promises as they are. -/
theorem Promised.concat_other (h : Promised capacity pushed popped calls) {result : Returned α}
    (hother : result.accepted? = none) {popped' : ℕ} (hle : popped ≤ popped')
    (hnew : ∀ count, result = .available count → count + pushed < popped' + capacity) :
    Promised capacity pushed popped' (calls ++ [result]) := by
  intro front count rest hcalls
  obtain ⟨rfl, hresult⟩ | ⟨rest', rfl, hbefore⟩ := available_of_concat hcalls
  · refine ⟨by simp, fun _ => ?_⟩
    have := hnew count hresult
    simpa using this
  · obtain ⟨haccepted, hroom⟩ := h front count rest' hbefore
    rw [List.filterMap_append, List.filterMap_cons_none hother, List.filterMap_nil, List.append_nil]
    exact ⟨haccepted, fun hlt => by have := hroom hlt; omega⟩

/-- A `TryPush` that succeeds uses up one place. -/
theorem Promised.concat_pushed (h : Promised capacity pushed popped calls) (value : α) :
    Promised capacity (pushed + 1) popped (calls ++ [.pushed value]) := by
  intro front count rest hcalls
  obtain ⟨-, hresult⟩ | ⟨rest', rfl, hbefore⟩ := available_of_concat hcalls
  · cases hresult
  · obtain ⟨haccepted, hroom⟩ := h front count rest' hbefore
    rw [List.filterMap_append]
    refine ⟨fun outcome houtcome => ?_, fun hlt => ?_⟩
    · rw [List.take_append] at houtcome
      obtain houtcome | houtcome := List.mem_append.mp houtcome
      · exact haccepted outcome houtcome
      · simpa [Returned.accepted?] using List.mem_of_mem_take houtcome
    · simp only [List.length_append, Returned.accepted?, List.filterMap_cons, List.filterMap_nil,
        List.length_singleton] at hlt ⊢
      have := hroom (by omega)
      omega

/-- A `TryPush` that fails was not promised to succeed. -/
theorem Promised.concat_refused (h : Promised capacity pushed popped calls)
    (hfull : popped + capacity ≤ pushed + 1) (value : α) :
    Promised capacity pushed popped (calls ++ [.refused value]) := by
  intro front count rest hcalls
  obtain ⟨-, hresult⟩ | ⟨rest', rfl, hbefore⟩ := available_of_concat hcalls
  · cases hresult
  · obtain ⟨haccepted, hroom⟩ := h front count rest' hbefore
    have hdone : count ≤ (rest'.filterMap Returned.accepted?).length := by
      by_contra hlt
      have := hroom (by omega)
      omega
    rw [List.filterMap_append, List.take_append_of_le_length hdone, List.length_append]
    exact ⟨haccepted, fun hlt => by omega⟩

end

/-! ### One step -/

namespace Consistent

variable {capacity : ℕ} {queue : SpscQueue α} {pushed popped : List α} {producer : Producer α}
  {consumer : Consumer α} {calls : List (Returned α)}
  (hs : Consistent capacity queue pushed popped producer consumer calls)
include hs

/-- The slot the producer writes holds none of the values still to be popped. -/
theorem storeValue (hroom : pushed.length + 1 < popped.length + capacity) (slot : α)
    {producer' : Producer α}
    (h : producer'.Knows capacity pushed.length popped.length
      (queue.storeValue (pushed.length % capacity) slot).values) :
    Consistent capacity (queue.storeValue (pushed.length % capacity) slot) pushed popped producer'
      consumer calls :=
  { hs with
    slots := by
      intro i value hvalue hi
      obtain ⟨hlt, -⟩ := List.getElem?_eq_some_iff.mp hvalue
      have hne : i % capacity ≠ pushed.length % capacity := slot_ne hlt (by omega)
      show Function.update queue.values _ slot (i % capacity) = value
      rw [Function.update_of_ne hne]
      exact hs.slots i value hvalue hi
    producer := h }

/-- The value in the slot becomes the last one of the queue. -/
theorem storeWrite {value : α} (hproducer : producer = .copied value (pushed.length % capacity)) :
    Consistent capacity (queue.storeWrite (next capacity (pushed.length % capacity)))
      (pushed ++ [value]) popped .idle consumer (calls ++ [.pushed value]) := by
  have hknows := hs.producer
  rw [hproducer] at hknows
  obtain ⟨-, hroom, hslot⟩ := hknows
  constructor
  · rw [List.take_append_of_le_length hs.le]
    exact hs.order
  · rw [List.length_append]
    exact Nat.le_trans hs.le (Nat.le_add_right _ _)
  · simpa using hroom
  · exact hs.read
  · rw [List.length_append]
    exact next_slot pushed.length
  · intro i found hfound hi
    show queue.values (i % capacity) = found
    by_cases hlt : i < pushed.length
    · rw [List.getElem?_append_left hlt] at hfound
      exact hs.slots i found hfound hi
    · obtain rfl : i = pushed.length := by
        have := (List.getElem?_eq_some_iff.mp hfound).1
        simp at this
        omega
      rw [List.getElem?_append_right (Nat.le_refl _)] at hfound
      rw [hslot]
      simpa using hfound
  · trivial
  · exact hs.consumer.concat value
  · rw [List.length_append]
    exact hs.promised.concat_pushed value

/-- The first value of the queue has been popped. -/
theorem storeRead {value : α} (hconsumer : consumer = .copied value (popped.length % capacity)) :
    Consistent capacity (queue.storeRead (next capacity (popped.length % capacity))) pushed
      (popped ++ [value]) producer .idle (calls ++ [.popped value]) := by
  have hknows := hs.consumer
  rw [hconsumer] at hknows
  obtain ⟨hlt, hget⟩ := List.getElem?_eq_some_iff.mp hknows.2
  have hfull := hs.lt
  constructor
  · rw [List.length_append, List.length_singleton, List.take_add_one, ← hs.order, hknows.2]
    rfl
  · rw [List.length_append]
    exact hlt
  · simp only [List.length_append, List.length_singleton]
    omega
  · rw [List.length_append]
    exact next_slot popped.length
  · exact hs.write
  · intro i found hfound hi
    simp only [List.length_append, List.length_singleton] at hi
    exact hs.slots i found hfound (by omega)
  · exact hs.producer.mono (by simp)
  · trivial
  · refine hs.promised.concat_other rfl (by simp) ?_
    intro count h
    cases h

end Consistent

/-- A full queue is one whose next slot is the first. -/
theorem Threads.IsConsistent.full_iff {capacity : ℕ} {s : Threads α} (hs : s.IsConsistent capacity)
    (hcapacity : 2 ≤ capacity) :
    next capacity (s.pushed.length % capacity) = s.queue.readIndex ↔
      s.pushed.length + 1 = s.popped.length + capacity := by
  have hle := hs.le
  have hlt := hs.lt
  rw [next_slot, hs.read, eq_comm, slot_eq_iff (by omega) (by omega) (by omega)]
  omega

/-- An empty queue is one whose indices are equal. -/
theorem Threads.IsConsistent.empty_iff {capacity : ℕ} {s : Threads α}
    (hs : s.IsConsistent capacity) (hcapacity : 2 ≤ capacity) :
    s.popped.length % capacity = s.queue.writeIndex ↔ s.pushed.length = s.popped.length := by
  have hle := hs.le
  have hlt := hs.lt
  rw [hs.write, slot_eq_iff (by omega) (by omega) (by omega)]
  omega

/-- The calls so far after one that neither pushed nor popped a value. -/
theorem Threads.pushed_popped_concat (s : Threads α) {result : Returned α}
    (hpushed : result.pushed? = none) (hpopped : result.popped? = none) :
    (s.calls ++ [result]).filterMap Returned.pushed? = s.pushed ∧
      (s.calls ++ [result]).filterMap Returned.popped? = s.popped := by
  simp [hpushed, hpopped, Threads.pushed, Threads.popped]

/-- **One step keeps the threads consistent.** -/
theorem Threads.IsConsistent.step {capacity : ℕ} (hcapacity : 2 ≤ capacity) {s t : Threads α}
    {access : Access α} (hs : s.IsConsistent capacity)
    (hstep : s.step capacity access = some t) : t.IsConsistent capacity := by
  have hproducer := hs.producer
  have hconsumer := hs.consumer
  cases Threads.move_of_step hstep with
  | push phase => exact { hs with producer := hs.write }
  | @refuse value write phase full =>
    rw [phase] at hproducer
    cases (show write = s.pushed.length % capacity from hproducer)
    rw [hs.full_iff hcapacity] at full
    obtain ⟨hpushed, hpopped⟩ := s.pushed_popped_concat
      (show (Returned.refused value).pushed? = none from rfl) rfl
    show Consistent capacity s.queue ((s.calls ++ [Returned.refused value]).filterMap _)
      ((s.calls ++ [Returned.refused value]).filterMap _) .idle s.consumer _
    rw [hpushed, hpopped]
    exact { hs with
      producer := trivial
      promised := hs.promised.concat_refused (Nat.le_of_eq full.symm) value }
  | @accept value write phase room =>
    rw [phase] at hproducer
    cases (show write = s.pushed.length % capacity from hproducer)
    rw [Ne, hs.full_iff hcapacity] at room
    have hlt := hs.lt
    have hroom : s.pushed.length + 1 < s.popped.length + capacity := by omega
    exact { hs with producer := ⟨rfl, hroom⟩ }
  | @copyPart value slot write phase =>
    rw [phase] at hproducer
    obtain ⟨rfl, hroom⟩ := hproducer
    have hstays : s.producer.Knows capacity s.pushed.length s.popped.length
        (s.queue.storeValue (s.pushed.length % capacity) slot).values := by
      rw [phase]
      exact ⟨rfl, hroom⟩
    exact Consistent.storeValue hs hroom slot hstays
  | @copyIn value write phase =>
    rw [phase] at hproducer
    obtain ⟨rfl, hroom⟩ := hproducer
    exact Consistent.storeValue hs hroom value ⟨rfl, hroom, Function.update_self _ _ _⟩
  | @pushed value write phase =>
    rw [phase] at hproducer
    obtain ⟨rfl, -⟩ := hproducer
    have hpushed : (s.calls ++ [Returned.pushed value]).filterMap Returned.pushed? =
        s.pushed ++ [value] := List.filterMap_append
    have hpopped : (s.calls ++ [Returned.pushed value]).filterMap Returned.popped? =
        s.popped := List.filterMap_append.trans (List.append_nil _)
    show Consistent capacity _ ((s.calls ++ [Returned.pushed value]).filterMap _)
      ((s.calls ++ [Returned.pushed value]).filterMap _) .idle s.consumer _
    rw [hpushed, hpopped]
    exact Consistent.storeWrite hs phase
  | size phase => exact { hs with producer := hs.write }
  | @sized write phase =>
    rw [phase] at hproducer
    cases (show write = s.pushed.length % capacity from hproducer)
    have havailable := availableToWrite_slots hs.le hs.lt
    rw [← hs.read] at havailable
    obtain ⟨hpushed, hpopped⟩ := s.pushed_popped_concat
      (show (Returned.available _).pushed? = none from rfl) rfl
    show Consistent capacity s.queue ((s.calls ++ [Returned.available _]).filterMap _)
      ((s.calls ++ [Returned.available _]).filterMap _) .idle s.consumer _
    rw [hpushed, hpopped]
    refine { hs with producer := trivial, promised := ?_ }
    refine hs.promised.concat_other rfl (Nat.le_refl _) ?_
    intro count hcount
    cases hcount
    omega
  | pop phase => exact { hs with consumer := hs.read }
  | @empty read phase none =>
    obtain ⟨hpushed, hpopped⟩ := s.pushed_popped_concat
      (show (Returned.empty : Returned α).pushed? = .none from rfl) rfl
    show Consistent capacity s.queue ((s.calls ++ [Returned.empty]).filterMap _)
      ((s.calls ++ [Returned.empty]).filterMap _) s.producer .idle _
    rw [hpushed, hpopped]
    refine { hs with consumer := trivial, promised := ?_ }
    refine hs.promised.concat_other rfl (Nat.le_refl _) ?_
    intro count hcount
    cases hcount
  | @found read phase some =>
    rw [phase] at hconsumer
    cases (show read = s.popped.length % capacity from hconsumer)
    rw [Ne, hs.empty_iff hcapacity] at some
    have hle := hs.le
    have hlt : s.popped.length < s.pushed.length := by omega
    exact { hs with consumer := ⟨rfl, hlt⟩ }
  | @copyOut read phase =>
    rw [phase] at hconsumer
    obtain ⟨rfl, hlt⟩ := hconsumer
    have hget := List.getElem?_eq_getElem hlt
    have hslot := hs.slots _ _ hget (Nat.le_refl _)
    rw [← hslot] at hget
    exact { hs with consumer := ⟨rfl, hget⟩ }
  | @popped value read phase =>
    rw [phase] at hconsumer
    obtain ⟨rfl, -⟩ := hconsumer
    have hpushed : (s.calls ++ [Returned.popped value]).filterMap Returned.pushed? =
        s.pushed := List.filterMap_append.trans (List.append_nil _)
    have hpopped : (s.calls ++ [Returned.popped value]).filterMap Returned.popped? =
        s.popped ++ [value] := List.filterMap_append
    show Consistent capacity _ ((s.calls ++ [Returned.popped value]).filterMap _)
      ((s.calls ++ [Returned.popped value]).filterMap _) s.producer .idle _
    rw [hpushed, hpopped]
    exact Consistent.storeRead hs phase

/-! ### Whole runs -/

/-- What the ring holds is what has been pushed and not popped. -/
theorem Threads.IsConsistent.contents_eq {capacity : ℕ} {s : Threads α}
    (hs : s.IsConsistent capacity) : s.contents capacity = s.pushed.drop s.popped.length := by
  unfold Threads.contents
  rw [hs.read, hs.write, slot_distance hs.le hs.lt]
  refine List.ext_getElem? fun i => ?_
  rw [List.getElem?_map, List.getElem?_drop]
  by_cases hi : i < s.pushed.length - s.popped.length
  · have hlt : s.popped.length + i < s.pushed.length := by omega
    rw [List.getElem?_range hi, List.getElem?_eq_getElem hlt, Option.map_some,
      Nat.add_mod, Nat.mod_mod, ← Nat.add_mod]
    exact congrArg some (hs.slots _ _ (List.getElem?_eq_getElem hlt) (Nat.le_add_right _ _))
  · rw [List.getElem?_eq_none (by simpa using hi), List.getElem?_eq_none (by omega)]
    rfl

variable [Inhabited α] {capacity : ℕ}

/-- A run keeps the threads consistent. -/
theorem isConsistent_of_run (hcapacity : 2 ≤ capacity) {accesses : List (Access α)}
    {s : Threads α} (hrun : run (Threads.step capacity) .start accesses = some s) :
    s.IsConsistent capacity :=
  run_induction _ (fun _ _ _ hs hstep => hs.step hcapacity hstep) (isConsistent_start hcapacity)
    hrun

/-- **The queue is a FIFO for one value less than its capacity**, whatever the interleaving
of the two threads.  The popped values and those in the ring are the pushed ones, in order;
the threads never meet in a slot; a call fails only on a full or an empty queue; and as many
calls of `TryPush` succeed as `AvailableToWrite` said. -/
theorem spsc_is_fifo (hcapacity : 2 ≤ capacity) {accesses : List (Access α)} {s : Threads α}
    (hrun : run (Threads.step capacity) .start accesses = some s) :
    s.popped ++ s.contents capacity = s.pushed ∧
      (s.contents capacity).length ≤ capacity - 1 ∧
      (∀ slot, s.Writing slot → ¬s.Reading slot) ∧
      (∀ value t, s.step capacity .pushCheck = some t →
        t.calls = s.calls ++ [.refused value] → (s.contents capacity).length = capacity - 1) ∧
      (∀ t, s.step capacity .popCheck = some t →
        t.calls = s.calls ++ [.empty] → s.contents capacity = []) ∧
      ∀ front count rest, s.calls = front ++ .available count :: rest →
        ∀ accepted ∈ (rest.filterMap Returned.accepted?).take count, accepted = true := by
  have hs := isConsistent_of_run hcapacity hrun
  have hle := hs.le
  have hlt := hs.lt
  have hcontents := hs.contents_eq
  have hlength : (s.contents capacity).length = s.pushed.length - s.popped.length := by
    rw [hcontents, List.length_drop]
  refine ⟨?_, ?_, ?_, ?_, ?_, ?_⟩
  · rw [hcontents]
    calc s.popped ++ s.pushed.drop s.popped.length
        = s.pushed.take s.popped.length ++ s.pushed.drop s.popped.length :=
          congrArg (· ++ s.pushed.drop s.popped.length) hs.order
      _ = s.pushed := List.take_append_drop _ _
  · omega
  · rintro slot ⟨value, hwriting⟩ hreading
    have hproducer := hs.producer
    have hconsumer := hs.consumer
    rw [hwriting] at hproducer
    rw [show s.consumer = .copying slot from hreading] at hconsumer
    obtain ⟨hslot, hroom⟩ := hproducer
    obtain ⟨hslot', hsome⟩ := hconsumer
    exact slot_ne hsome (by omega) (hslot'.symm.trans hslot)
  · intro value t hstep hcalls
    cases Threads.move_of_step hstep with
    | @refuse value' write phase full =>
      have hproducer := hs.producer
      rw [phase] at hproducer
      cases (show write = s.pushed.length % capacity from hproducer)
      rw [hs.full_iff hcapacity] at full
      omega
    | accept phase room => simp at hcalls
  · intro t hstep hcalls
    cases Threads.move_of_step hstep with
    | @empty read phase none =>
      have hconsumer := hs.consumer
      rw [phase] at hconsumer
      cases (show read = s.popped.length % capacity from hconsumer)
      rw [hs.empty_iff hcapacity] at none
      exact List.eq_nil_of_length_eq_zero (by omega)
    | found phase some => simp at hcalls
  · intro front count rest hcalls
    exact (hs.promised front count rest hcalls).1

/-- With room for one value, the second `TryPush` is refused while the first value is still
being copied out. -/
theorem spsc_is_fifo_capacity_two :
    ∃ s : Threads ℕ, run (Threads.step 2) .start [.size, .sizeCheck, .push 7, .pushCheck, .pop,
        .pushCopyPart 3, .pushCopy, .pushStore, .popCheck, .push 8, .pushCheck, .popCopy] =
          some s ∧ s.popped = [] ∧ s.contents 2 = [7] ∧ s.popped ++ s.contents 2 = s.pushed := by
  refine ⟨_, rfl, rfl, by decide, ?_⟩
  exact (spsc_is_fifo (by decide) (rfl : run (Threads.step 2) (.start : Threads ℕ) [.size,
    .sizeCheck, .push 7, .pushCheck, .pop, .pushCopyPart 3, .pushCopy, .pushStore, .popCheck,
    .push 8, .pushCheck, .popCopy] = some _)).1

end EcSystemCore.SpscQueue
