import Mathlib.Data.PEquiv

/-!
# Fixed layouts and the messages written in them

A `Layout` is a fixed number of positions that hold a value of some type: what is
written is read back in front of any rest (`read_eq_some_iff`), and every list that is
long enough holds a value (`isSome_read`).  Layouts are put one after the other with
`pair`.

A message type is given by a layout for its header and a partial equivalence between
messages and pairs of header and body: the messages that may be sent, and the pairs
that are such a message.  `encode` and `decode` are then inverse to each other
(`roundTrips`), whatever the layout and the equivalence are.
-/

namespace EcSystemCore

universe u

variable {β α γ : Type u}

/-- A value of type `α` in `size` positions. -/
structure Layout (β α : Type u) where
  size : ℕ
  write : α → List β
  read : List β → Option (α × List β)
  length_write : ∀ value, (write value).length = size
  read_eq_some_iff : ∀ {bytes value rest},
    read bytes = some (value, rest) ↔ bytes = write value ++ rest
  isSome_read : ∀ {bytes}, size ≤ bytes.length → (read bytes).isSome

/-- An encoder that refuses a value with the empty list, and a decoder, are inverse to each
other. -/
structure RoundTrips (encode : α → List β) (decode : List β → Option α) : Prop where
  decode_encode : ∀ value, encode value ≠ [] → decode (encode value) = some value
  encode_decode : ∀ bytes value, decode bytes = some value → encode value = bytes

namespace Layout

@[simp] theorem read_write (layout : Layout β α) (value : α) (rest : List β) :
    layout.read (layout.write value ++ rest) = some (value, rest) :=
  layout.read_eq_some_iff.mpr rfl

/-- Bytes that are long enough hold a value. -/
theorem exists_write (layout : Layout β α) {bytes : List β} (h : layout.size ≤ bytes.length) :
    ∃ value rest, bytes = layout.write value ++ rest := by
  obtain ⟨⟨value, rest⟩, hread⟩ := Option.isSome_iff_exists.mp (layout.isSome_read h)
  exact ⟨value, rest, layout.read_eq_some_iff.mp hread⟩

theorem length_of_read (layout : Layout β α) {bytes rest : List β} {value : α}
    (h : layout.read bytes = some (value, rest)) : bytes.length = layout.size + rest.length := by
  rw [layout.read_eq_some_iff.mp h, List.length_append, layout.length_write]

/-- A read fails only on bytes that are too short. -/
theorem read_eq_none_iff (layout : Layout β α) {bytes : List β} :
    layout.read bytes = none ↔ bytes.length < layout.size := by
  constructor
  · intro hnone
    by_contra hlong
    have hsome := layout.isSome_read (Nat.le_of_not_lt hlong)
    rw [hnone] at hsome
    cases hsome
  · intro hshort
    cases hread : layout.read bytes with
    | none => rfl
    | some result =>
      obtain ⟨value, rest⟩ := result
      have hlength := layout.length_of_read hread
      omega

/-- Two layouts one after the other. -/
def pair (left : Layout β α) (right : Layout β γ) : Layout β (α × γ) where
  size := left.size + right.size
  write value := left.write value.1 ++ right.write value.2
  read bytes := do
    let (first, bytes) ← left.read bytes
    let (second, bytes) ← right.read bytes
    return ((first, second), bytes)
  length_write value := by rw [List.length_append, left.length_write, right.length_write]
  read_eq_some_iff := by
    intro bytes value rest
    constructor
    · intro hread
      obtain ⟨⟨first, middle⟩, hleft, hread⟩ := Option.bind_eq_some_iff.mp hread
      obtain ⟨⟨second, last⟩, hright, hread⟩ := Option.bind_eq_some_iff.mp hread
      cases hread
      rw [left.read_eq_some_iff.mp hleft, right.read_eq_some_iff.mp hright, List.append_assoc]
    · rintro rfl
      rw [List.append_assoc, read_write]
      change (right.read _).bind _ = _
      rw [read_write]
      rfl
  isSome_read := by
    intro bytes hlong
    obtain ⟨first, middle, rfl⟩ := left.exists_write (Nat.le_of_add_right_le hlong)
    rw [List.length_append, left.length_write] at hlong
    obtain ⟨second, last, rfl⟩ := right.exists_write (Nat.le_of_add_le_add_left hlong)
    rw [read_write]
    change ((right.read _).bind _).isSome
    rw [read_write]
    rfl

@[simp] theorem pair_write (left : Layout β α) (right : Layout β γ) (value : α × γ) :
    (left.pair right).write value = left.write value.1 ++ right.write value.2 := rfl

section Messages

variable {ρ : Type u} (layout : Layout β ρ) (fields : α ≃. ρ × List β)

/-- The header and the body of a message, or nothing for one that may not be sent. -/
def encode (message : α) : List β :=
  match fields message with
  | none => []
  | some (header, body) => layout.write header ++ body

/-- The message with the header and body found. -/
def decode (bytes : List β) : Option α := (layout.read bytes).bind fields.symm

/-- A decoder is the one of the layout, up to the type it returns, if it refuses what is too
short for the header and builds its answer from header and body. -/
theorem eq_map_decode {γ : Type u} {convert : α → γ} {decoder : List β → Option γ}
    (short : ∀ bytes, bytes.length < layout.size → decoder bytes = none)
    (built : ∀ header body,
      decoder (layout.write header ++ body) = (fields.symm (header, body)).map convert) :
    decoder = fun bytes => (layout.decode fields bytes).map convert := by
  funext bytes
  unfold decode
  cases hread : layout.read bytes with
  | none => exact short bytes (layout.read_eq_none_iff.mp hread)
  | some result =>
    rw [layout.read_eq_some_iff.mp hread]
    exact built result.1 result.2

theorem eq_decode {decoder : List β → Option α}
    (short : ∀ bytes, bytes.length < layout.size → decoder bytes = none)
    (built : ∀ header body, decoder (layout.write header ++ body) = fields.symm (header, body)) :
    decoder = layout.decode fields := by
  have h : decoder = fun bytes => (layout.decode fields bytes).map id :=
    layout.eq_map_decode fields short fun header body => by rw [built, Option.map_id, id]
  simpa using h

theorem decode_eq_some_iff {bytes : List β} {message : α} :
    layout.decode fields bytes = some message ↔ ∃ header body,
      fields message = some (header, body) ∧ bytes = layout.write header ++ body := by
  constructor
  · intro hdecode
    obtain ⟨⟨header, body⟩, hread, hmessage⟩ := Option.bind_eq_some_iff.mp hdecode
    exact ⟨header, body, fields.eq_some_iff.mp hmessage, layout.read_eq_some_iff.mp hread⟩
  · rintro ⟨header, body, hfields, rfl⟩
    unfold decode
    rw [read_write]
    exact fields.eq_some_iff.mpr hfields

/-- **Messages are read back as they were sent**, and only as they can be sent. -/
theorem roundTrips : RoundTrips (layout.encode fields) (layout.decode fields) where
  decode_encode message hsent := by
    rw [decode_eq_some_iff]
    unfold encode at hsent ⊢
    split at hsent
    · exact absurd rfl hsent
    · rename_i header body hfields
      exact ⟨header, body, hfields, rfl⟩
  encode_decode bytes message hdecode := by
    obtain ⟨header, body, hfields, rfl⟩ := (layout.decode_eq_some_iff fields).mp hdecode
    unfold encode
    rw [hfields]

end Messages

end Layout

end EcSystemCore
