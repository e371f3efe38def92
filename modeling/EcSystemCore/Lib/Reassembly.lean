import Mathlib.Data.List.Basic
import Mathlib.Logic.Function.Basic

/-!
# Reassembling an image from pieces

A receiver collects the pieces of an image in a buffer that remembers which places have
arrived.  A `Chunk` is a piece, `Gathers chunks held` says that what is held is what the
pieces say, and `MadeOf chunks image` that the pieces cover the image and say nothing else.

A `Buffer` is any representation that shows what it holds at each place and takes a value for
a place unless it holds another one there.  The loop that copies a piece into a buffer fails
just when the piece disagrees with what is held (`Buffer.exists_of_copy_eq_none`), and otherwise
the buffer has gathered one piece more (`Buffer.gathers_copy`).

In a run of events a receiver collects several images at a time, and may give one up and begin
anew.  `Lifetime` is the part of a run from the event that opens a buffer for an image, and
`Collects` says that a buffer has gathered the pieces of its lifetime.
-/

namespace Reassembly

universe u v

variable {β : Type u} {σ : Type v}

/-- A piece of an image: its values stand from `offset` on. -/
structure Chunk (β : Type u) where
  offset : ℕ
  data : List β
  deriving DecidableEq

namespace Chunk

/-- The value a piece has for a place. -/
def value (c : Chunk β) (i : ℕ) : Option β :=
  if c.offset ≤ i then c.data[i - c.offset]? else none

theorem value_nil (i j : ℕ) : (⟨i, []⟩ : Chunk β).value j = none := by
  simp [value]

theorem value_cons (i j : ℕ) (b : β) (bs : List β) :
    (⟨i, b :: bs⟩ : Chunk β).value j =
      if j = i then some b else (⟨i + 1, bs⟩ : Chunk β).value j := by
  unfold value
  rcases Nat.lt_trichotomy j i with hlt | rfl | hgt
  · rw [if_neg (by simpa using hlt), if_neg (Nat.ne_of_lt hlt), if_neg (by simpa using by omega)]
  · simp
  · obtain ⟨k, rfl⟩ : ∃ k, j = i + 1 + k := ⟨j - (i + 1), by omega⟩
    rw [if_pos (by simpa using by omega), if_neg (Nat.ne_of_gt hgt), if_pos (by simp)]
    have hindex : i + 1 + k - i = k + 1 := by omega
    simp [hindex]

/-- A piece says nothing about the places before its offset. -/
theorem value_of_lt {c : Chunk β} {i : ℕ} (h : i < c.offset) : c.value i = none :=
  if_neg (Nat.not_le.mpr h)

end Chunk

/-! ### What pieces say -/

/-- What is held is what the pieces say. -/
def Gathers (chunks : List (Chunk β)) (held : ℕ → Option β) : Prop :=
  ∀ i b, held i = some b ↔ ∃ c ∈ chunks, c.value i = some b

theorem gathers_nil {held : ℕ → Option β} (h : ∀ i, held i = none) : Gathers [] held := by
  intro i b
  simp [h i]

/-- The pieces make up the image: each place is in one of them, and none has another value
for it. -/
structure MadeOf (chunks : List (Chunk β)) (image : List β) : Prop where
  covered : ∀ i < image.length, ∃ c ∈ chunks, ∃ b, c.value i = some b
  agree : ∀ c ∈ chunks, ∀ i b, c.value i = some b → image[i]? = some b

namespace MadeOf

variable {chunks others : List (Chunk β)} {image other : List β}

/-- An image all of which is held is made of the pieces. -/
theorem of_gathers {held : ℕ → Option β} (h : Gathers chunks held)
    (hheld : ∀ i, held i = image[i]?) : MadeOf chunks image where
  covered i hi := by
    obtain ⟨c, hc, hvalue⟩ := (h i image[i]).mp ((hheld i).trans (List.getElem?_eq_getElem hi))
    exact ⟨c, hc, image[i], hvalue⟩
  agree c hc i b hvalue := (hheld i).symm.trans ((h i b).mpr ⟨c, hc, hvalue⟩)

end MadeOf

/-- The piece is a part of the image. -/
structure Chunk.SliceOf (c : Chunk β) (image : List β) : Prop where
  fits : c.offset + c.data.length ≤ image.length
  agree : ∀ i b, c.value i = some b → image[i]? = some b

/-- What is held is right. -/
def AgreesWith (held : ℕ → Option β) (image : List β) : Prop :=
  ∀ i b, held i = some b → image[i]? = some b

/-- All of an image is held, and right. -/
theorem AgreesWith.eq {held : ℕ → Option β} {image data : List β} (h : AgreesWith held image)
    (hlength : data.length = image.length) (hheld : ∀ i, held i = data[i]?) : data = image := by
  refine List.ext_getElem? fun i => ?_
  by_cases hi : i < data.length
  · have hvalue := List.getElem?_eq_getElem hi
    rw [hvalue, h i _ ((hheld i).trans hvalue)]
  · rw [List.getElem?_eq_none (Nat.not_lt.mp hi),
      List.getElem?_eq_none (hlength ▸ Nat.not_lt.mp hi)]

/-! ### Buffers -/

/-- What a data field and the set of places that have arrived hold at a place. -/
def held (data : List β) (present : ℕ → Prop) [DecidablePred present] (i : ℕ) : Option β :=
  if present i then data[i]? else none

theorem held_eq_getElem? {data : List β} {present : ℕ → Prop} [DecidablePred present]
    (h : ∀ i < data.length, present i) (i : ℕ) : held data present i = data[i]? := by
  unfold held
  split_ifs with hpresent
  · rfl
  · exact (List.getElem?_eq_none (Nat.not_lt.mp fun hi => hpresent (h i hi))).symm

/-- Another place has arrived. -/
theorem held_set {data : List β} {present present' : ℕ → Prop} [DecidablePred present]
    [DecidablePred present'] {i : ℕ} (hi : i < data.length) (b : β)
    (h : ∀ j, present' j ↔ j = i ∨ present j) :
    held (data.set i b) present' = Function.update (held data present) i (some b) := by
  funext j
  unfold held
  by_cases hj : j = i
  · subst hj
    rw [Function.update_self, if_pos ((h j).mpr (Or.inl rfl)), List.getElem?_set_self hi]
  · rw [Function.update_of_ne hj, List.getElem?_set_ne (Ne.symm hj)]
    have hsame : present' j ↔ present j := (h j).trans (or_iff_right hj)
    by_cases hp : present j
    · rw [if_pos hp, if_pos (hsame.mpr hp)]
    · rw [if_neg hp, if_neg (fun hp' => hp (hsame.mp hp'))]

/-- A representation of what has arrived of an image.  It takes a value for a place unless
it holds another one there. -/
structure Buffer (σ : Type v) (β : Type u) where
  Valid : σ → Prop
  size : σ → ℕ
  held : σ → ℕ → Option β
  put : σ → ℕ → β → Option σ
  put_eq_none : ∀ {s i b}, Valid s → i < size s → put s i b = none →
    ∃ b', held s i = some b' ∧ b' ≠ b
  put_eq_some : ∀ {s t i b}, Valid s → i < size s → put s i b = some t →
    Valid t ∧ size t = size s ∧ held t = Function.update (held s) i (some b) ∧
      ∀ b', held s i = some b' → b' = b

namespace Buffer

variable (B : Buffer σ β)

/-- The loop that copies the values of a piece to the places from `i` on. -/
def copy (s : σ) (i : ℕ) : List β → Option σ
  | [] => some s
  | b :: bs => (B.put s i b).bind fun t => copy t (i + 1) bs

variable {B} {s t : σ} {i : ℕ} {bs : List β}

/-- The buffer after the loop: the piece laid over what was held, with which it agrees. -/
theorem copy_eq_some (hvalid : B.Valid s) (hfits : i + bs.length ≤ B.size s)
    (h : B.copy s i bs = some t) :
    B.Valid t ∧ B.size t = B.size s ∧
      (∀ j, B.held t j = ((⟨i, bs⟩ : Chunk β).value j).or (B.held s j)) ∧
      ∀ j b b', B.held s j = some b → (⟨i, bs⟩ : Chunk β).value j = some b' → b = b' := by
  induction bs generalizing s i with
  | nil =>
    cases h
    exact ⟨hvalid, rfl, fun j => by rw [Chunk.value_nil, Option.none_or],
      fun j b b' _ hvalue => by rw [Chunk.value_nil] at hvalue; cases hvalue⟩
  | cons b bs ih =>
    rw [List.length_cons] at hfits
    obtain ⟨m, hput, hcopy⟩ := Option.bind_eq_some_iff.mp h
    obtain ⟨hm, hsize, hheld, hagree⟩ := B.put_eq_some hvalid (by omega) hput
    obtain ⟨ht, hsize', hheld', hagree'⟩ := ih hm (by omega) hcopy
    refine ⟨ht, hsize'.trans hsize, fun j => ?_, fun j x y hx hy => ?_⟩
    · rw [hheld' j, hheld, Chunk.value_cons]
      by_cases hj : j = i
      · subst hj
        rw [Chunk.value_of_lt (Nat.lt_succ_self _), Function.update_self, if_pos rfl]
        rfl
      · rw [Function.update_of_ne hj, if_neg hj]
    · rw [Chunk.value_cons] at hy
      split_ifs at hy with hj
      · subst hj
        cases hy
        exact hagree x hx
      · refine hagree' j x y ?_ hy
        rw [hheld, Function.update_of_ne hj, hx]

/-- The loop fails only at a place where the piece and the buffer disagree. -/
theorem exists_of_copy_eq_none (hvalid : B.Valid s) (hfits : i + bs.length ≤ B.size s)
    (h : B.copy s i bs = none) :
    ∃ j b b', B.held s j = some b ∧ (⟨i, bs⟩ : Chunk β).value j = some b' ∧ b ≠ b' := by
  induction bs generalizing s i with
  | nil => cases h
  | cons b bs ih =>
    rw [List.length_cons] at hfits
    rw [copy] at h
    cases hput : B.put s i b with
    | none =>
      obtain ⟨x, hx, hne⟩ := B.put_eq_none hvalid (by omega) hput
      exact ⟨i, x, b, hx, by rw [Chunk.value_cons, if_pos rfl], hne⟩
    | some m =>
      rw [hput, Option.bind_some] at h
      obtain ⟨hm, hsize, hheld, -⟩ := B.put_eq_some hvalid (by omega) hput
      obtain ⟨j, x, y, hx, hy, hne⟩ := ih hm (by omega) h
      have hj : j ≠ i := by
        rintro rfl
        rw [Chunk.value_of_lt (Nat.lt_succ_self _)] at hy
        cases hy
      rw [hheld, Function.update_of_ne hj] at hx
      exact ⟨j, x, y, hx, by rw [Chunk.value_cons, if_neg hj, hy], hne⟩

/-- Parts of one image can be copied into a buffer in any order. -/
theorem exists_copy_of_sliceOf {image : List β} {c : Chunk β} (hvalid : B.Valid s)
    (hsize : B.size s = image.length) (hagrees : AgreesWith (B.held s) image)
    (hslice : c.SliceOf image) :
    ∃ t, B.copy s c.offset c.data = some t ∧ B.Valid t ∧ B.size t = image.length ∧
      AgreesWith (B.held t) image ∧ ∀ i, B.held t i = (c.value i).or (B.held s i) := by
  have hfits : c.offset + c.data.length ≤ B.size s := hsize ▸ hslice.fits
  cases hcopy : B.copy s c.offset c.data with
  | none =>
    obtain ⟨i, b, b', hheld, hvalue, hne⟩ := exists_of_copy_eq_none hvalid hfits hcopy
    exact absurd (Option.some.inj ((hagrees i b hheld).symm.trans (hslice.agree i b' hvalue))) hne
  | some t =>
    obtain ⟨ht, hsize', hheld, -⟩ := copy_eq_some hvalid hfits hcopy
    refine ⟨t, rfl, ht, hsize'.trans hsize, fun i b hb => ?_, hheld⟩
    rw [hheld i, Option.or_eq_some_iff] at hb
    rcases hb with hvalue | ⟨-, hold⟩
    · exact hslice.agree i b hvalue
    · exact hagrees i b hold

/-- A buffer into which a piece was copied has gathered that piece too. -/
theorem gathers_copy {chunks : List (Chunk β)} (hvalid : B.Valid s)
    (hfits : i + bs.length ≤ B.size s) (hgathers : Gathers chunks (B.held s))
    (h : B.copy s i bs = some t) : Gathers (chunks ++ [⟨i, bs⟩]) (B.held t) := by
  obtain ⟨-, -, hheld, hagree⟩ := copy_eq_some hvalid hfits h
  intro j b
  have hsplit : (∃ c ∈ chunks ++ [⟨i, bs⟩], c.value j = some b) ↔
      B.held s j = some b ∨ (⟨i, bs⟩ : Chunk β).value j = some b := by
    rw [hgathers j b]
    simp only [List.mem_append, List.mem_singleton]
    constructor
    · rintro ⟨c, hc | rfl, hvalue⟩
      · exact Or.inl ⟨c, hc, hvalue⟩
      · exact Or.inr hvalue
    · rintro (⟨c, hc, hvalue⟩ | hvalue)
      · exact ⟨c, Or.inl hc, hvalue⟩
      · exact ⟨_, Or.inr rfl, hvalue⟩
  rw [hsplit, hheld j]
  cases hvalue : (⟨i, bs⟩ : Chunk β).value j with
  | none => simp
  | some y =>
    rw [Option.some_or]
    constructor
    · intro hy
      exact Or.inr hy
    · rintro (hx | hy)
      · rw [hagree j b y hx hvalue]
      · exact hy

end Buffer

/-! ### Runs -/

section Runs

universe w x

-- `piece` is the image and the piece an event brings, `isOpen` whether a buffer for the image
-- is open after the events.
variable {ι : Type w} {κ : Type x} (piece : ι → Option (κ × Chunk β))
  (isOpen : List ι → κ → Prop)

/-- After `before`, a buffer for the image was opened by the first of the events `since`, and
it was open until the last of them. -/
def Lifetime (key : κ) (before since : List ι) : Prop :=
  ∃ event rest, since = event :: rest ∧ (∃ c, piece event = some (key, c)) ∧
    ¬isOpen before key ∧ ∀ part, part <+: rest → part ≠ rest → isOpen (before ++ event :: part) key

variable {piece isOpen} {key : κ} {events before since : List ι} {event : ι} {c : Chunk β}

theorem Lifetime.start (hclosed : ¬isOpen before key) (hpiece : piece event = some (key, c)) :
    Lifetime piece isOpen key before [event] :=
  ⟨event, [], rfl, ⟨c, hpiece⟩, hclosed, fun _ hpart hne => absurd (List.prefix_nil.mp hpart) hne⟩

theorem Lifetime.concat (h : Lifetime piece isOpen key before since)
    (hopen : isOpen (before ++ since) key) (event : ι) :
    Lifetime piece isOpen key before (since ++ [event]) := by
  obtain ⟨first, rest, rfl, hpiece, hclosed, hthroughout⟩ := h
  refine ⟨first, rest ++ [event], rfl, hpiece, hclosed, fun part hpart hne => ?_⟩
  obtain rfl | hpart := List.prefix_concat_iff.mp hpart
  · exact absurd rfl hne
  · by_cases hrest : part = rest
    · exact hrest ▸ hopen
    · exact hthroughout part hpart hrest

variable [DecidableEq κ]

variable (piece) in
/-- The pieces of an image that arrive in the events. -/
def piecesOf (key : κ) (events : List ι) : List (Chunk β) :=
  events.filterMap fun event => (piece event).bind fun p => if p.1 = key then some p.2 else none

variable (piece isOpen) in
/-- What is held of an image is what the pieces since the opening of its buffer say. -/
def Collects (key : κ) (events : List ι) (held : ℕ → Option β) : Prop :=
  ∃ before since, events = before ++ since ∧ Lifetime piece isOpen key before since ∧
    Gathers (piecesOf piece key since) held

theorem piecesOf_concat (hpiece : piece event = some (key, c)) :
    piecesOf piece key (events ++ [event]) = piecesOf piece key events ++ [c] := by
  simp [piecesOf, hpiece]

theorem piecesOf_concat_of_ne (hother : ∀ c, piece event ≠ some (key, c)) :
    piecesOf piece key (events ++ [event]) = piecesOf piece key events := by
  have hnone : ((piece event).bind fun p => if p.1 = key then some p.2 else none) = none := by
    cases hpiece : piece event with
    | none => rfl
    | some p => exact if_neg fun hkey => hother p.2 (hpiece.trans (congrArg some (Prod.ext hkey rfl)))
  simp [piecesOf, hnone]

namespace Collects

variable {held : ℕ → Option β} {B : Buffer σ β} {s t : σ}

/-- Events that bring nothing of the image. -/
theorem concat_of_ne (h : Collects piece isOpen key events held) (hopen : isOpen events key)
    (hother : ∀ c, piece event ≠ some (key, c)) :
    Collects piece isOpen key (events ++ [event]) held := by
  obtain ⟨before, since, rfl, hlifetime, hgathers⟩ := h
  refine ⟨before, since ++ [event], List.append_assoc _ _ _, hlifetime.concat hopen event, ?_⟩
  rwa [piecesOf_concat_of_ne hother]

/-- A piece is copied into the open buffer of its image. -/
theorem copy (h : Collects piece isOpen key events (B.held s)) (hopen : isOpen events key)
    (hpiece : piece event = some (key, c)) (hvalid : B.Valid s)
    (hfits : c.offset + c.data.length ≤ B.size s) (hcopy : B.copy s c.offset c.data = some t) :
    Collects piece isOpen key (events ++ [event]) (B.held t) := by
  obtain ⟨before, since, rfl, hlifetime, hgathers⟩ := h
  refine ⟨before, since ++ [event], List.append_assoc _ _ _, hlifetime.concat hopen event, ?_⟩
  rw [piecesOf_concat hpiece]
  exact Buffer.gathers_copy hvalid hfits hgathers hcopy

/-- A piece is copied into a new buffer. -/
theorem copy_new (hclosed : ¬isOpen events key) (hpiece : piece event = some (key, c))
    (hempty : ∀ i, B.held s i = none) (hvalid : B.Valid s)
    (hfits : c.offset + c.data.length ≤ B.size s) (hcopy : B.copy s c.offset c.data = some t) :
    Collects piece isOpen key (events ++ [event]) (B.held t) := by
  refine ⟨events, [event], rfl, Lifetime.start hclosed hpiece, ?_⟩
  rw [← List.nil_append [event], piecesOf_concat hpiece]
  exact Buffer.gathers_copy hvalid hfits (gathers_nil hempty) hcopy

end Collects

end Runs

/-! ### Feeding the parts of one image -/

/-- Every place of the image is held or in one of the pieces. -/
def Covered (held : ℕ → Option β) (size : ℕ) (chunks : List (Chunk β)) : Prop :=
  ∀ i < size, (held i).isSome ∨ ∃ c ∈ chunks, (c.value i).isSome

theorem covered_cons_iff {held held' : ℕ → Option β} {size : ℕ} {c : Chunk β}
    {chunks : List (Chunk β)} (h : ∀ i, held' i = (c.value i).or (held i)) :
    Covered held size (c :: chunks) ↔ Covered held' size chunks := by
  refine forall₂_congr fun i _ => ?_
  rw [h i, Option.isSome_or, List.exists_mem_cons_iff, Bool.or_eq_true, or_left_comm,
    or_assoc]

/-- What is held of a data field all of whose places have arrived is the data. -/
theorem Covered.held_eq {data : List β} {present : ℕ → Prop} [DecidablePred present]
    (h : Covered (held data present) data.length []) (i : ℕ) :
    held data present i = data[i]? := by
  refine held_eq_getElem? (fun j hj => ?_) i
  by_contra habsent
  rcases h j hj with hsome | ⟨c, hc, -⟩
  · rw [held, if_neg habsent] at hsome
    cases hsome
  · exact List.not_mem_nil hc

theorem covered_map_iff {γ : Type*} {piece : γ → Chunk β} {size : ℕ} {cs : List γ} :
    Covered (fun _ => none) size (cs.map piece) ↔
      ∀ i < size, ∃ c ∈ cs, ((piece c).value i).isSome := by
  simp [Covered]

/-- A receiver that is collecting an image (`Open`, with what it holds) takes one part after the
other, and is done with the image (`Done`) as soon as all of it is held.  From then on it takes
no notice of further parts. -/
theorem foldlM_feed {μ ε : Type*} {γ : Type*} {step : μ → γ → Except ε μ} {piece : γ → Chunk β}
    {Part : γ → Prop} {Open : (ℕ → Option β) → μ → Prop} {Done : μ → Prop} {size : ℕ}
    (hstep : ∀ held m c, Open held m → Part c → ∃ held' m', step m c = .ok m' ∧
      (∀ i, held' i = ((piece c).value i).or (held i)) ∧
      (Covered held' size [] ∧ Done m' ∨ ¬Covered held' size [] ∧ Open held' m'))
    (hdone : ∀ m c, Done m → Part c → step m c = .ok m)
    {held : ℕ → Option β} {m : μ} (hopen : Open held m) (c : γ) (cs : List γ)
    (hparts : ∀ d ∈ c :: cs, Part d) :
    ∃ m', (c :: cs).foldlM step m = .ok m' ∧
      (Covered held size ((c :: cs).map piece) ∧ Done m' ∨
        ¬Covered held size ((c :: cs).map piece) ∧ ∃ held', Open held' m') := by
  have hall : ∀ {m}, Done m → ∀ cs : List γ, (∀ d ∈ cs, Part d) → cs.foldlM step m = .ok m := by
    intro m hm cs hparts
    induction cs with
    | nil => rfl
    | cons d cs ih =>
      rw [List.foldlM_cons, hdone m d hm (hparts d List.mem_cons_self)]
      exact ih fun e he => hparts e (List.mem_cons_of_mem _ he)
  induction cs generalizing c held m with
  | nil =>
    obtain ⟨held', m', hok, hheld, hcases⟩ := hstep held m c hopen (hparts c List.mem_cons_self)
    refine ⟨m', by rw [List.foldlM_cons, hok]; rfl, ?_⟩
    rw [List.map_singleton, covered_cons_iff hheld]
    exact hcases.imp_right fun h => ⟨h.1, held', h.2⟩
  | cons d cs ih =>
    obtain ⟨held', m', hok, hheld, hcases⟩ := hstep held m c hopen (hparts c List.mem_cons_self)
    have hrest : ∀ e ∈ d :: cs, Part e := fun e he => hparts e (List.mem_cons_of_mem _ he)
    rw [List.foldlM_cons, hok, List.map_cons, covered_cons_iff hheld]
    rcases hcases with ⟨hcovered, hm⟩ | ⟨-, hopen'⟩
    · refine ⟨m', hall hm _ hrest, Or.inl ⟨fun i hi => ?_, hm⟩⟩
      exact (hcovered i hi).imp_right fun ⟨_, hmem, _⟩ => absurd hmem List.not_mem_nil
    · exact ih hopen' d hrest

end Reassembly
