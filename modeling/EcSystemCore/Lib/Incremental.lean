import Mathlib.Data.List.Infix

/-!
# Incremental parsers

A parser of one item at a time looks at the front of a buffer and either asks
for more input, takes an item off, or fails.  When more input never changes an
answer already given (`item_append`, `error_append`), draining a stream does not
depend on how the stream was cut into pieces: `drain_append` drains the second
piece with what the first left over, and `drain_extends` says that the items of a
stream begin with those of each of its prefixes.
-/

namespace Incremental

universe u v w

/-- What a parser says about the front of a buffer. -/
inductive Parsed (β : Type u) (α : Type v) (ε : Type w) where
  | more
  | item (x : α) (rest : List β)
  | error (e : ε)
  deriving DecidableEq

/-- A parser whose answers are final. -/
structure Parser (β : Type u) (α : Type v) (ε : Type w) where
  parse : List β → Parsed β α ε
  shorter : ∀ {b x rest}, parse b = .item x rest → rest.length < b.length
  item_append : ∀ {b x rest} (c), parse b = .item x rest →
    parse (b ++ c) = .item x (rest ++ c)
  error_append : ∀ {b e} (c), parse b = .error e → parse (b ++ c) = .error e

variable {β : Type u} {α : Type v} {ε : Type w} (p : Parser β α ε)

namespace Parser

/-- Take at most `fuel` items off the buffer; the second component is the input
left over, or the error that stopped the parser. -/
def drainWithin : ℕ → List β → List α × Except ε (List β)
  | 0, b => ([], .ok b)
  | fuel + 1, b =>
    match p.parse b with
    | .more => ([], .ok b)
    | .error e => ([], .error e)
    | .item x rest => (x :: (drainWithin fuel rest).1, (drainWithin fuel rest).2)

/-- Take every item off the buffer. -/
def drain (b : List β) : List α × Except ε (List β) := p.drainWithin (b.length + 1) b

/-- Fuel beyond the length of the buffer changes nothing. -/
theorem drainWithin_eq_drain {fuel : ℕ} {b : List β} (h : b.length < fuel) :
    p.drainWithin fuel b = p.drain b := by
  have key : ∀ {m n : ℕ} {b : List β}, b.length < m → b.length < n →
      p.drainWithin m b = p.drainWithin n b := by
    intro m
    induction m with
    | zero => intro n b hm; omega
    | succ m ih =>
      intro n b hm hn
      obtain ⟨n, rfl⟩ : ∃ k, n = k + 1 := ⟨n - 1, by omega⟩
      cases hparse : p.parse b with
      | more => simp only [drainWithin, hparse]
      | error e => simp only [drainWithin, hparse]
      | item x rest =>
        have hshort := p.shorter hparse
        have hrest : p.drainWithin m rest = p.drainWithin n rest :=
          ih (by omega) (by omega)
        simp only [drainWithin, hparse, hrest]
  exact key h (Nat.lt_succ_self _)

theorem drain_of_more {b : List β} (h : p.parse b = .more) : p.drain b = ([], .ok b) := by
  simp only [drain, drainWithin, h]

theorem drain_of_error {b : List β} {e : ε} (h : p.parse b = .error e) :
    p.drain b = ([], .error e) := by
  simp only [drain, drainWithin, h]

theorem drain_of_item {b rest : List β} {x : α} (h : p.parse b = .item x rest) :
    p.drain b = (x :: (p.drain rest).1, (p.drain rest).2) := by
  have hshort := p.shorter h
  have hrest : p.drainWithin b.length rest = p.drain rest := p.drainWithin_eq_drain hshort
  simp only [drain, drainWithin, h] at hrest ⊢
  rw [hrest]

/-- Induction along the items of a buffer. -/
theorem drain_induction {P : List β → Prop}
    (more : ∀ b, p.parse b = .more → P b)
    (error : ∀ b e, p.parse b = .error e → P b)
    (item : ∀ b x rest, p.parse b = .item x rest → P rest → P b) (b : List β) : P b := by
  induction hlen : b.length using Nat.strong_induction_on generalizing b with
  | _ n ih =>
    cases hparse : p.parse b with
    | more => exact more b hparse
    | error e => exact error b e hparse
    | item x rest =>
      exact item b x rest hparse (ih _ (hlen ▸ p.shorter hparse) rest rfl)

/-- **The cut does not matter.**  Draining a stream drains its first piece, and
then its second piece behind what the first left over. -/
theorem drain_append {b rest : List β} {xs : List α} (c : List β)
    (h : p.drain b = (xs, .ok rest)) :
    p.drain (b ++ c) = (xs ++ (p.drain (rest ++ c)).1, (p.drain (rest ++ c)).2) := by
  induction b using p.drain_induction generalizing xs with
  | more b hparse =>
    rw [p.drain_of_more hparse] at h
    cases h
    rfl
  | error b e hparse => simp [p.drain_of_error hparse] at h
  | item b x tail hparse ih =>
    rw [p.drain_of_item hparse, Prod.mk.injEq] at h
    have htail : p.drain tail = ((p.drain tail).1, .ok rest) := Prod.ext rfl h.2
    rw [p.drain_of_item (p.item_append c hparse), ← h.1, ih htail]
    rfl

/-- An error is final. -/
theorem drain_append_of_error {b : List β} {xs : List α} {e : ε} (c : List β)
    (h : p.drain b = (xs, .error e)) : p.drain (b ++ c) = (xs, .error e) := by
  induction b using p.drain_induction generalizing xs with
  | more b hparse => simp [p.drain_of_more hparse] at h
  | error b e' hparse =>
    rw [p.drain_of_error (p.error_append c hparse), ← h, p.drain_of_error hparse]
  | item b x tail hparse ih =>
    rw [p.drain_of_item hparse, Prod.mk.injEq] at h
    have htail : p.drain tail = ((p.drain tail).1, .error e) := Prod.ext rfl h.2
    rw [p.drain_of_item (p.item_append c hparse), ← h.1, ih htail]

/-- The items of a stream begin with the items of each of its prefixes. -/
theorem drain_extends (b c : List β) : (p.drain b).1 <+: (p.drain (b ++ c)).1 := by
  cases h : (p.drain b).2 with
  | error e => rw [p.drain_append_of_error c (Prod.ext rfl h)]
  | ok rest =>
    rw [p.drain_append c (Prod.ext rfl h)]
    exact List.prefix_append _ _

end Parser

end Incremental
