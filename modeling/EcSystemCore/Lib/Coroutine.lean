import Mathlib.Data.Nat.Notation

/-!
# Asynchronous generators

The body of an asynchronous generator is a tree: it yields a value, and then goes on or, when
its consumer returns it, unwinds; it calls an operation and goes on with the answer; it
completes or fails.  The generator itself is the tree at the point it has come to (`State`).

`Coroutine.Generator` is the object that a consumer holds: it serves the requests for the next
value and for a return one by one.

`Coroutine.Performs` says that a body calls some operation on every path.  A generator of such a
body has called it when it answers with anything but a value, and when it answers a return
(`Generator.Keeps`), whatever the answers to its calls were.
-/

universe u v w x

/-- A body that yields values of `ω`, fails with `ε` and calls operations of `ι`, each with its
own type of answers. -/
inductive Coroutine (ω : Type u) (ε : Type v) {ι : Type w} (ρ : ι → Type x) where
  /-- The value is handed out; the consumer asks for the next one or returns the generator. -/
  | yield (value : ω) (resume onReturn : Coroutine ω ε ρ)
  | call (operation : ι) (resume : ρ operation → Coroutine ω ε ρ)
  | complete
  | fail (error : ε)

namespace Coroutine

variable {ω : Type u} {ε : Type v} {ι : Type w} {ρ : ι → Type x}

/-- The values of a generator that is asked for all of them, when operations are answered so. -/
def run (answer : ∀ operation, ρ operation) : Coroutine ω ε ρ → Except ε (List ω)
  | yield value resume _ => (resume.run answer).map (value :: ·)
  | call operation resume => (resume (answer operation)).run answer
  | complete => .ok []
  | fail error => .error error

/-! ### Generators -/

/-- Where a generator is. -/
inductive State (ω : Type u) (ε : Type v) {ι : Type w} (ρ : ι → Type x) where
  | suspended (resume onReturn : Coroutine ω ε ρ)
  | awaiting (operation : ι) (resume : ρ operation → Coroutine ω ε ρ)
  | completed

/-- What a consumer asks of a generator: its next value, or to return. -/
inductive Request where
  | next
  | unwind
  deriving DecidableEq

/-- What a request is answered with. -/
inductive Reply (ω : Type u) (ε : Type v) where
  | value (value : ω)
  | done
  | thrown (error : ε)

/-- The generator when it has come to this point of its body. -/
def arrive : Coroutine ω ε ρ → State ω ε ρ
  | yield _ resume onReturn => .suspended resume onReturn
  | call operation resume => .awaiting operation resume
  | complete => .completed
  | fail _ => .completed

/-- The answer that the consumer gets there. -/
def reply? : Coroutine ω ε ρ → Option (Reply ω ε)
  | yield value _ _ => some (.value value)
  | call _ _ => none
  | complete => some .done
  | fail error => some (.thrown error)

/-- The operation that is called there. -/
def calls : Coroutine ω ε ρ → List ι
  | yield _ _ _ => []
  | call operation _ => [operation]
  | complete => []
  | fail _ => []

/-- A generator, with the request it serves, those that wait behind it and the operations that
it has called. -/
structure Generator (ω : Type u) (ε : Type v) {ι : Type w} (ρ : ι → Type x) where
  state : State ω ε ρ
  serving : Option Request
  waiting : List Request
  log : List ι

namespace Generator

/-- A generator after a step, with the answer that the step gave to a request. -/
abbrev Answered (ω : Type u) (ε : Type v) {ι : Type w} (ρ : ι → Type x) :=
  Option (Request × Reply ω ε) × Generator ω ε ρ

/-- A new generator.  Before its first value nothing of the body runs when it is returned. -/
def create (body : Coroutine ω ε ρ) : Generator ω ε ρ := ⟨.suspended body .complete, none, [], []⟩

/-- The generator comes to this point of its body. -/
def reach (generator : Generator ω ε ρ) (body : Coroutine ω ε ρ) : Answered ω ε ρ :=
  (body.reply?.bind fun reply => generator.serving.map fun request => (request, reply),
    { generator with
      state := body.arrive
      log := generator.log ++ body.calls
      serving := if body.reply?.isSome then none else generator.serving })

/-- It begins to serve a request. -/
def start (generator : Generator ω ε ρ) (request : Request) : Answered ω ε ρ :=
  match generator.state, request with
  | .suspended resume _, .next => { generator with serving := some .next }.reach resume
  | .suspended _ onReturn, .unwind => { generator with serving := some .unwind }.reach onReturn
  | .completed, request => { generator with serving := some request }.reach .complete
  | .awaiting _ _, _ => (none, generator)

/-- A request is made. -/
def ask (generator : Generator ω ε ρ) (request : Request) : Answered ω ε ρ :=
  if generator.serving = none ∧ generator.waiting = [] then generator.start request
  else (none, { generator with waiting := generator.waiting ++ [request] })

/-- The oldest of the waiting requests is served. -/
def serve (generator : Generator ω ε ρ) : Option (Answered ω ε ρ) :=
  match generator.serving, generator.waiting with
  | none, request :: waiting => some ({ generator with waiting := waiting }.start request)
  | _, _ => none

/-- The operation that the generator awaits is answered. -/
def answer (generator : Generator ω ε ρ) (response : ∀ operation, ρ operation) :
    Option (Answered ω ε ρ) :=
  match generator.state with
  | .awaiting operation resume => some (generator.reach (resume (response operation)))
  | _ => none

end Generator

/-! ### Operations that are always called -/

/-- Nothing is yielded. -/
def Silent : Coroutine ω ε ρ → Prop
  | yield _ _ _ => False
  | call _ resume => ∀ response, (resume response).Silent
  | complete => True
  | fail _ => True

/-- An operation with the property is called on every path, and a return runs to its end. -/
def Performs (P : ι → Prop) : Coroutine ω ε ρ → Prop
  | yield _ resume onReturn => resume.Performs P ∧ onReturn.Performs P ∧ onReturn.Silent
  | call operation resume => P operation ∨ ∀ response, (resume response).Performs P
  | complete => False
  | fail _ => False

namespace Generator

variable {P : ι → Prop} {generator : Generator ω ε ρ}

/-- An operation with the property has been called. -/
def Performed (P : ι → Prop) (generator : Generator ω ε ρ) : Prop :=
  ∃ operation ∈ generator.log, P operation

/-- An operation with the property has been called, or it will have been when the generator has
completed. -/
def Owes (P : ι → Prop) (generator : Generator ω ε ρ) : Prop :=
  generator.Performed P ∨
    match generator.state with
    | .suspended resume onReturn => resume.Performs P ∧ onReturn.Performs P ∧ onReturn.Silent
    | .awaiting _ resume => (∀ response, (resume response).Performs P) ∧
        (generator.serving = some .unwind → ∀ response, (resume response).Silent)
    | .completed => False

/-- A step keeps what has been called; after it the operation is still owed, and it has been
called unless the only answer given was a value that had been asked for. -/
structure Keeps (P : ι → Prop) (log : List ι) (answered : Answered ω ε ρ) : Prop where
  performed : (∃ operation ∈ log, P operation) → answered.2.Performed P
  owes : answered.2.Owes P
  reply : ∀ request reply, answered.1 = some (request, reply) →
    answered.2.Performed P ∨ request = .next ∧ ∃ value, reply = .value value

theorem Owes.keeps {log : List ι} (h : generator.Owes P) (hlog : generator.log = log) :
    Keeps P log (none, generator) :=
  ⟨fun hperformed => by rwa [← hlog] at hperformed, h, fun _ _ hreply => by cases hreply⟩

theorem Performed.keeps {log : List ι} {answered : Answered ω ε ρ} (h : answered.2.Performed P) :
    Keeps P log answered := ⟨fun _ => h, .inl h, fun _ _ _ => .inl h⟩

/-- A body that calls the operation is entered; it does not yield if a return is served. -/
theorem keeps_reach (generator : Generator ω ε ρ) {body : Coroutine ω ε ρ}
    (h : generator.Performed P ∨
      body.Performs P ∧ (generator.serving = some .unwind → body.Silent)) :
    Keeps P generator.log (generator.reach body) := by
  have hkept : generator.Performed P → (generator.reach body).2.Performed P := by
    rintro ⟨operation, hlog, hP⟩
    exact ⟨operation, List.mem_append_left _ hlog, hP⟩
  rcases h with h | ⟨hbody, hsilent⟩
  · exact (hkept h).keeps
  · cases body with
    | yield value resume onReturn =>
      refine ⟨hkept, .inr hbody, fun request reply hreply => .inr ?_⟩
      cases hserving : generator.serving with
      | none => simp [reach, reply?, hserving] at hreply
      | some served =>
        cases served with
        | next =>
          simp only [reach, reply?, hserving, Option.map_some, Option.bind_some,
            Option.some.injEq, Prod.mk.injEq] at hreply
          exact ⟨hreply.1.symm, value, hreply.2.symm⟩
        | unwind => exact (hsilent hserving).elim
    | call operation resume =>
      rcases hbody with hP | hbody
      · exact Performed.keeps ⟨operation, List.mem_append_right _ List.mem_cons_self, hP⟩
      · exact ⟨hkept, .inr ⟨hbody, hsilent⟩, fun request reply hreply => by cases hreply⟩
    | complete => exact hbody.elim
    | fail error => exact hbody.elim

theorem keeps_start (h : generator.Owes P) (request : Request) :
    Keeps P generator.log (generator.start request) := by
  unfold start
  split
  · rename_i hstate
    rw [Owes, hstate] at h
    exact keeps_reach { generator with serving := some .next }
      (h.imp_right fun h => ⟨h.1, fun hserving => by cases hserving⟩)
  · rename_i hstate
    rw [Owes, hstate] at h
    exact keeps_reach { generator with serving := some .unwind }
      (h.imp_right fun h => ⟨h.2.1, fun _ => h.2.2⟩)
  · rename_i hstate
    rw [Owes, hstate] at h
    exact keeps_reach { generator with serving := some _ } (h.imp_right False.elim)
  · exact h.keeps rfl

theorem keeps_ask (h : generator.Owes P) (request : Request) :
    Keeps P generator.log (generator.ask request) := by
  unfold ask
  split
  · exact keeps_start h request
  · exact Owes.keeps h rfl

theorem keeps_serve (h : generator.Owes P) {answered : Answered ω ε ρ}
    (hserve : generator.serve = some answered) : Keeps P generator.log answered := by
  unfold serve at hserve
  split at hserve
  · rename_i request waiting _ _
    cases hserve
    exact @keeps_start _ _ _ _ P { generator with waiting := waiting } h request
  · cases hserve

theorem keeps_answer (h : generator.Owes P) {response : ∀ operation, ρ operation}
    {answered : Answered ω ε ρ} (hanswer : generator.answer response = some answered) :
    Keeps P generator.log answered := by
  unfold answer at hanswer
  split at hanswer
  · rename_i hstate
    cases hanswer
    rw [Owes, hstate] at h
    exact keeps_reach generator (h.imp_right fun h => ⟨h.1 _, fun hserving => h.2 hserving _⟩)
  · cases hanswer

/-- The first value of a new generator is asked for. -/
theorem keeps_ask_create {body : Coroutine ω ε ρ} (h : body.Performs P) :
    Keeps P [] ((create body).ask .next) :=
  keeps_reach { create body with serving := some .next }
    (.inr ⟨h, fun hserving => by cases hserving⟩)

end Generator

end Coroutine
