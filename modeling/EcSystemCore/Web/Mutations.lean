import Mathlib.Data.List.Induction
import Mathlib.Data.List.Permutation
import EcSystemCore.Lib.Execution
import EcSystemCore.Web.Document

/-!
# Adapter requests of the configuration server

`#lockAdapter` and `#unlockAdapter` of `server.ts` are asynchronous: a request waits for
the list of adapters, then computes the next configuration from `#configState` in one
piece, and hands it to `#serializeConfigMutation`, which runs the writes one after
another.  A write checks its configuration again, replaces the file and then stores the
configuration in `#configState`.  The steps of several requests interleave in any order.

Only the writes are serialized.  A request that computes its configuration while another
write is still on its way starts from the old configuration, and its own write then
undoes the other's (`overlapping_unlocks`).  If every request computes its configuration
with no write on its way, the outcome is that of the requests one after another
(`mutations_serialize`).
-/

namespace EcSystemCore.Web

open Checks Execution

/-! ### What a request computes -/

/-- What `#lockAdapter` reads of an adapter of `#listAdapters`. -/
structure AdapterInfo where
  name : JsString
  detected : Bool
  identity : Option AdapterLockIdentity
  deriving DecidableEq

/-- The body of a lock or unlock request. -/
inductive AdapterRequest where
  | lock (logicalName physicalInterface confirmation : JsString)
  | unlock (logicalName confirmation : JsString)
  deriving DecidableEq

/-- The logical name a request is about. -/
def AdapterRequest.logicalName : AdapterRequest → JsString
  | lock logicalName _ _ => logicalName
  | unlock logicalName _ => logicalName

/-- The mappings with the first one of the given name changed, if there is one. -/
def changeMapping (logicalName : JsString) (change : InterfaceMapping → InterfaceMapping) :
    List InterfaceMapping → Option (List InterfaceMapping)
  | [] => none
  | mapping :: mappings =>
    if mapping.logicalName = logicalName then some (change mapping :: mappings)
    else (changeMapping logicalName change mappings).map (mapping :: ·)

/-- The mappings `#lockAdapter` builds. -/
def lockedMappings (mappings : List InterfaceMapping) (logicalName physicalInterface : JsString)
    (identity : AdapterLockIdentity) : List InterfaceMapping :=
  (changeMapping logicalName (fun mapping => { mapping with
      physicalInterface := physicalInterface, lock := some identity, enabled := true })
    mappings).getD (mappings ++
      [{ logicalName := logicalName, physicalInterface := physicalInterface, enabled := true,
          lock := some identity }])

/-- `#lockAdapter`, from the list of adapters to the configuration it hands on. -/
def lockAdapter (config : ConfigurationConfig) (adapters : List AdapterInfo)
    (logicalName physicalInterface confirmation : JsString) :
    Except JsString ConfigurationConfig :=
  match (adapters.find? fun item => item.detected && item.name = physicalInterface).bind
      (·.identity) with
  | none => .error (js "Adapter does not expose a stable lock identity")
  | some identity => do
      check (confirmation = js "LOCK:" ++ logicalName ++ js ":" ++ identity.idPath ++ js ":" ++
          identity.permanentMac.getD [])
        (js "Adapter lock confirmation does not match the observed identity")
      { config with
        interfaceMappings := lockedMappings config.interfaceMappings logicalName
          physicalInterface identity }.revalidate

/-- `#unlockAdapter`, to the configuration it hands on. -/
def unlockAdapter (config : ConfigurationConfig) (logicalName confirmation : JsString) :
    Except JsString ConfigurationConfig := do
  check (confirmation = js "UNLOCK:" ++ logicalName)
    (js "Adapter unlock confirmation is invalid")
  let mapping := config.interfaceMappings.find? fun item => item.logicalName = logicalName
  check ((mapping.bind (·.lock)).isSome) (js "Adapter mapping is not locked")
  { config with
    interfaceMappings := (changeMapping logicalName ({ · with lock := none })
      config.interfaceMappings).getD config.interfaceMappings }.revalidate

/-- The configuration a request hands to `#serializeConfigMutation`. -/
def AdapterRequest.next (config : ConfigurationConfig) (adapters : List AdapterInfo) :
    AdapterRequest → Except JsString ConfigurationConfig
  | lock logicalName physicalInterface confirmation =>
    lockAdapter config adapters logicalName physicalInterface confirmation
  | unlock logicalName confirmation => unlockAdapter config logicalName confirmation

/-- The configuration after a request that has the server to itself: what it computes,
checked again by its write. -/
def serve (config : ConfigurationConfig) (request : AdapterRequest × List AdapterInfo) :
    Except JsString ConfigurationConfig := do
  (← request.1.next config request.2).revalidate

/-! ### The server -/

/-- Where a request is. -/
inductive Phase where
  /-- Not yet there, or waiting for the list of adapters. -/
  | listing
  /-- Waiting for its write, having seen these adapters. -/
  | mutating (adapters : List AdapterInfo)
  /-- Answered `ok`. -/
  | answered (adapters : List AdapterInfo)
  /-- Answered with an error. -/
  | failed
  deriving DecidableEq

/-- The write of a request has succeeded. -/
def Phase.succeed : Phase → Phase
  | mutating adapters => answered adapters
  | phase => phase

/-- A write of `#configMutation`: the request, and the configuration to write. -/
structure Mutation where
  request : ℕ
  next : ConfigurationConfig
  deriving DecidableEq

/-- How far the first write has come. -/
inductive Stage where
  | waiting
  /-- The configuration has been checked, and the file is being prepared. -/
  | writing (validated : ConfigurationConfig)
  /-- The file has been replaced. -/
  | renamed (validated : ConfigurationConfig)
  deriving DecidableEq

/-- The configuration server, as far as adapter requests are concerned. -/
structure Server where
  /-- The configuration of `#configState`. -/
  config : ConfigurationConfig
  /-- The text of the configuration file. -/
  file : List Char
  /-- The writes that have not ended, in the order of the promise chain. -/
  queue : List Mutation := []
  stage : Stage := .waiting
  phases : List Phase
  deriving DecidableEq

/-- What can happen next. -/
inductive Event where
  /-- A request has its list of adapters and computes its configuration. -/
  | compute (request : ℕ) (adapters : List AdapterInfo)
  /-- The first write begins. -/
  | begin
  /-- Its file replaces the old one. -/
  | replace
  /-- It stores its configuration and ends. -/
  | commit
  /-- It ends with an error of the file system. -/
  | abort

namespace Server

/-- A server that has not seen any of `count` requests. -/
def initial (config : ConfigurationConfig) (file : List Char) (count : ℕ) : Server where
  config := config
  file := file
  phases := List.replicate count .listing

/-- The first write fails, and with it its request. -/
def rejectFirst (s : Server) (mutation : Mutation) (queue : List Mutation) : Server :=
  { s with
    queue := queue
    stage := .waiting
    phases := s.phases.set mutation.request .failed }

/-- One step of the server. -/
def step (requests : List AdapterRequest) (s : Server) : Event → Option Server
  | .compute i adapters =>
    match requests[i]?, s.phases[i]? with
    | some request, some .listing =>
      match request.next s.config adapters with
      | .ok next => some { s with
          queue := s.queue ++ [⟨i, next⟩]
          phases := s.phases.set i (.mutating adapters) }
      | .error _ => some { s with phases := s.phases.set i .failed }
    | _, _ => none
  | .begin =>
    match s.queue, s.stage with
    | mutation :: queue, .waiting =>
      match mutation.next.revalidate with
      | .ok validated => some { s with stage := .writing validated }
      | .error _ => some (s.rejectFirst mutation queue)
    | _, _ => none
  | .replace =>
    match s.stage with
    | .writing validated => some { s with file := validated.text, stage := .renamed validated }
    | _ => none
  | .commit =>
    match s.queue, s.stage with
    | mutation :: queue, .renamed validated => some { s with
        config := validated
        queue := queue
        stage := .waiting
        phases := s.phases.modify mutation.request Phase.succeed }
    | _, _ => none
  | .abort =>
    match s.queue with
    | mutation :: queue => some (s.rejectFirst mutation queue)
    | [] => none

end Server

/-! ### Requests that do not overlap -/

namespace Server

/-- No write is on its way when a request computes its configuration. -/
def ComputesAlone (s : Server) : Event → Prop
  | .compute _ _ => s.queue = []
  | _ => True

instance (s : Server) : (event : Event) → Decidable (s.ComputesAlone event)
  | .compute _ _ => inferInstanceAs (Decidable (s.queue = []))
  | .begin | .replace | .commit | .abort => isTrue trivial

/-- A request that has been answered: its number, its body and the adapters it saw. -/
abbrev Served := ℕ × AdapterRequest × List AdapterInfo

/-- The file once some requests have been answered. -/
def fileAfter (file : List Char) (served : List Served) (config : ConfigurationConfig) : List Char :=
  if served = [] then file else config.text

section

variable (requests : List AdapterRequest)

/-- The one write on its way is that of a request that computed it from the present
configuration. -/
structure Pending (s : Server) (mutation : Mutation) (request : AdapterRequest)
    (adapters : List AdapterInfo) : Prop where
  queue : s.queue = [mutation]
  body : requests[mutation.request]? = some request
  phase : s.phases[mutation.request]? = some (.mutating adapters)
  next : request.next s.config adapters = .ok mutation.next

/-- At most one write is on its way; this is how far it has come. -/
inductive Progress (file : List Char) (s : Server) : Prop where
  | idle (hqueue : s.queue = []) (hstage : s.stage = .waiting) (hfile : s.file = file)
  | waiting {mutation : Mutation} {request : AdapterRequest} {adapters : List AdapterInfo}
      (hpending : Pending requests s mutation request adapters) (hstage : s.stage = .waiting)
      (hfile : s.file = file)
  | writing {mutation : Mutation} {request : AdapterRequest} {adapters : List AdapterInfo}
      {validated : ConfigurationConfig} (hpending : Pending requests s mutation request adapters)
      (hstage : s.stage = .writing validated)
      (hchecked : mutation.next.revalidate = .ok validated) (hfile : s.file = file)
  | renamed {mutation : Mutation} {request : AdapterRequest} {adapters : List AdapterInfo}
      {validated : ConfigurationConfig} (hpending : Pending requests s mutation request adapters)
      (hstage : s.stage = .renamed validated)
      (hchecked : mutation.next.revalidate = .ok validated) (hfile : s.file = validated.text)

/-- The requests answered so far, in the order of their writes, lead to the present
configuration. -/
structure Serialized (start : ConfigurationConfig) (file : List Char) (served : List Served)
    (s : Server) : Prop where
  length : s.phases.length = requests.length
  nodup : (served.map Prod.fst).Nodup
  answered : ∀ i request adapters, (i, request, adapters) ∈ served →
    requests[i]? = some request ∧ s.phases[i]? = some (.answered adapters)
  complete : ∀ i adapters, s.phases[i]? = some (.answered adapters) → i ∈ served.map Prod.fst
  outcome : (served.map Prod.snd).foldlM serve start = .ok s.config
  progress : Progress requests (fileAfter file served s.config) s

/-- Some request has been answered with an error. -/
def Failed (s : Server) : Prop := ∃ i : ℕ, s.phases[i]? = some .failed

variable {requests}

/-- An error stays. -/
theorem Failed.step {s t : Server} {event : Event} (hfailed : s.Failed)
    (h : s.step requests event = some t) : t.Failed := by
  obtain ⟨i, hi⟩ := hfailed
  have hset : ∀ (j : ℕ) (phase : Phase), s.phases[j]? = some .listing →
      (s.phases.set j phase)[i]? = some .failed := by
    intro j phase hj
    rw [List.getElem?_set_ne (fun hij => by rw [hij, hi] at hj; cases hj)]
    exact hi
  have hreject : ∀ mutation queue, (s.rejectFirst mutation queue).Failed := by
    intro mutation queue
    refine ⟨i, ?_⟩
    have hlt : i < s.phases.length := (List.getElem?_eq_some_iff.mp hi).1
    simp only [rejectFirst, List.getElem?_set, hi]
    split <;> simp_all
  cases event with
  | compute j adapters =>
    simp only [Server.step] at h
    split at h
    case h_1 request hrequest hj =>
      split at h <;> cases h <;> exact ⟨i, hset j _ hj⟩
    case h_2 => cases h
  | begin =>
    simp only [Server.step] at h
    split at h
    · split at h <;> cases h
      · exact ⟨i, hi⟩
      · exact hreject _ _
    · cases h
  | replace =>
    simp only [Server.step] at h
    split at h <;> cases h
    exact ⟨i, hi⟩
  | commit =>
    simp only [Server.step] at h
    split at h <;> cases h
    refine ⟨i, ?_⟩
    simp only [List.getElem?_modify, hi]
    split <;> rfl
  | abort =>
    simp only [Server.step] at h
    split at h <;> cases h
    exact hreject _ _

variable {start : ConfigurationConfig} {file : List Char} {served : List Served} {s t : Server}

/-- Only the first write can fail, and then its request does. -/
theorem Pending.failed_rejectFirst {mutation : Mutation} {request : AdapterRequest}
    {adapters : List AdapterInfo} (hpending : Pending requests s mutation request adapters)
    (queue : List Mutation) : (s.rejectFirst mutation queue).Failed :=
  ⟨mutation.request, List.getElem?_set_self (List.getElem?_eq_some_iff.mp hpending.phase).1⟩

/-- With a write on its way, the queue is that write. -/
theorem Progress.pending {text : List Char} (hprogress : Progress requests text s)
    (hqueue : s.queue ≠ []) :
    ∃ mutation request adapters, Pending requests s mutation request adapters := by
  cases hprogress with
  | idle hempty => exact absurd hempty hqueue
  | waiting hpending => exact ⟨_, _, _, hpending⟩
  | writing hpending => exact ⟨_, _, _, hpending⟩
  | renamed hpending => exact ⟨_, _, _, hpending⟩

/-- A request computes its configuration. -/
theorem Serialized.compute (hs : Serialized requests start file served s) (hqueue : s.queue = [])
    {i : ℕ} {request : AdapterRequest} {adapters : List AdapterInfo} {next : ConfigurationConfig}
    (hrequest : requests[i]? = some request) (hphase : s.phases[i]? = some .listing)
    (hnext : request.next s.config adapters = .ok next) :
    Serialized requests start file served { s with
      queue := s.queue ++ [⟨i, next⟩], phases := s.phases.set i (.mutating adapters) } := by
  have hlt : i < s.phases.length := (List.getElem?_eq_some_iff.mp hphase).1
  refine ⟨by simp [hs.length], hs.nodup, ?_, ?_, hs.outcome, ?_⟩
  · intro j other seen hserved
    obtain ⟨hbody, hanswered⟩ := hs.answered j other seen hserved
    refine ⟨hbody, ?_⟩
    rw [List.getElem?_set_ne (fun hij => by rw [hij, hanswered] at hphase; cases hphase)]
    exact hanswered
  · intro j seen hanswered
    by_cases hij : i = j
    · subst hij
      rw [List.getElem?_set_self hlt] at hanswered
      cases hanswered
    · rw [List.getElem?_set_ne hij] at hanswered
      exact hs.complete j seen hanswered
  · have hpending : Pending requests { s with
        queue := s.queue ++ [⟨i, next⟩], phases := s.phases.set i (.mutating adapters) }
        ⟨i, next⟩ request adapters :=
      ⟨by simp [hqueue], hrequest, List.getElem?_set_self hlt, hnext⟩
    cases hs.progress with
    | idle _ hstage hfile => exact .waiting hpending hstage hfile
    | waiting hother => cases hqueue.symm.trans hother.queue
    | writing hother => cases hqueue.symm.trans hother.queue
    | renamed hother => cases hqueue.symm.trans hother.queue

/-- A write ends: its request is the last one served. -/
theorem Serialized.commit (hs : Serialized requests start file served s) {mutation : Mutation}
    {request : AdapterRequest} {adapters : List AdapterInfo} {validated : ConfigurationConfig}
    (hpending : Pending requests s mutation request adapters)
    (hchecked : mutation.next.revalidate = .ok validated) (hfile : s.file = validated.text) :
    Serialized requests start file (served ++ [(mutation.request, request, adapters)]) { s with
      config := validated, queue := [], stage := .waiting
      phases := s.phases.modify mutation.request Phase.succeed } := by
  have hnew : mutation.request ∉ served.map Prod.fst := by
    intro hmem
    obtain ⟨⟨i, other, seen⟩, hserved, hi⟩ := List.mem_map.mp hmem
    have hanswered := (hs.answered i other seen hserved).2
    rw [show i = mutation.request from hi, hpending.phase] at hanswered
    cases hanswered
  refine ⟨by simp [hs.length], ?_, ?_, ?_, ?_, ?_⟩
  · rw [List.map_append, List.nodup_append]
    refine ⟨hs.nodup, by simp, fun i hi j hj hij => ?_⟩
    have hj : j = mutation.request := by simpa using hj
    exact hnew (hj ▸ hij ▸ hi)
  · intro i other seen hserved
    rcases List.mem_append.mp hserved with hserved | hserved
    · obtain ⟨hbody, hanswered⟩ := hs.answered i other seen hserved
      refine ⟨hbody, ?_⟩
      rw [List.getElem?_modify, hanswered]
      split <;> rfl
    · cases List.mem_singleton.mp hserved
      refine ⟨hpending.body, ?_⟩
      simp [hpending.phase, Phase.succeed]
  · intro i seen hanswered
    rw [List.map_append, List.mem_append]
    by_cases hi : mutation.request = i
    · exact .inr (by simp [hi])
    · have hanswered : s.phases[i]? = some (.answered seen) := by
        simpa [List.getElem?_modify, hi] using hanswered
      exact .inl (hs.complete i seen hanswered)
  · rw [List.map_append, List.foldlM_append, hs.outcome]
    simp only [List.map_singleton, List.foldlM_cons, List.foldlM_nil, serve, bind_eq_ok_iff]
    exact ⟨s.config, rfl, validated, ⟨mutation.next, hpending.next, hchecked⟩, rfl⟩
  · exact .idle rfl rfl (by simp [fileAfter, hfile])

/-- **One step**: the requests answered so far still lead to the configuration, unless one
of them has failed. -/
theorem Serialized.step (hs : Serialized requests start file served s) {event : Event}
    (halone : s.ComputesAlone event) (h : s.step requests event = some t) :
    t.Failed ∨ ∃ served, Serialized requests start file served t := by
  cases event with
  | compute i adapters =>
    simp only [Server.step] at h
    split at h
    case h_1 request hrequest hphase =>
      split at h
      case h_1 next hnext =>
        cases h
        exact .inr ⟨served, hs.compute halone hrequest hphase hnext⟩
      case h_2 =>
        cases h
        exact .inl ⟨i, List.getElem?_set_self (List.getElem?_eq_some_iff.mp hphase).1⟩
    case h_2 => cases h
  | begin =>
    simp only [Server.step] at h
    split at h
    case h_1 mutation queue hqueue hstage =>
      obtain ⟨_, request, adapters, hpending⟩ := hs.progress.pending (by simp [hqueue])
      cases hqueue.symm.trans hpending.queue
      split at h
      case h_1 validated hchecked =>
        cases h
        refine .inr ⟨served, hs.length, hs.nodup, hs.answered, hs.complete, hs.outcome, ?_⟩
        have hfile : s.file = fileAfter file served s.config := by
          cases hs.progress with
          | idle _ _ hfile => exact hfile
          | waiting _ _ hfile => exact hfile
          | writing _ hother => cases hstage.symm.trans hother
          | renamed _ hother => cases hstage.symm.trans hother
        exact .writing ⟨hpending.queue, hpending.body, hpending.phase, hpending.next⟩ rfl
          hchecked hfile
      case h_2 =>
        cases h
        exact .inl (hpending.failed_rejectFirst _)
    case h_2 => cases h
  | replace =>
    simp only [Server.step] at h
    split at h
    case h_1 validated hstage =>
      cases h
      refine .inr ⟨served, hs.length, hs.nodup, hs.answered, hs.complete, hs.outcome, ?_⟩
      cases hs.progress with
      | idle _ hother => cases hstage.symm.trans hother
      | waiting _ hother => cases hstage.symm.trans hother
      | renamed _ hother => cases hstage.symm.trans hother
      | writing hpending hother hchecked =>
        cases hstage.symm.trans hother
        exact .renamed ⟨hpending.queue, hpending.body, hpending.phase, hpending.next⟩ rfl
          hchecked rfl
    case h_2 => cases h
  | commit =>
    simp only [Server.step] at h
    split at h
    case h_1 mutation queue validated hqueue hstage =>
      cases h
      cases hs.progress with
      | idle hempty => cases hqueue.symm.trans hempty
      | waiting _ hother => cases hstage.symm.trans hother
      | writing _ hother => cases hstage.symm.trans hother
      | renamed hpending hother hchecked hfile =>
        cases hstage.symm.trans hother
        cases hqueue.symm.trans hpending.queue
        exact .inr ⟨_, hs.commit hpending hchecked hfile⟩
    case h_2 => cases h
  | abort =>
    simp only [Server.step] at h
    split at h
    case h_1 mutation queue hqueue =>
      cases h
      obtain ⟨_, request, adapters, hpending⟩ := hs.progress.pending (by simp [hqueue])
      cases hqueue.symm.trans hpending.queue
      exact .inl (hpending.failed_rejectFirst _)
    case h_2 => cases h

theorem filterMap_getElem?_range {α : Type} (items : List α) :
    (List.range items.length).filterMap (items[·]?) = items := by
  induction items using List.reverseRecOn with
  | nil => rfl
  | append_singleton items item ih =>
    rw [List.length_append, List.length_singleton, List.range_succ, List.filterMap_append]
    have hfront : (List.range items.length).filterMap ((items ++ [item])[·]?) = items := by
      refine Eq.trans (List.filterMap_congr fun i hi => ?_) ih
      exact List.getElem?_append_left (List.mem_range.mp hi)
    rw [hfront]
    simp

/-- If all requests have been answered, they are the ones that were served. -/
theorem Serialized.perm (hs : Serialized requests start file served s)
    {observed : List (List AdapterInfo)} (hanswered : s.phases = observed.map .answered) :
    (served.map Prod.snd).Perm (requests.zip observed) := by
  have hlength : observed.length = requests.length := by
    rw [← hs.length, hanswered, List.length_map]
  have hentry : ∀ entry ∈ served, (requests.zip observed)[entry.1]? = some entry.2 := by
    rintro ⟨i, request, adapters⟩ hserved
    obtain ⟨hbody, hphase⟩ := hs.answered i request adapters hserved
    rw [hanswered, List.getElem?_map] at hphase
    obtain ⟨seen, hseen, heq⟩ := Option.map_eq_some_iff.mp hphase
    cases heq
    rw [List.getElem?_zip_eq_some]
    exact ⟨hbody, hseen⟩
  -- The numbers of the requests served are those of all requests.
  have hnumbers : (served.map Prod.fst).Perm (List.range requests.length) := by
    rw [List.perm_ext_iff_of_nodup hs.nodup List.nodup_range]
    intro i
    rw [List.mem_range]
    constructor
    · intro hmem
      obtain ⟨⟨j, request, adapters⟩, hserved, rfl⟩ := List.mem_map.mp hmem
      exact (List.getElem?_eq_some_iff.mp (hs.answered j request adapters hserved).1).1
    · intro hlt
      refine hs.complete i (observed.get ⟨i, by omega⟩) ?_
      rw [hanswered, List.getElem?_map, List.get_eq_getElem, List.getElem?_eq_getElem (by omega)]
      rfl
  have hsnd : served.map Prod.snd =
      (served.map Prod.fst).filterMap ((requests.zip observed)[·]?) := by
    rw [List.filterMap_map, ← List.filterMap_eq_map]
    exact List.filterMap_congr fun entry hserved => (hentry entry hserved).symm
  have hrange : requests.length = (requests.zip observed).length := by simp [hlength]
  have hperm := hnumbers.filterMap ((requests.zip observed)[·]?)
  rwa [← hsnd, hrange, filterMap_getElem?_range] at hperm

theorem serialized_initial (requests : List AdapterRequest) (config : ConfigurationConfig)
    (file : List Char) :
    Serialized requests config file [] (initial config file requests.length) where
  length := by simp [initial]
  nodup := List.nodup_nil
  answered := fun _ _ _ hserved => absurd hserved (List.not_mem_nil)
  complete := by
    intro i adapters hanswered
    simp only [initial, List.getElem?_replicate] at hanswered
    split at hanswered <;> cases hanswered
  outcome := rfl
  progress := .idle rfl rfl rfl

end

end Server

/-- **Requests one after another.**  If every request computes its configuration with no
write on its way and all are answered `ok`, the configuration of `#configState` is that of
the requests one after another, in some order, and the file holds its text. -/
theorem mutations_serialize {requests : List AdapterRequest} {config : ConfigurationConfig}
    {file : List Char} {events : List Event} {final : Server} {observed : List (List AdapterInfo)}
    (hrun : run (Server.step requests) (.initial config file requests.length) events = some final)
    (hanswered : final.phases = observed.map .answered)
    (halone : AllSteps (Server.step requests) Server.ComputesAlone
      (.initial config file requests.length) events) :
    ∃ order : List (AdapterRequest × List AdapterInfo), order.Perm (requests.zip observed) ∧
      order.foldlM serve config = .ok final.config ∧
      final.file = if requests = [] then file else final.config.text := by
  have hinvariant : final.Failed ∨ ∃ served, Server.Serialized requests config file served final :=
    run_induction_of_allSteps (Server.step requests)
      (P := fun s => s.Failed ∨ ∃ served, Server.Serialized requests config file served s)
      (fun s event t hs hevent hstep => hs.elim (fun hfailed => .inl (hfailed.step hstep))
        fun ⟨_, hserialized⟩ => hserialized.step hevent hstep)
      (.inr ⟨[], Server.serialized_initial requests config file⟩) halone hrun
  rcases hinvariant with ⟨i, hfailed⟩ | ⟨served, hs⟩
  · rw [hanswered, List.getElem?_map] at hfailed
    obtain ⟨_, _, h⟩ := Option.map_eq_some_iff.mp hfailed
    cases h
  · have hperm := hs.perm hanswered
    refine ⟨_, hperm, hs.outcome, ?_⟩
    have hempty : served = [] ↔ requests = [] := by
      have hlength := hperm.length_eq
      have hobserved : observed.length = requests.length := by
        rw [← hs.length, hanswered, List.length_map]
      rw [List.length_map, List.length_zip, hobserved, min_self] at hlength
      rw [← List.length_eq_zero_iff, ← List.length_eq_zero_iff (l := requests), hlength]
    -- No request is still waiting for its write, so no write is on its way.
    have hidle : ∀ mutation request adapters,
        ¬Server.Pending requests final mutation request adapters := by
      intro mutation request adapters hpending
      have hphase := hpending.phase
      rw [hanswered, List.getElem?_map] at hphase
      obtain ⟨_, _, h⟩ := Option.map_eq_some_iff.mp hphase
      cases h
    cases hs.progress with
    | idle _ _ hfile => simpa only [Server.fileAfter, hempty] using hfile
    | waiting hpending => exact absurd hpending (hidle _ _ _)
    | writing hpending => exact absurd hpending (hidle _ _ _)
    | renamed hpending => exact absurd hpending (hidle _ _ _)

/-! ### Two requests that overlap -/

/-- A mapping that is locked to a path. -/
def lockedMapping (logicalName physicalInterface idPath : String) : InterfaceMapping where
  logicalName := js logicalName
  physicalInterface := js physicalInterface
  enabled := true
  lock := some { idPath := js idPath }

/-- Two mappings, of which the given ones are unlocked. -/
def withUnlocked (names : List String) : ConfigurationConfig :=
  { interfaceMappings :=
      [lockedMapping "a" "eth1" "p", lockedMapping "b" "eth2" "q"].map fun mapping =>
        if mapping.logicalName ∈ names.map js then { mapping with lock := none } else mapping }

/-- The request to unlock a mapping. -/
def unlockRequest (name : String) : AdapterRequest := .unlock (js name) (js ("UNLOCK:" ++ name))

/-- Requests to unlock both. -/
def unlockBoth : List AdapterRequest := [unlockRequest "a", unlockRequest "b"]

/-- Both requests compute their configuration before either is written. -/
def overlapping : List Event :=
  [.compute 0 [], .compute 1 [], .begin, .replace, .commit, .begin, .replace, .commit]

/-- The same requests, the second of which starts once the first has been written. -/
def separate : List Event :=
  [.compute 0 [], .begin, .replace, .commit, .compute 1 [], .begin, .replace, .commit]

theorem revalidate_withUnlocked :
    ∀ names ∈ [["a"], ["b"], ["a", "b"]], (withUnlocked names).revalidate =
      .ok (withUnlocked names) := by
  decide +kernel

/-- What an unlock request computes, if it is accepted. -/
theorem unlockAdapter_eq {config : ConfigurationConfig} {logicalName confirmation : JsString}
    {mapping : InterfaceMapping} (hconfirmation : confirmation = js "UNLOCK:" ++ logicalName)
    (hmapping : (config.interfaceMappings.find? fun item => item.logicalName = logicalName) =
      some mapping) (hlock : mapping.lock.isSome) :
    unlockAdapter config logicalName confirmation =
      { config with
        interfaceMappings := (changeMapping logicalName ({ · with lock := none })
          config.interfaceMappings).getD config.interfaceMappings }.revalidate := by
  simp only [unlockAdapter, check, if_pos hconfirmation, hmapping, Option.bind_some, if_pos hlock]
  rfl

theorem next_unlockRequest :
    (unlockRequest "a").next (withUnlocked []) [] = .ok (withUnlocked ["a"]) ∧
    (unlockRequest "b").next (withUnlocked []) [] = .ok (withUnlocked ["b"]) ∧
    (unlockRequest "b").next (withUnlocked ["a"]) [] = .ok (withUnlocked ["a", "b"]) ∧
    (unlockRequest "a").next (withUnlocked ["b"]) [] = .ok (withUnlocked ["a", "b"]) := by
  refine ⟨?_, ?_, ?_, ?_⟩
  all_goals
    refine (unlockAdapter_eq (by decide +kernel) rfl rfl).trans (Eq.trans ?_
      (revalidate_withUnlocked _ (by simp)))
    exact congrArg _ (by decide +kernel)

/-- **A lost update.**  Two requests to unlock different adapters are both answered `ok`,
but in the end only the second adapter is unlocked. -/
theorem overlapping_unlocks :
    (unlockBoth.map AdapterRequest.logicalName).Nodup ∧
    ∃ final, run (Server.step unlockBoth) (.initial (withUnlocked []) [] 2) overlapping =
        some final ∧
      final.phases = [.answered [], .answered []] ∧ final.config = withUnlocked ["b"] ∧
      ∀ order : List (AdapterRequest × List AdapterInfo),
        order.Perm (unlockBoth.zip [[], []]) →
          order.foldlM serve (withUnlocked []) ≠ .ok final.config := by
  obtain ⟨ha, hb, hab, hba⟩ := next_unlockRequest
  have hwritten := revalidate_withUnlocked
  simp only [List.forall_mem_cons] at hwritten
  obtain ⟨hra, hrb, hrab, -⟩ := hwritten
  refine ⟨by decide +kernel, ⟨withUnlocked ["b"], (withUnlocked ["b"]).text, [], .waiting,
    [.answered [], .answered []]⟩, ?_, rfl, rfl, ?_⟩
  · simp [overlapping, run_cons, Server.step, Server.initial, unlockBoth, ha, hb, hra, hrb,
      Phase.succeed, List.replicate]
  · intro order horder
    have hdiffer : withUnlocked ["a", "b"] ≠ withUnlocked ["b"] := by decide +kernel
    have hcases : order = [(unlockRequest "a", []), (unlockRequest "b", [])] ∨
        order = [(unlockRequest "b", []), (unlockRequest "a", [])] := by
      have hmem : order ∈ (unlockBoth.zip [[], []]).permutations := List.mem_permutations.mpr horder
      simpa [unlockBoth, List.permutations, List.permutationsAux, List.permutationsAux.rec] using hmem
    rcases hcases with rfl | rfl
    · simpa [serve, ha, hra, hab, hrab, bind, Except.bind, pure, Except.pure] using hdiffer
    · simpa [serve, hb, hrb, hba, hrab, bind, Except.bind, pure, Except.pure] using hdiffer

/-- The same two requests, one after the other. -/
theorem separate_unlocks :
    ∃ order : List (AdapterRequest × List AdapterInfo),
      order.Perm (unlockBoth.zip [[], []]) ∧
        order.foldlM serve (withUnlocked []) = .ok (withUnlocked ["a", "b"]) ∧
        (withUnlocked ["a", "b"]).text = if unlockBoth = [] then [] else
          (withUnlocked ["a", "b"]).text := by
  obtain ⟨ha, hb, hab, hba⟩ := next_unlockRequest
  have hwritten := revalidate_withUnlocked
  simp only [List.forall_mem_cons] at hwritten
  obtain ⟨hra, hrb, hrab, -⟩ := hwritten
  have hrun : run (Server.step unlockBoth) (.initial (withUnlocked []) [] 2) separate =
      some ⟨withUnlocked ["a", "b"], (withUnlocked ["a", "b"]).text, [], .waiting,
        [.answered [], .answered []]⟩ := by
    simp [separate, run_cons, Server.step, Server.initial, unlockBoth, ha, hra, hab, hrab,
      Phase.succeed, List.replicate]
  refine @mutations_serialize unlockBoth (withUnlocked []) [] separate _ [[], []] hrun rfl ?_
  simp [separate, AllSteps, Server.step, Server.initial, Server.ComputesAlone, unlockBoth, ha, hra,
    Phase.succeed, List.replicate]

end EcSystemCore.Web
