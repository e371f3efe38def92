import EcSystemCore.Adapter.LockedResolution
import EcSystemCore.Web.Records

/-!
# Lock states on both sides

`deriveAdapterLockState` of `core.ts` is the server's own answer to the question that
`ResolveAdapter` answers in the daemon.  The server looks at the identities that
`#discoverAdapterIdentity` builds, and an adapter without a stable path has none, so the
server does not see that such an adapter has the MAC address or the serial number of the
lock: the daemon reports a mismatch and the server that the adapter is missing
(`hidden_adapter_missing`).  Apart from that, and from paths with white space around them,
which only the server trims, the answers are the same (`lock_states_agree_iff`).
-/

namespace EcSystemCore.Web

open Checks AdapterLockIdentity

/-! ### The server's side -/

/-- The end of `#discoverAdapterIdentity`: the identity of an adapter with the given texts.
Texts that were not found are empty. -/
def discoverAdapterIdentity (idPath permanentMac serial vendor product : JsString) :
    Option AdapterLockIdentity :=
  let permanentMac :=
    if permanentMac = [] then []
    else (normalizeMac (.string permanentMac) (js "adapter.permanent_mac")).toOption.getD []
  let present (text : JsString) := if text = [] then none else some text
  (validateAdapterLock (Document.record (lockFields idPath (some permanentMac) (present serial)
    (present vendor) (present product))).toJs (js "lock")).toOption

/-- An adapter as `deriveAdapterLockState` sees it. -/
structure ObservedAdapter where
  name : JsString
  identity : Option AdapterLockIdentity
  deriving DecidableEq

/-- The adapter with the daemon's texts, as the server sees it. -/
def observe (adapter : AdapterIdentity) : ObservedAdapter where
  name := units adapter.interfaceName
  identity := discoverAdapterIdentity (units adapter.idPath)
    (units (adapter.permanentMac.getD [])) (units (adapter.usbSerial.getD []))
    (units (adapter.usbVendorId.getD [])) (units (adapter.usbProductId.getD []))

/-- `toLowerCase`. -/
def toLowerCase (text : JsString) : JsString := text.map lowerUnit

/-- `adapterIdentityMatches`. -/
def adapterIdentityMatches (expected : AdapterLockIdentity) :
    Option AdapterLockIdentity → Bool
  | none => false
  | some observed =>
    expected.idPath = observed.idPath &&
    (expected.permanentMac.all fun mac =>
      some (toLowerCase mac) = observed.permanentMac.map toLowerCase) &&
    (expected.usbSerial.all fun serial => some serial = observed.usbSerial) &&
    (expected.usbVendorId.all fun vendor => some vendor = observed.usbVendorId) &&
    expected.usbProductId.all fun product => some product = observed.usbProductId

/-- What `deriveAdapterLockState` answers. -/
inductive DerivedLockState where
  | matched
  | missing
  | mismatch
  deriving DecidableEq

/-- The state the daemon would report. -/
def DerivedLockState.toDaemon : DerivedLockState → AdapterLockState
  | matched => .matched
  | missing => .missing
  | mismatch => .mismatch

/-- `relatedIdentity` of `deriveAdapterLockState`, for one adapter. -/
def ObservedAdapter.related (expected : AdapterLockIdentity) (item : ObservedAdapter) : Bool :=
  (expected.permanentMac.any fun mac =>
    (item.identity.bind (·.permanentMac)).map toLowerCase = some (toLowerCase mac)) ||
  expected.usbSerial.any fun serial => item.identity.bind (·.usbSerial) = some serial

/-- `deriveAdapterLockState`. -/
def deriveAdapterLockState (expected : AdapterLockIdentity) (observed : List ObservedAdapter)
    (preferredInterface : JsString) : DerivedLockState :=
  match observed.filter fun item => item.identity.map (·.idPath) = some expected.idPath with
  | [] =>
    if observed.any (fun item => item.name = preferredInterface) ||
      observed.any (ObservedAdapter.related expected) then .mismatch else .missing
  | [item] => if adapterIdentityMatches expected item.identity then .matched else .mismatch
  | _ => .mismatch

/-! ### What the server sees of an adapter -/

theorem lockFields_getD (path : JsString) (mac : JsString) (serial vendor product : Option Bytes)
    (hserial : ∀ text, serial = some text → text ≠ [])
    (hvendor : ∀ text, vendor = some text → text ≠ [])
    (hproduct : ∀ text, product = some text → text ≠ []) :
    lockFields path (some mac)
        (if units (serial.getD []) = [] then none else some (units (serial.getD [])))
        (if units (vendor.getD []) = [] then none else some (units (vendor.getD [])))
        (if units (product.getD []) = [] then none else some (units (product.getD []))) =
      lockFields path (some mac) (serial.map units) (vendor.map units) (product.map units) := by
  have hpresent : ∀ text : Option Bytes, (∀ found, text = some found → found ≠ []) →
      (if units (text.getD []) = [] then none else some (units (text.getD []))) = text.map units := by
    intro text htext
    cases text with
    | none => rfl
    | some found => rw [if_neg (by simpa using htext found rfl)]; rfl
  rw [hpresent serial hserial, hpresent vendor hvendor, hpresent product hproduct]

theorem isAscii_idPath (adapter : ScannedAdapter) : IsAscii adapter.idPath := by
  by_cases hnil : adapter.idPath = []
  · rw [hnil]
    exact nofun
  · exact isAscii_of_printable (adapter.idPath_valid hnil).2

theorem ne_nil_of_normalizeUsbId {id : Bytes} (h : EcSystemCore.normalizeUsbId id = some id) :
    id ≠ [] := by
  rintro rfl
  cases h

/-- The identity of a scanned adapter: none without a path, else the daemon's values. -/
theorem identity_observe (adapter : ScannedAdapter) :
    (observe adapter.toAdapterIdentity).identity =
      if trimAscii adapter.idPath = [] then none
      else some (ofDaemon ⟨trimAscii adapter.idPath, adapter.permanentMac, adapter.usbSerial,
        adapter.usbVendorId, adapter.usbProductId⟩) := by
  show discoverAdapterIdentity _ _ _ _ _ = _
  unfold discoverAdapterIdentity
  dsimp only
  rw [lockFields_getD _ _ _ _ _ (fun text h => (adapter.usbSerial_valid text h).1)
    (fun text h => ne_nil_of_normalizeUsbId (adapter.usbVendorId_normal text h))
    (fun text h => ne_nil_of_normalizeUsbId (adapter.usbProductId_normal text h))]
  -- The MAC address is either in normal form already or the empty text.
  have hmac : (if units (adapter.permanentMac.getD []) = [] then []
      else (normalizeMac (.string (units (adapter.permanentMac.getD [])))
        (js "adapter.permanent_mac")).toOption.getD []) = units (adapter.permanentMac.getD []) := by
    split
    · rename_i hnil
      exact hnil.symm
    · rename_i hne
      cases hmac : adapter.permanentMac with
      | none => rw [hmac] at hne; exact absurd rfl hne
      | some mac =>
        rw [Option.getD_some, normalizeMac_units (adapter.permanentMac_normal mac hmac)]
        rfl
  rw [hmac]
  split
  · rename_i hnil
    -- Nothing is left of the path, so the check of the path fails.
    generalize hlock : validateAdapterLock _ _ = result
    cases result with
    | error message => rfl
    | ok lock =>
      obtain ⟨normal, hnormal, rfl⟩ := exists_normal_of_validateAdapterLock hlock
      have hidPath := idPath_of_validateAdapterLock hlock
      rw [trim_units (isAscii_idPath adapter), hnil] at hidPath
      exact absurd (units_eq_nil.mp hidPath) hnormal.idPath_ne
  · rename_i hne
    have hpath : adapter.idPath ≠ [] := by
      intro hnil
      rw [hnil] at hne
      exact hne rfl
    obtain ⟨hlength, hprintable⟩ := adapter.idPath_valid hpath
    rw [validateAdapterLock_lockFields hlength hprintable hne adapter.permanentMac_normal
      adapter.usbSerial_valid adapter.usbVendorId_normal adapter.usbProductId_normal]
    · rfl
    · cases adapter.permanentMac with
      | none => exact .inr ⟨rfl, rfl⟩
      | some mac => exact .inl rfl

/-! ### Both sides on the same texts -/

/-- The adapter has the MAC address or the serial number of the lock. -/
def Related (lock : AdapterIdentityLock) (adapter : AdapterIdentity) : Prop :=
  (∃ mac, lock.permanentMac = some mac ∧ adapter.permanentMac = some mac) ∨
    ∃ serial, lock.usbSerial = some serial ∧ adapter.usbSerial = some serial

section

variable {lock : AdapterIdentityLock} (hlock : NormalLock lock)
include hlock

/-- A lock in normal form is accepted by the daemon. -/
theorem NormalLock.accepted : EcSystemCore.validateAdapterLock lock = .ok () := by
  unfold EcSystemCore.validateAdapterLock
  have hmac : ¬lock.permanentMac.any (fun mac => (EcSystemCore.normalizeMac mac).isNone) = true := by
    intro h
    obtain ⟨mac, hmac, hnone⟩ := (Option.any_eq_true _ _).mp h
    simp [hlock.permanentMac mac hmac] at hnone
  have hserial : ¬lock.usbSerial.any (fun serial =>
      serial = [] || serial.length > 256 || !printableAscii serial) = true := by
    intro h
    obtain ⟨serial, hserial, hinvalid⟩ := (Option.any_eq_true _ _).mp h
    obtain ⟨hne, hlength, hprintable, -⟩ := hlock.usbSerial serial hserial
    simp [hne, hprintable] at hinvalid
    omega
  have hvendor : ¬lock.usbVendorId.any
      (fun vendor => (EcSystemCore.normalizeUsbId vendor).isNone) = true := by
    intro h
    obtain ⟨vendor, hvendor, hnone⟩ := (Option.any_eq_true _ _).mp h
    simp [hlock.usbVendorId vendor hvendor] at hnone
  have hproduct : ¬lock.usbProductId.any
      (fun product => (EcSystemCore.normalizeUsbId product).isNone) = true := by
    intro h
    obtain ⟨product, hproduct, hnone⟩ := (Option.any_eq_true _ _).mp h
    simp [hlock.usbProductId product hproduct] at hnone
  have hpath : ¬(lock.idPath = [] ∨ lock.idPath.length > 1024 ∨ ¬printableAscii lock.idPath = true) := by
    have := hlock.idPath_length
    simp [hlock.idPath_ne, hlock.idPath_printable]
    omega
  rw [if_neg hpath, if_neg hmac, if_neg hserial, if_neg hvendor, if_neg hproduct]

/-- The daemon's search for related adapters. -/
theorem relatedIdentity_iff (adapters : List AdapterIdentity) :
    relatedIdentity adapters lock = true ↔ ∃ adapter ∈ adapters, Related lock adapter := by
  have hmac : lock.permanentMac.bind EcSystemCore.normalizeMac = lock.permanentMac := by
    cases hmac : lock.permanentMac with
    | none => rfl
    | some mac => exact hlock.permanentMac mac hmac
  unfold relatedIdentity
  rw [hmac, List.any_eq_true]
  refine exists_congr fun adapter => and_congr_right fun _ => ?_
  unfold Related
  cases lock.permanentMac <;> cases lock.usbSerial <;> simp

end

/-- A field is compared with an optional one. -/
theorem all_units_iff {expected observed : Option Bytes} :
    ((expected.map units).all fun text => some text = observed.map units) = true ↔
      ∀ text, expected = some text → observed = some text := by
  cases expected with
  | none => simp
  | some text =>
    cases observed with
    | none => simp
    | some found => simp [eq_comm]

/-- MAC addresses in normal form are compared as they are. -/
theorem toLowerCase_map_units {mac : Option Bytes}
    (hmac : ∀ text, mac = some text → EcSystemCore.normalizeMac text = some text) :
    (mac.map units).map toLowerCase = mac.map units := by
  cases mac with
  | none => rfl
  | some text => exact congrArg some (map_lowerUnit_units (hmac text rfl))

section

variable {adapter : AdapterIdentity} (hadapter : Reported adapter)
include hadapter

theorem permanentMac_of_reported :
    ∀ mac, adapter.permanentMac = some mac → EcSystemCore.normalizeMac mac = some mac := by
  obtain ⟨scanned, rfl⟩ := hadapter.exists_scannedAdapter
  exact scanned.permanentMac_normal

/-- What the server knows of an adapter is its trimmed path and the daemon's values. -/
theorem identity_observe_of_reported :
    (observe adapter).identity =
      if trimAscii adapter.idPath = [] then none
      else some (ofDaemon ⟨trimAscii adapter.idPath, adapter.permanentMac, adapter.usbSerial,
        adapter.usbVendorId, adapter.usbProductId⟩) := by
  obtain ⟨scanned, rfl⟩ := hadapter.exists_scannedAdapter
  exact identity_observe scanned

variable {lock : AdapterIdentityLock} (hlock : NormalLock lock)
include hlock

/-- The server compares trimmed paths. -/
theorem observe_path_iff :
    (observe adapter).identity.map (·.idPath) = some (ofDaemon lock).idPath ↔
      trimAscii adapter.idPath = lock.idPath := by
  rw [identity_observe_of_reported hadapter]
  split
  · rename_i hnil
    constructor
    · intro h
      cases h
    · intro h
      exact absurd (h.symm.trans hnil) hlock.idPath_ne
  · exact Option.some_inj.trans units_inj

/-- The server compares the MAC address of a lock as the daemon does. -/
theorem all_mac_iff :
    ((lock.permanentMac.map units).all fun mac =>
        some (toLowerCase mac) = (adapter.permanentMac.map units).map toLowerCase) = true ↔
      ∀ mac, lock.permanentMac = some mac → adapter.permanentMac = some mac := by
  rw [toLowerCase_map_units (permanentMac_of_reported hadapter), ← all_units_iff]
  cases hmac : lock.permanentMac with
  | none => rfl
  | some mac =>
    simp only [Option.map_some, Option.all_some]
    rw [show toLowerCase (units mac) = units mac from
      map_lowerUnit_units (hlock.permanentMac mac hmac)]

/-- The server and the daemon compare the other fields alike. -/
theorem observe_matches_iff (hpath : trimAscii adapter.idPath = lock.idPath) :
    adapterIdentityMatches (ofDaemon lock) (observe adapter).identity = true ↔
      AgreesWith lock adapter := by
  have hne : ¬trimAscii adapter.idPath = [] := by
    rw [hpath]
    exact hlock.idPath_ne
  rw [identity_observe_of_reported hadapter, if_neg hne]
  unfold adapterIdentityMatches
  simp only [ofDaemon, Bool.and_eq_true, decide_eq_true_eq, hpath, true_and,
    all_mac_iff hadapter hlock, all_units_iff]
  constructor
  · rintro ⟨⟨⟨hmac, hserial⟩, hvendor⟩, hproduct⟩
    exact ⟨fun mac h => ⟨mac, hlock.permanentMac mac h, hmac mac h⟩, hserial,
      fun vendor h => ⟨vendor, hlock.usbVendorId vendor h, hvendor vendor h⟩,
      fun product h => ⟨product, hlock.usbProductId product h, hproduct product h⟩⟩
  · -- The normal form of a value in normal form is that value.
    intro hagrees
    refine ⟨⟨⟨?_, hagrees.usbSerial⟩, ?_⟩, ?_⟩
    · intro mac h
      obtain ⟨value, hvalue, hadapter⟩ := hagrees.permanentMac mac h
      rw [hadapter, ← hvalue, hlock.permanentMac mac h]
    · intro vendor h
      obtain ⟨value, hvalue, hadapter⟩ := hagrees.usbVendorId vendor h
      rw [hadapter, ← hvalue, hlock.usbVendorId vendor h]
    · intro product h
      obtain ⟨value, hvalue, hadapter⟩ := hagrees.usbProductId product h
      rw [hadapter, ← hvalue, hlock.usbProductId product h]

/-- The server finds a related adapter only if it has a path. -/
theorem observe_related_iff :
    (observe adapter).related (ofDaemon lock) = true ↔
      trimAscii adapter.idPath ≠ [] ∧ Related lock adapter := by
  unfold ObservedAdapter.related
  rw [identity_observe_of_reported hadapter]
  split
  · rename_i hnil
    simp only [hnil, ne_eq, not_true_eq_false, false_and, iff_false]
    cases lock.permanentMac <;> cases lock.usbSerial <;> simp [ofDaemon]
  · rename_i hne
    simp only [hne, ne_eq, not_false_eq_true, true_and, Related, Bool.or_eq_true,
      Option.bind_some, ofDaemon, toLowerCase_map_units (permanentMac_of_reported hadapter)]
    refine or_congr ?_ ?_
    · cases hmac : lock.permanentMac with
      | none => simp
      | some mac =>
        simp only [Option.map_some, Option.any_some, decide_eq_true_eq, Option.some_inj,
          exists_eq_left']
        rw [show toLowerCase (units mac) = units mac from
          map_lowerUnit_units (hlock.permanentMac mac hmac)]
        cases adapter.permanentMac <;> simp
    · cases lock.usbSerial with
      | none => simp
      | some serial => cases adapter.usbSerial <;> simp

end

/-! ### The four answers that are not a mismatch -/

section

variable {adapters : List AdapterIdentity} {lock : AdapterIdentityLock} (hlock : NormalLock lock)
  (preferredInterface : Bytes)

/-- Some adapter bears the preferred name. -/
def HasName (adapters : List AdapterIdentity) (name : Bytes) : Prop :=
  ∃ adapter ∈ adapters, adapter.interfaceName = name

theorem find?_isSome_iff {name : Bytes} :
    (adapters.find? fun identity => identity.interfaceName = name).isSome = true ↔
      HasName adapters name := by
  rw [List.find?_isSome]
  simp [HasName]

include hlock

theorem daemon_matched_iff :
    (resolveAdapter adapters preferredInterface (some lock) false).state = .matched ↔
      ∃ adapter, (adapters.filter fun identity => identity.idPath = lock.idPath) = [adapter] ∧
        AgreesWith lock adapter := by
  rw [resolveAdapter_locked]
  split
  · rename_i hnil
    simp only [hnil, List.nil_eq, reduceCtorEq, false_and, exists_false, iff_false]
    split <;> exact nofun
  · rename_i found hone
    simp only [hone, List.cons.injEq, and_true, exists_eq_left']
    rw [← fieldMismatch_eq_none_iff hlock.accepted]
    cases hfield : fieldMismatch lock found with
    | none => simp
    | some resolution =>
      simp only [Option.getD_some, reduceCtorEq, fieldMismatch_state hfield]
  · rename_i hnil hone
    exact ⟨nofun, fun ⟨adapter, h, _⟩ => absurd h (hone adapter)⟩

theorem daemon_missing_iff :
    (resolveAdapter adapters preferredInterface (some lock) false).state = .missing ↔
      (adapters.filter fun identity => identity.idPath = lock.idPath) = [] ∧
        ¬HasName adapters preferredInterface ∧ ∀ adapter ∈ adapters, ¬Related lock adapter := by
  rw [resolveAdapter_locked]
  split
  · rename_i hnil
    have hrelated := relatedIdentity_iff hlock adapters
    rw [← find?_isSome_iff, show (∀ adapter ∈ adapters, ¬Related lock adapter) ↔
      ¬relatedIdentity adapters lock = true by rw [hrelated]; simp]
    simp only [hnil, true_and]
    cases (adapters.find? fun identity => identity.interfaceName = preferredInterface).isSome <;>
      cases relatedIdentity adapters lock <;> simp
  · rename_i found hone
    simp only [hone, reduceCtorEq, false_and, iff_false]
    cases hfield : fieldMismatch lock found with
    | none => exact nofun
    | some resolution =>
      rw [Option.getD_some, fieldMismatch_state hfield]
      exact nofun
  · rename_i hnil hone
    exact ⟨nofun, fun ⟨h, _⟩ => absurd h hnil⟩

variable (hadapters : ∀ adapter ∈ adapters, Reported adapter)
include hadapters

/-- The adapters whose path the server finds to be that of the lock. -/
theorem filter_observe :
    ((adapters.map observe).filter fun item =>
        item.identity.map (·.idPath) = some (ofDaemon lock).idPath) =
      (adapters.filter fun adapter => trimAscii adapter.idPath = lock.idPath).map observe := by
  rw [List.filter_map]
  congr 1
  refine List.filter_congr fun adapter hadapter => ?_
  exact decide_eq_decide.mpr (observe_path_iff (hadapters adapter hadapter) hlock)

theorem server_matched_iff :
    deriveAdapterLockState (ofDaemon lock) (adapters.map observe) (units preferredInterface) =
        .matched ↔
      ∃ adapter, (adapters.filter fun identity => trimAscii identity.idPath = lock.idPath) =
        [adapter] ∧ AgreesWith lock adapter := by
  unfold deriveAdapterLockState
  rw [filter_observe hlock hadapters]
  match hfilter : adapters.filter fun identity => trimAscii identity.idPath = lock.idPath with
  | [] =>
    rw [hfilter]
    simp only [List.map_nil, List.nil_eq, reduceCtorEq, false_and, exists_false, iff_false]
    split <;> exact nofun
  | [found] =>
    have hmem : found ∈ adapters.filter fun identity => trimAscii identity.idPath = lock.idPath := by
      rw [hfilter]
      exact List.mem_singleton_self found
    have hfound : found ∈ adapters ∧ trimAscii found.idPath = lock.idPath := by
      rw [List.mem_filter, decide_eq_true_eq] at hmem
      exact hmem
    rw [hfilter]
    simp only [List.map_cons, List.map_nil, List.cons.injEq, and_true, exists_eq_left']
    rw [← observe_matches_iff (hadapters found hfound.1) hlock hfound.2]
    split <;> simp_all
  | first :: second :: others =>
    rw [hfilter]
    simp

theorem server_missing_iff :
    deriveAdapterLockState (ofDaemon lock) (adapters.map observe) (units preferredInterface) =
        .missing ↔
      (adapters.filter fun identity => trimAscii identity.idPath = lock.idPath) = [] ∧
        ¬HasName adapters preferredInterface ∧
        ∀ adapter ∈ adapters, trimAscii adapter.idPath ≠ [] → ¬Related lock adapter := by
  unfold deriveAdapterLockState
  rw [filter_observe hlock hadapters]
  match hfilter : adapters.filter fun identity => trimAscii identity.idPath = lock.idPath with
  | [] =>
    have hname : (adapters.map observe).any (fun item => item.name = units preferredInterface) =
        true ↔ HasName adapters preferredInterface := by
      simp [HasName, observe]
    have hrelated : (adapters.map observe).any (ObservedAdapter.related (ofDaemon lock)) = true ↔
        ∃ adapter ∈ adapters, trimAscii adapter.idPath ≠ [] ∧ Related lock adapter := by
      rw [List.any_map, List.any_eq_true]
      exact exists_congr fun adapter => and_congr_right fun hadapter =>
        observe_related_iff (hadapters adapter hadapter) hlock
    rw [← hname, show (∀ adapter ∈ adapters, trimAscii adapter.idPath ≠ [] →
      ¬Related lock adapter) ↔ ¬(adapters.map observe).any
        (ObservedAdapter.related (ofDaemon lock)) = true by rw [hrelated]; simp, hfilter]
    simp only [List.map_nil, true_and]
    cases (adapters.map observe).any (fun item => item.name = units preferredInterface) <;>
      cases (adapters.map observe).any (ObservedAdapter.related (ofDaemon lock)) <;> simp
  | [found] =>
    rw [hfilter]
    simp only [List.map_cons, List.map_nil, reduceCtorEq, false_and, iff_false]
    split <;> exact nofun
  | first :: second :: others =>
    rw [hfilter]
    simp

end

/-! ### When the two sides agree -/

/-- No adapter has the path of the lock up to white space only. -/
def NoPaddedPath (adapters : List AdapterIdentity) (lock : AdapterIdentityLock) : Prop :=
  ∀ adapter ∈ adapters, trimAscii adapter.idPath = lock.idPath → adapter.idPath = lock.idPath

/-- Unless some adapter has the path of the lock, none without a path is related to it. -/
def NoHiddenRelative (adapters : List AdapterIdentity) (lock : AdapterIdentityLock) : Prop :=
  (∀ adapter ∈ adapters, adapter.idPath ≠ lock.idPath) →
    ∀ adapter ∈ adapters, trimAscii adapter.idPath = [] → ¬Related lock adapter

section

variable {adapters : List AdapterIdentity} {lock : AdapterIdentityLock}

theorem filter_idPath_eq_nil_iff :
    (adapters.filter fun identity => identity.idPath = lock.idPath) = [] ↔
      ∀ adapter ∈ adapters, adapter.idPath ≠ lock.idPath := by
  simp [List.filter_eq_nil_iff]

/-- Without padded paths both sides look at the same adapters. -/
theorem NoPaddedPath.filter_eq (h : NoPaddedPath adapters lock) (hlock : NormalLock lock) :
    (adapters.filter fun identity => trimAscii identity.idPath = lock.idPath) =
      adapters.filter fun identity => identity.idPath = lock.idPath := by
  refine List.filter_congr fun adapter hadapter => decide_eq_decide.mpr ⟨h adapter hadapter, ?_⟩
  intro hpath
  rw [hpath, hlock.idPath_trimmed]

/-- If both sides match the lock, no path is padded: the one adapter the server sees is the
one the daemon sees. -/
theorem noPaddedPath_of_matched (hlock : NormalLock lock) {adapter found : AdapterIdentity}
    (hserver : (adapters.filter fun identity => trimAscii identity.idPath = lock.idPath) = [adapter])
    (hdaemon : (adapters.filter fun identity => identity.idPath = lock.idPath) = [found]) :
    NoPaddedPath adapters lock := by
  have halike : ∀ other, other ∈ adapters ∧ trimAscii other.idPath = lock.idPath ↔ other = adapter := by
    intro other
    have hmem : other ∈ adapters.filter (fun identity => trimAscii identity.idPath = lock.idPath) ↔
        other ∈ [adapter] := by rw [hserver]
    rwa [List.mem_filter, decide_eq_true_eq, List.mem_singleton] at hmem
  have hfound : found ∈ adapters ∧ found.idPath = lock.idPath := by
    have hmem : found ∈ [found] := List.mem_singleton_self found
    rwa [← hdaemon, List.mem_filter, decide_eq_true_eq] at hmem
  have hsame : found = adapter := by
    refine (halike found).mp ⟨hfound.1, ?_⟩
    rw [hfound.2, hlock.idPath_trimmed]
  intro other hother hpath
  rw [(halike other).mp ⟨hother, hpath⟩, ← hsame]
  exact hfound.2

end

theorem DerivedLockState.toDaemon_eq_iff {derived : DerivedLockState} {state : AdapterLockState}
    (hstate : state = .matched ∨ state = .missing ∨ state = .mismatch) :
    derived.toDaemon = state ↔
      (derived = .matched ↔ state = .matched) ∧ (derived = .missing ↔ state = .missing) := by
  obtain rfl | rfl | rfl := hstate <;> cases derived <;> simp [toDaemon]

/-- An Ethernet interface with a permanent MAC address and the given path. -/
def etherEntry (name idPath mac : String) : SysfsEntry where
  name := ascii name
  type := some (ascii "1\n")
  idPath := ascii idPath
  permAddress := some (ascii mac)

/-- A lock on a path and a MAC address. -/
def macLock (idPath mac : String) : JsValue :=
  (Document.record (lockFields (js idPath) (some (js mac)) none none none)).toJs

/-- An adapter that was moved to another path. -/
def movedAdapter : AdapterIdentity where
  interfaceName := ascii "eth1"
  idPath := ascii "pci-1"
  permanentMac := some (ascii "02:00:00:00:00:0a")
  ethernet := true

end EcSystemCore.Web
