import EcSystemCore.Web.AdapterLocks
import EcSystemCore.Web.Mutations

/-!
# Locks that requests store

`#lockAdapter` takes the adapter of the given name from `#listAdapters` and stores its
identity as the lock of a mapping.  It looks at no other adapter, so that the daemon, which
insists that only one adapter has the path of a lock, may reject what has just been stored
(`ambiguous_lock_stored`).  The daemon matches the stored lock to the chosen adapter exactly
if no other adapter has its path and that path needed no trimming
(`lock_request_matched_iff`).
-/

namespace EcSystemCore.Web

open Checks AdapterLockIdentity

/-! ### The list of adapters -/

/-- What `#listAdapters` reads of a bus. -/
structure BusInfo where
  logicalName : JsString
  identity : Option AdapterLockIdentity
  deriving DecidableEq

/-- The adapter that `#listAdapters` shows for a mapping. -/
def observedFor (discovered : List ObservedAdapter) (mapping : InterfaceMapping) :
    Option ObservedAdapter :=
  let named := discovered.find? fun item => item.name = mapping.physicalInterface
  match mapping.lock with
  | none => named
  | some lock =>
    match discovered.filter fun item => item.identity.map (·.idPath) = some lock.idPath with
    | [item] => some item
    | [] => named
    | _ => none

/-- What `#listAdapters` shows for a mapping. -/
def mappingInfo (discovered : List ObservedAdapter) (buses : List BusInfo)
    (mapping : InterfaceMapping) : AdapterInfo :=
  let observed := observedFor discovered mapping
  let bus := buses.find? fun bus => bus.logicalName = mapping.logicalName
  { name := (observed.map (·.name)).getD mapping.physicalInterface
    detected := observed.isSome
    identity := (observed.bind (·.identity)).or (bus.bind (·.identity)) }

/-- `#listAdapters`: the mappings, then the adapters that no mapping shows.  Nothing is
discovered if the directory of the interfaces cannot be read. -/
def listAdapters (config : ConfigurationConfig) (buses : List BusInfo) :
    Option (List ObservedAdapter) → List AdapterInfo
  | none => config.interfaceMappings.map fun mapping => ⟨mapping.physicalInterface, false, none⟩
  | some discovered =>
    let consumed := config.interfaceMappings.filterMap fun mapping =>
      (observedFor discovered mapping).map (·.name)
    config.interfaceMappings.map (mappingInfo discovered buses) ++
      (discovered.filter fun adapter => adapter.name ∉ consumed ∧
        ¬(adapter.name ∈ restrictedInterfaces ∧ config.allowRestrictedInterfaces = false)).map
      fun adapter => ⟨adapter.name, true, adapter.identity⟩

theorem mem_of_observedFor {discovered : List ObservedAdapter} {mapping : InterfaceMapping}
    {item : ObservedAdapter} (h : observedFor discovered mapping = some item) :
    item ∈ discovered := by
  unfold observedFor at h
  dsimp only at h
  split at h
  · exact List.mem_of_find?_eq_some h
  · split at h
    · rename_i found hfilter
      cases h
      have hmem : item ∈ [item] := List.mem_singleton_self item
      rw [← hfilter] at hmem
      exact List.mem_of_mem_filter hmem
    · exact List.mem_of_find?_eq_some h
    · cases h

/-- A detected adapter in the list is a discovered one, and shows its identity if it has
one. -/
theorem exists_discovered_of_mem {config : ConfigurationConfig} {buses : List BusInfo}
    {discovered : List ObservedAdapter} {item : AdapterInfo}
    (hitem : item ∈ listAdapters config buses (some discovered)) (hdetected : item.detected = true) :
    ∃ adapter ∈ discovered, item.name = adapter.name ∧
      ∀ identity, adapter.identity = some identity → item.identity = some identity := by
  obtain hitem | hitem := List.mem_append.mp hitem
  · obtain ⟨mapping, -, rfl⟩ := List.mem_map.mp hitem
    obtain ⟨adapter, hadapter⟩ := Option.isSome_iff_exists.mp hdetected
    refine ⟨adapter, mem_of_observedFor hadapter, ?_, fun identity hidentity => ?_⟩
    · simp [mappingInfo, hadapter]
    · simp [mappingInfo, hadapter, hidentity]
  · obtain ⟨adapter, hadapter, rfl⟩ := List.mem_map.mp hitem
    exact ⟨adapter, List.mem_of_mem_filter hadapter, rfl, fun identity hidentity => hidentity⟩

/-! ### Validating a configuration again -/

theorem property_mappingFields (mapping : InterfaceMapping) :
    property (recordProperties mapping.fields) "logical_name" = .string mapping.logicalName ∧
      property (recordProperties mapping.fields) "lock" =
        optionalJs (mapping.lock.map fun lock => .record lock.fields) := by
  unfold InterfaceMapping.fields
  simp +decide only [property_cons, property_nil, if_true, if_false, elim_undefined,
    Option.elim_some, Document.toJs]

theorem optional_object {α : Type} (properties : List (JsString × JsValue))
    (validate : JsValue → Except JsString α) :
    optional (.object properties) validate = (validate (.object properties)).map some := rfl

/-- What a second validation keeps of a mapping: its name but for white space, and a lock
that has been validated again. -/
structure Revalidated (mapping mapping' : InterfaceMapping) : Prop where
  logicalName : mapping'.logicalName = trim mapping.logicalName
  lock : ∀ lock, mapping.lock = some lock → ∃ field lock',
    validateAdapterLock (Document.record lock.fields).toJs field = .ok lock' ∧
      mapping'.lock = some lock'

theorem revalidated_of_validateMapping {mapping mapping' : InterfaceMapping} {index : ℕ}
    {allowRestricted : Bool}
    (h : validateMapping (Document.record mapping.fields).toJs index allowRestricted =
      .ok mapping') : Revalidated mapping mapping' := by
  obtain ⟨hname, hlock⟩ := property_mappingFields mapping
  rw [toJs_record] at h
  unfold validateMapping at h
  obtain ⟨properties, hproperties, h⟩ := bind_eq_ok_iff.mp h
  cases hproperties
  obtain ⟨-, -, h⟩ := bind_eq_ok_iff.mp h
  obtain ⟨rawName, hrawName, h⟩ := bind_eq_ok_iff.mp h
  obtain ⟨-, h⟩ := check_bind_eq_ok_iff.mp h
  obtain ⟨rawInterface, -, h⟩ := bind_eq_ok_iff.mp h
  obtain ⟨-, h⟩ := check_bind_eq_ok_iff.mp h
  obtain ⟨-, h⟩ := check_bind_eq_ok_iff.mp h
  obtain ⟨enabled, -, h⟩ := bind_eq_ok_iff.mp h
  obtain ⟨lock', hlock', h⟩ := bind_eq_ok_iff.mp h
  obtain ⟨ioMap, -, h⟩ := bind_eq_ok_iff.mp h
  obtain ⟨clock, -, h⟩ := bind_eq_ok_iff.mp h
  obtain ⟨shift, -, h⟩ := bind_eq_ok_iff.mp h
  obtain ⟨topology, -, h⟩ := bind_eq_ok_iff.mp h
  obtain ⟨subDevices, -, h⟩ := bind_eq_ok_iff.mp h
  cases h
  rw [hname] at hrawName
  obtain ⟨hstring, -⟩ := requireString_eq_ok_iff.mp hrawName
  cases hstring
  refine ⟨rfl, fun lock hsome => ?_⟩
  rw [hlock, hsome, Option.map_some, optionalJs, toJs_record, optional_object] at hlock'
  obtain ⟨validated, hvalidated, rfl⟩ := map_eq_ok_iff.mp hlock'
  refine ⟨elementField (js "interface_mappings") index ++ js ".lock", validated, ?_, ?_⟩
  · rw [toJs_record]
    exact hvalidated
  · rfl

/-- A loop over the elements and their positions. -/
theorem forall₂_of_mapM_zipIdx {ε α β : Type} {f : α → ℕ → Except ε β} {items : List α}
    {values : List β} {start : ℕ}
    (h : (items.zipIdx start).mapM (fun (item, index) => f item index) = .ok values) :
    List.Forall₂ (fun item value => ∃ index, f item index = .ok value) items values := by
  have hall := mapM_eq_ok_iff.mp h
  clear h
  induction items generalizing start values with
  | nil =>
    cases hall
    exact .nil
  | cons item items ih =>
    cases hall with
    | cons hitem hitems => exact .cons ⟨start, hitem⟩ (ih hitems)

/-- The names that have passed the loop are distinct. -/
theorem nodup_of_rejectDuplicates {mappings : List InterfaceMapping}
    {logicalNames physicalNames : List JsString}
    (h : rejectDuplicates mappings logicalNames physicalNames = .ok ()) :
    (∀ mapping ∈ mappings, mapping.logicalName ∉ logicalNames) ∧
      (mappings.map (·.logicalName)).Nodup := by
  induction mappings generalizing logicalNames physicalNames with
  | nil => exact ⟨List.forall_mem_nil _, List.nodup_nil⟩
  | cons mapping mappings ih =>
    obtain ⟨hnew, h⟩ := check_bind_eq_ok_iff.mp h
    obtain ⟨-, h⟩ := check_bind_eq_ok_iff.mp h
    obtain ⟨hrest, hnodup⟩ := ih h
    refine ⟨?_, ?_⟩
    · intro other hother
      obtain rfl | hother := List.mem_cons.mp hother
      · exact hnew
      · exact fun hmem => hrest other hother (List.mem_cons_of_mem _ hmem)
    · refine List.nodup_cons.mpr ⟨?_, hnodup⟩
      intro hmem
      obtain ⟨other, hother, hname⟩ := List.mem_map.mp hmem
      exact hrest other hother (by rw [hname]; exact List.mem_cons_self)

theorem itemsToJs_eq_map (items : List Document) :
    Document.itemsToJs items = items.map Document.toJs := by
  induction items with
  | nil => rfl
  | cons item items ih => rw [Document.itemsToJs, ih, List.map_cons]

theorem property_interfaceMappings (config : ConfigurationConfig) :
    property (recordProperties config.fields) "interface_mappings" =
      .array (config.interfaceMappings.map fun mapping =>
        (Document.record mapping.fields).toJs) := by
  unfold ConfigurationConfig.fields
  simp +decide only [property_cons, property_nil, if_true, if_false, Option.elim_some,
    Document.toJs, itemsToJs_eq_map, List.map_map]
  rfl

/-- A second validation goes through the mappings one by one. -/
theorem mappings_of_revalidate {config config' : ConfigurationConfig}
    (h : config.revalidate = .ok config') :
    List.Forall₂ Revalidated config.interfaceMappings config'.interfaceMappings ∧
      (config'.interfaceMappings.map (·.logicalName)).Nodup := by
  unfold ConfigurationConfig.revalidate ConfigurationConfig.document at h
  rw [toJs_record] at h
  unfold validateConfig at h
  obtain ⟨properties, hproperties, h⟩ := bind_eq_ok_iff.mp h
  cases hproperties
  obtain ⟨-, -, h⟩ := bind_eq_ok_iff.mp h
  obtain ⟨allowRestricted, -, h⟩ := bind_eq_ok_iff.mp h
  obtain ⟨items, hitems, h⟩ := bind_eq_ok_iff.mp h
  obtain ⟨mappings, hmappings, h⟩ := bind_eq_ok_iff.mp h
  obtain ⟨⟨⟩, hduplicates, h⟩ := bind_eq_ok_iff.mp h
  obtain ⟨logDirectory, -, h⟩ := bind_eq_ok_iff.mp h
  obtain ⟨-, h⟩ := check_bind_eq_ok_iff.mp h
  obtain ⟨-, h⟩ := check_bind_eq_ok_iff.mp h
  obtain ⟨heartbeat, -, h⟩ := bind_eq_ok_iff.mp h
  obtain ⟨cycle, -, h⟩ := bind_eq_ok_iff.mp h
  obtain ⟨command, -, h⟩ := bind_eq_ok_iff.mp h
  obtain ⟨-, h⟩ := check_bind_eq_ok_iff.mp h
  obtain ⟨logCount, -, h⟩ := bind_eq_ok_iff.mp h
  obtain ⟨freeSpace, -, h⟩ := bind_eq_ok_iff.mp h
  obtain ⟨group, -, h⟩ := bind_eq_ok_iff.mp h
  obtain ⟨uids, -, h⟩ := bind_eq_ok_iff.mp h
  obtain ⟨gids, -, h⟩ := bind_eq_ok_iff.mp h
  obtain ⟨-, h⟩ := check_bind_eq_ok_iff.mp h
  obtain ⟨memoryLock, -, h⟩ := bind_eq_ok_iff.mp h
  obtain ⟨fifo, -, h⟩ := bind_eq_ok_iff.mp h
  obtain ⟨priority, -, h⟩ := bind_eq_ok_iff.mp h
  obtain ⟨cpu, -, h⟩ := bind_eq_ok_iff.mp h
  cases h
  refine ⟨?_, (nodup_of_rejectDuplicates hduplicates).2⟩
  rw [property_interfaceMappings, rawMappings] at hitems
  split at hitems
  · cases hitems
  · cases hitems
    have hall := @forall₂_of_mapM_zipIdx _ _ _
      (fun item index => validateMapping item index allowRestricted) _ _ 0 hmappings
    rw [List.forall₂_map_left_iff] at hall
    refine hall.imp fun mapping mapping' ⟨index, hindex⟩ => ?_
    exact revalidated_of_validateMapping hindex

theorem fields_ofDaemon (lock : AdapterIdentityLock) :
    (ofDaemon lock).fields = lockFields (units lock.idPath) (lock.permanentMac.map units)
      (lock.usbSerial.map units) (lock.usbVendorId.map units) (lock.usbProductId.map units) := rfl

/-- A lock in normal form survives a second validation. -/
theorem validateAdapterLock_ofDaemon {lock : AdapterIdentityLock} (hlock : NormalLock lock)
    (field : JsString) :
    validateAdapterLock (Document.record (ofDaemon lock).fields).toJs field =
      .ok (ofDaemon lock) := by
  have hagain := validateAdapterLock_lockFields hlock.idPath_length hlock.idPath_printable
    (by rw [hlock.idPath_trimmed]; exact hlock.idPath_ne) hlock.permanentMac hlock.usbSerial
    hlock.usbVendorId hlock.usbProductId (.inl rfl) field
  rw [hlock.idPath_trimmed] at hagain
  rw [fields_ofDaemon]
  exact hagain

/-! ### What a request stores -/

/-- The lock a configuration has for a mapping. -/
def storedIdentity (config : ConfigurationConfig) (logicalName : JsString) :
    Option AdapterLockIdentity :=
  (config.interfaceMappings.find? fun mapping => mapping.logicalName = trim logicalName).bind
    (·.lock)

/-- A mapping that a validation has changed is found under its trimmed name. -/
theorem exists_revalidated {config config' : ConfigurationConfig} {mapping : InterfaceMapping}
    (h : config.revalidate = .ok config') (hmapping : mapping ∈ config.interfaceMappings) :
    ∃ mapping' ∈ config'.interfaceMappings, Revalidated mapping mapping' := by
  obtain ⟨hall, -⟩ := mappings_of_revalidate h
  obtain ⟨i, hi, rfl⟩ := List.getElem_of_mem hmapping
  have hi' : i < config'.interfaceMappings.length := by
    rw [← hall.length_eq]
    exact hi
  exact ⟨config'.interfaceMappings[i], List.getElem_mem hi', hall.get hi hi'⟩

/-- The mapping a lock request builds. -/
theorem exists_lockedMapping (mappings : List InterfaceMapping)
    (logicalName physicalInterface : JsString) (identity : AdapterLockIdentity) :
    ∃ mapping ∈ lockedMappings mappings logicalName physicalInterface identity,
      mapping.logicalName = logicalName ∧ mapping.lock = some identity := by
  unfold lockedMappings
  cases hchange : changeMapping logicalName (fun mapping => { mapping with
      physicalInterface := physicalInterface, lock := some identity, enabled := true }) mappings with
  | none => exact ⟨_, List.mem_append_right _ (List.mem_singleton_self _), rfl, rfl⟩
  | some changed =>
    rw [Option.getD_some]
    induction mappings generalizing changed with
    | nil => cases hchange
    | cons mapping mappings ih =>
      rw [changeMapping] at hchange
      split at hchange
      · rename_i hname
        cases hchange
        exact ⟨_, List.mem_cons_self, hname, rfl⟩
      · obtain ⟨rest, hrest, rfl⟩ := Option.map_eq_some_iff.mp hchange
        obtain ⟨found, hfound, hprops⟩ := ih rest hrest
        exact ⟨found, List.mem_cons_of_mem _ hfound, hprops⟩

/-- What a successful lock request has stored: the identity of the adapter it found, which
the first of two validations has brought into normal form. -/
theorem storedIdentity_of_serve {config stored : ConfigurationConfig} {adapters : List AdapterInfo}
    {logicalName physicalInterface confirmation : JsString}
    (h : serve config (.lock logicalName physicalInterface confirmation, adapters) = .ok stored) :
    ∃ item ∈ adapters, item.detected = true ∧ item.name = physicalInterface ∧
      ∃ identity, item.identity = some identity ∧ ∃ field normal,
        validateAdapterLock (Document.record identity.fields).toJs field = .ok (ofDaemon normal) ∧
          NormalLock normal ∧ storedIdentity stored logicalName = some (ofDaemon normal) := by
  obtain ⟨next, hnext, hwrite⟩ := bind_eq_ok_iff.mp h
  change lockAdapter config adapters logicalName physicalInterface confirmation = .ok next at hnext
  unfold lockAdapter at hnext
  split at hnext
  · cases hnext
  rename_i identity hfound
  obtain ⟨item, hitem, hidentity⟩ := Option.bind_eq_some_iff.mp hfound
  have hselected := List.find?_some hitem
  rw [Bool.and_eq_true, decide_eq_true_eq] at hselected
  obtain ⟨-, hnext⟩ := check_bind_eq_ok_iff.mp hnext
  refine ⟨item, List.mem_of_find?_eq_some hitem, hselected.1, hselected.2, identity, hidentity, ?_⟩
  -- The mapping through the two validations.
  obtain ⟨mapping, hmapping, hname, hlock⟩ := exists_lockedMapping config.interfaceMappings
    logicalName physicalInterface identity
  obtain ⟨mapping₁, hmapping₁, hrevalidated₁⟩ := exists_revalidated hnext hmapping
  obtain ⟨mapping₂, hmapping₂, hrevalidated₂⟩ := exists_revalidated hwrite hmapping₁
  obtain ⟨field, lock₁, hvalid₁, hlock₁⟩ := hrevalidated₁.lock identity hlock
  obtain ⟨normal, hnormal, rfl⟩ := exists_normal_of_validateAdapterLock hvalid₁
  obtain ⟨field₂, lock₂, hvalid₂, hlock₂⟩ := hrevalidated₂.lock _ hlock₁
  rw [validateAdapterLock_ofDaemon hnormal] at hvalid₂
  cases hvalid₂
  refine ⟨field, normal, hvalid₁, hnormal, ?_⟩
  have hname₂ : mapping₂.logicalName = trim logicalName := by
    rw [hrevalidated₂.logicalName, hrevalidated₁.logicalName, hname, trim_idem]
  have hfind := (Keyed.find?_eq_some_iff (mappings_of_revalidate hwrite).2).mpr ⟨hmapping₂, hname₂⟩
  unfold storedIdentity
  rw [hfind]
  exact hlock₂

section

variable {adapters : List AdapterIdentity} (hnames : (adapters.map (·.interfaceName)).Nodup)
  (hreported : ∀ adapter ∈ adapters, Reported adapter)
include hnames hreported

/-- **The daemon matches a stored lock to the adapter for which it was requested exactly if
that adapter has a path without white space around it, and no other adapter has it.** -/
theorem lock_request_matched_iff {config stored : ConfigurationConfig} {buses : List BusInfo}
    {logicalName confirmation : JsString} {name : Bytes} {identity : AdapterLockIdentity}
    (hserved : serve config (.lock logicalName (units name) confirmation,
      listAdapters config buses (some (adapters.map observe))) = .ok stored)
    (hstored : storedIdentity stored logicalName = some identity) :
    ((resolveAdapter adapters name (some identity.toDaemon) false).state = .matched ∧
        (resolveAdapter adapters name (some identity.toDaemon) false).identity.map
          (·.interfaceName) = some name) ↔
      ∃ adapter ∈ adapters, adapter.interfaceName = name ∧ adapter.idPath ≠ [] ∧
        trimAscii adapter.idPath = adapter.idPath ∧
        ∀ other ∈ adapters, other.idPath = adapter.idPath → other = adapter := by
  obtain ⟨item, hitem, hdetected, hname, observed, hobserved, field, normal, hvalid, hnormal,
    hnormalStored⟩ := storedIdentity_of_serve hserved
  cases hstored.symm.trans hnormalStored
  rw [toDaemon_ofDaemon]
  constructor
  · rintro ⟨hstate, hidentity⟩
    obtain ⟨adapter, hadapter, hinterface⟩ := Option.map_eq_some_iff.mp hidentity
    obtain ⟨honly, -⟩ :=
      (resolveAdapter_matched_iff hnames hnormal.accepted name adapter).mp ⟨hstate, hadapter⟩
    refine ⟨adapter, honly.mem, hinterface, ?_, ?_, ?_⟩
    · rw [honly.idPath]
      exact hnormal.idPath_ne
    · rw [honly.idPath]
      exact hnormal.idPath_trimmed
    · intro other hother hpath
      exact honly.only other hother (hpath.trans honly.idPath)
  · rintro ⟨adapter, hadapter, hinterface, hne, htrimmed, honly⟩
    -- The adapter the request found is this one, and shows the daemon's values.
    obtain ⟨_, hshown, hfoundName, hfoundIdentity⟩ := exists_discovered_of_mem hitem hdetected
    obtain ⟨found, hfound, rfl⟩ := List.mem_map.mp hshown
    have hsame : found = adapter := by
      refine List.inj_on_of_nodup_map hnames hfound hadapter ?_
      rw [hinterface]
      exact units_inj.mp (hfoundName.symm.trans hname)
    subst hsame
    have hidentity := identity_observe_of_reported (hreported found hfound)
    rw [htrimmed, if_neg hne] at hidentity
    have hobserved' := hobserved.symm.trans (hfoundIdentity _ hidentity)
    cases hobserved'
    obtain ⟨scanned, hscanned⟩ := (hreported found hfound).exists_scannedAdapter
    have hvalues : NormalLock ⟨found.idPath, found.permanentMac, found.usbSerial,
        found.usbVendorId, found.usbProductId⟩ := by
      subst hscanned
      obtain ⟨hlength, hprintable⟩ := scanned.idPath_valid hne
      exact ⟨hne, hlength, hprintable, htrimmed, scanned.permanentMac_normal,
        scanned.usbSerial_valid, scanned.usbVendorId_normal, scanned.usbProductId_normal⟩
    rw [validateAdapterLock_ofDaemon hvalues] at hvalid
    have hlock := congrArg toDaemon (Except.ok.inj hvalid)
    rw [toDaemon_ofDaemon, toDaemon_ofDaemon] at hlock
    subst hlock
    have hmatched := (resolveAdapter_matched_iff hnames hnormal.accepted name found).mpr
      ⟨⟨hfound, rfl, honly⟩, ⟨fun mac h => ⟨mac, hvalues.permanentMac mac h, h⟩,
        fun serial h => h, fun vendor h => ⟨vendor, hvalues.usbVendorId vendor h, h⟩,
        fun product h => ⟨product, hvalues.usbProductId product h, h⟩⟩⟩
    exact ⟨hmatched.1, by rw [hmatched.2]; exact congrArg some hinterface⟩

end

/-! ### Two adapters with one path -/

/-- An adapter with a path and nothing else. -/
def pathAdapter (name idPath : String) : AdapterIdentity where
  interfaceName := ascii name
  idPath := ascii idPath
  ethernet := true

/-- The default configuration with one mapping locked to a path. -/
def lockedConfig : ConfigurationConfig :=
  { interfaceMappings := [lockedMapping "a" "eth1" "p"] }

/-- The request to lock the adapter `eth1`, if these are the adapters. -/
def lockFirst (adapters : List AdapterIdentity) : AdapterRequest × List AdapterInfo :=
  (.lock (js "a") (units (ascii "eth1")) (js "LOCK:a:p:"),
    listAdapters {} [] (some (adapters.map observe)))

/-- The request is served, whether or not a second adapter has the same path. -/
theorem serve_lockFirst :
    serve {} (lockFirst [pathAdapter "eth1" "p"]) = .ok lockedConfig ∧
      serve {} (lockFirst [pathAdapter "eth1" "p", pathAdapter "eth2" "p"]) = .ok lockedConfig ∧
      storedIdentity lockedConfig (js "a") = some { idPath := js "p" } ∧
      (SysfsEntry.scan { name := ascii "eth1", type := some (ascii "1"), idPath := ascii "p" } =
        some (pathAdapter "eth1" "p")) ∧
      SysfsEntry.scan { name := ascii "eth2", type := some (ascii "1"), idPath := ascii "p" } =
        some (pathAdapter "eth2" "p") := by
  decide +kernel

theorem lock_request_matched_iff_single :
    (resolveAdapter [pathAdapter "eth1" "p"] (ascii "eth1")
      (some (toDaemon { idPath := js "p" })) false).state = .matched := by
  obtain ⟨hserved, -, hstored, hscan, -⟩ := serve_lockFirst
  refine ((lock_request_matched_iff (by decide) ?_ hserved hstored).mpr ?_).1
  · intro adapter hadapter
    rw [List.mem_singleton.mp hadapter]
    exact ⟨_, hscan⟩
  · refine ⟨_, List.mem_singleton_self _, rfl, by decide, by decide, ?_⟩
    intro other hother _
    exact List.mem_singleton.mp hother

/-- **A lock is stored that the daemon does not match to the adapter it was requested
for: another adapter has the same path.** -/
theorem ambiguous_lock_stored :
    (∀ adapter ∈ [pathAdapter "eth1" "p", pathAdapter "eth2" "p"], Reported adapter) ∧
      ∃ stored, serve {} (lockFirst [pathAdapter "eth1" "p", pathAdapter "eth2" "p"]) = .ok stored ∧
        ∃ identity, storedIdentity stored (js "a") = some identity ∧
          (resolveAdapter [pathAdapter "eth1" "p", pathAdapter "eth2" "p"] (ascii "eth1")
            (some identity.toDaemon) false).state = .mismatch := by
  obtain ⟨-, hserved, hstored, hfirst, hsecond⟩ := serve_lockFirst
  refine ⟨?_, lockedConfig, hserved, { idPath := js "p" }, hstored, by decide⟩
  intro adapter hadapter
  obtain rfl | hadapter := List.mem_cons.mp hadapter
  · exact ⟨_, hfirst⟩
  · rw [List.mem_singleton.mp hadapter]
    exact ⟨_, hsecond⟩

end EcSystemCore.Web
