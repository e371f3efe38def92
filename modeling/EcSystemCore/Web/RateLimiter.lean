import Mathlib.Data.Fintype.Card
import EcSystemCore.Lib.Execution
import EcSystemCore.Lib.Keyed

/-!
# The rate limiter of the configuration server

`FixedWindowRateLimiter` counts the calls of a key from the start of its window.  A full table
forgets windows, expired ones first (`prune`).  A key's budget holds as long as no live window is
forgotten, and that takes more keys in one span than the table has room for (`mem_retained`).
-/

namespace EcSystemCore.Web

open Execution Keyed

/-- An entry of the limiter. -/
structure Window where
  count : ℕ
  startedAt : ℤ
  deriving DecidableEq, Repr

/-- The parameters of a `FixedWindowRateLimiter`. -/
structure FixedWindowRateLimiter where
  limit : ℕ
  windowMs : ℤ
  maximumEntries : ℕ := 2048
  deriving DecidableEq, Repr

namespace FixedWindowRateLimiter

variable {κ : Type}

/-- `#entries`, in the order of insertion. -/
abbrev Entries (κ : Type) := List (κ × Window)

/-- The second loop of `prune`: the oldest entries go until there is room. -/
def evict (maximumEntries : ℕ) : Entries κ → Entries κ
  | [] => []
  | entry :: entries =>
    if entries.length + 1 ≥ maximumEntries then evict maximumEntries entries else entry :: entries

/-- The window has passed. -/
def expired (limiter : FixedWindowRateLimiter) (now : ℤ) (window : Window) : Bool :=
  now - window.startedAt ≥ limiter.windowMs

/-- `prune`. -/
def prune (limiter : FixedWindowRateLimiter) (entries : Entries κ) (now : ℤ) : Entries κ :=
  evict limiter.maximumEntries (entries.filter fun entry => !limiter.expired now entry.2)

/-- What is in the table when a window is about to start. -/
def retained (limiter : FixedWindowRateLimiter) (entries : Entries κ) (now : ℤ) : Entries κ :=
  if entries.length ≥ limiter.maximumEntries then limiter.prune entries now else entries

variable [DecidableEq κ]

/-- `Map.prototype.set`: a present key keeps its place. -/
def setEntry (entries : Entries κ) (key : κ) (window : Window) : Entries κ :=
  if (get entries key).isSome then
    entries.map fun entry => if entry.1 = key then (key, window) else entry
  else entries ++ [(key, window)]

/-- The call starts a window of its key. -/
def starts (limiter : FixedWindowRateLimiter) (entries : Entries κ) (call : κ × ℤ) : Bool :=
  (get entries call.1).all (limiter.expired call.2)

/-- `allow`. -/
def allow (limiter : FixedWindowRateLimiter) (entries : Entries κ) (call : κ × ℤ) :
    Bool × Entries κ :=
  let (key, now) := call
  match get entries key with
  | none => (true, setEntry (limiter.retained entries now) key ⟨1, now⟩)
  | some existing =>
    if limiter.expired now existing then
      (true, setEntry (limiter.retained entries now) key ⟨1, now⟩)
    else if existing.count ≥ limiter.limit then (false, entries)
    else (true, setEntry entries key { existing with count := existing.count + 1 })

/-! ### Entries -/

section Entries

variable {entries : Entries κ} {key : κ} {window : Window}

theorem mem_setEntry {entry : κ × Window} :
    entry ∈ setEntry entries key window ↔
      entry = (key, window) ∨ entry ∈ entries ∧ entry.1 ≠ key := by
  unfold setEntry
  split_ifs with hpresent
  · obtain ⟨found, hfound⟩ := Option.isSome_iff_exists.mp hpresent
    obtain ⟨other, hother, -⟩ := Option.map_eq_some_iff.mp hfound
    have hsame : other.1 = key := by simpa using List.find?_some hother
    rw [List.mem_map]
    constructor
    · rintro ⟨old, hold, rfl⟩
      split_ifs with hkey
      · exact .inl rfl
      · exact .inr ⟨hold, hkey⟩
    · rintro (rfl | ⟨hentry, hother⟩)
      · exact ⟨other, List.mem_of_find?_eq_some hother, if_pos hsame⟩
      · exact ⟨entry, hentry, if_neg hother⟩
  · have hnone := get_eq_none_iff.mp (Option.not_isSome_iff_eq_none.mp hpresent)
    rw [List.mem_append, List.mem_singleton]
    exact ⟨fun h => h.symm.imp_right fun hentry => ⟨hentry, hnone entry hentry⟩,
      fun h => h.symm.imp_left And.left⟩

theorem length_setEntry_le {bound : ℕ} (hlength : entries.length ≤ bound)
    (habsent : get entries key = none → entries.length < bound) :
    (setEntry entries key window).length ≤ bound := by
  unfold setEntry
  split_ifs with hpresent
  · rwa [List.length_map]
  · rw [List.length_append]
    exact habsent (Option.not_isSome_iff_eq_none.mp hpresent)

theorem nodup_setEntry (h : (entries.map Prod.fst).Nodup) :
    ((setEntry entries key window).map Prod.fst).Nodup := by
  unfold setEntry
  split_ifs with hpresent
  · have hkeys : (entries.map fun entry => if entry.1 = key then (key, window) else entry).map
        Prod.fst = entries.map Prod.fst := by
      rw [List.map_map]
      refine List.map_congr_left fun entry _ => ?_
      by_cases hsame : entry.1 = key <;> simp [hsame]
    rwa [hkeys]
  · have hnone := get_eq_none_iff.mp (Option.not_isSome_iff_eq_none.mp hpresent)
    rw [List.map_append]
    refine List.nodup_append'.mpr ⟨h, List.nodup_singleton _, fun other hother hsame => ?_⟩
    obtain ⟨entry, hentry, rfl⟩ := List.mem_map.mp hother
    exact hnone entry hentry (List.mem_singleton.mp hsame)

omit [DecidableEq κ] in
theorem evict_eq_self {maximumEntries : ℕ} (h : entries.length < maximumEntries) :
    evict maximumEntries entries = entries := by
  cases entries with
  | nil => rfl
  | cons entry entries => exact if_neg (Nat.not_le.mpr h)

omit [DecidableEq κ] in
theorem evict_spec {maximumEntries : ℕ} (hroom : 1 ≤ maximumEntries) :
    (evict maximumEntries entries).Sublist entries ∧
      (evict maximumEntries entries).length < maximumEntries := by
  induction entries with
  | nil => exact ⟨List.Sublist.refl _, hroom⟩
  | cons entry entries ih =>
    unfold evict
    split_ifs with hfull
    · exact ⟨ih.1.trans (List.sublist_cons_self _ _), ih.2⟩
    · exact ⟨List.Sublist.refl _, Nat.not_le.mp hfull⟩

end Entries

/-! ### Runs -/

section Runs

variable {limiter : FixedWindowRateLimiter} {entries : Entries κ} {past : List (κ × ℤ)}

/-- The three outcomes of `allow`. -/
theorem allow_cases (limiter : FixedWindowRateLimiter) (entries : Entries κ) (key : κ) (now : ℤ) :
    limiter.starts entries (key, now) = true ∧ limiter.allow entries (key, now) =
        (true, setEntry (limiter.retained entries now) key ⟨1, now⟩) ∨
      ∃ existing, get entries key = some existing ∧ now < existing.startedAt + limiter.windowMs ∧
        (limiter.limit ≤ existing.count ∧ limiter.allow entries (key, now) = (false, entries) ∨
          existing.count < limiter.limit ∧ limiter.allow entries (key, now) =
            (true, setEntry entries key { existing with count := existing.count + 1 })) := by
  unfold allow starts
  dsimp only
  cases hget : get entries key with
  | none => exact .inl ⟨rfl, rfl⟩
  | some existing =>
    dsimp only
    split_ifs with hexpired hcount
    · exact .inl ⟨hexpired, rfl⟩
    · refine .inr ⟨existing, rfl, ?_, .inl ⟨hcount, rfl⟩⟩
      simp only [expired, decide_eq_true_eq] at hexpired
      omega
    · refine .inr ⟨existing, rfl, ?_, .inr ⟨Nat.not_le.mp hcount, rfl⟩⟩
      simp only [expired, decide_eq_true_eq] at hexpired
      omega

/-- What the table is, after some calls: bounded, one entry for a key, which started at a call. -/
structure Tracks (limiter : FixedWindowRateLimiter) (past : List (κ × ℤ)) (entries : Entries κ) :
    Prop where
  bounded : entries.length ≤ limiter.maximumEntries
  nodup : (entries.map Prod.fst).Nodup
  started : ∀ entry ∈ entries, (entry.1, entry.2.startedAt) ∈ past

omit [DecidableEq κ] in
/-- What is retained has been there, and leaves room if the table was full. -/
theorem retained_spec (hroom : 1 ≤ limiter.maximumEntries) (entries : Entries κ) (now : ℤ) :
    (limiter.retained entries now).Sublist entries ∧
      (limiter.retained entries now).length < limiter.maximumEntries := by
  unfold retained
  split_ifs with hfull
  · exact ⟨(evict_spec hroom).1.trans List.filter_sublist, (evict_spec hroom).2⟩
  · exact ⟨List.Sublist.refl _, Nat.not_le.mp hfull⟩

theorem Tracks.allow (hroom : 1 ≤ limiter.maximumEntries) (h : limiter.Tracks past entries)
    (call : κ × ℤ) : limiter.Tracks (past ++ [call]) (limiter.allow entries call).2 := by
  obtain ⟨key, now⟩ := call
  obtain ⟨hbounded, hnodup, hstarted⟩ := h
  obtain ⟨-, hallow⟩ | ⟨existing, hget, -, ⟨-, hallow⟩ | ⟨-, hallow⟩⟩ :=
    allow_cases limiter entries key now
  all_goals rw [hallow]
  · obtain ⟨hsublist, hlength⟩ := limiter.retained_spec hroom entries now
    refine ⟨length_setEntry_le hlength.le fun _ => hlength, nodup_setEntry
      (hnodup.sublist (hsublist.map _)), fun entry hentry => ?_⟩
    obtain rfl | ⟨hentry, -⟩ := mem_setEntry.mp hentry
    · simp
    · exact List.mem_append_left _ (hstarted entry (hsublist.subset hentry))
  · exact ⟨hbounded, hnodup, fun entry hentry => List.mem_append_left _ (hstarted entry hentry)⟩
  · refine ⟨length_setEntry_le hbounded fun hnone => ?_, nodup_setEntry hnodup,
      fun entry hentry => List.mem_append_left _ ?_⟩
    · rw [hnone] at hget
      cases hget
    · obtain rfl | ⟨hentry, -⟩ := mem_setEntry.mp hentry
      · exact hstarted (key, existing) ((get_eq_some_iff hnodup).mp hget)
      · exact hstarted entry hentry

/-- At most `maximumEntries` keys are used in any span of a window. -/
def Loaded (limiter : FixedWindowRateLimiter) (calls : List (κ × ℤ)) : Prop :=
  ∀ t : ℤ, ((calls.filter fun call => t ≤ call.2 ∧ call.2 < t + limiter.windowMs).map
    Prod.fst).toFinset.card ≤ limiter.maximumEntries

/-- Under that load no live window is forgotten. -/
theorem mem_retained {calls : List (κ × ℤ)} {key : κ} {now : ℤ} (hload : limiter.Loaded calls)
    (h : limiter.Tracks past entries) (hpast : ∀ call ∈ past, call ∈ calls ∧ call.2 ≤ now)
    (hcall : (key, now) ∈ calls) (hwindow : 1 ≤ limiter.windowMs)
    (hstarts : limiter.starts entries (key, now) = true) {entry : κ × Window}
    (hentry : entry ∈ entries) (hlive : now < entry.2.startedAt + limiter.windowMs) :
    entry ∈ limiter.retained entries now := by
  have hlives : ∀ {window : Window}, (!limiter.expired now window) = true ↔
      now < window.startedAt + limiter.windowMs := by
    intro window
    simp only [expired, Bool.not_eq_true', decide_eq_false_iff_not]
    omega
  unfold retained
  split_ifs with hfull
  swap
  · exact hentry
  unfold prune
  set live := entries.filter fun entry => !limiter.expired now entry.2 with hset
  have hmem : ∀ {other}, other ∈ live ↔
      other ∈ entries ∧ now < other.2.startedAt + limiter.windowMs := by
    intro other
    rw [hset, List.mem_filter, hlives]
  have hnodup : (key :: live.map Prod.fst).Nodup := by
    refine List.nodup_cons.mpr ⟨fun hkey => ?_, nodup_keys_filter h.nodup _⟩
    obtain ⟨⟨_, window⟩, hother, rfl⟩ := List.mem_map.mp hkey
    obtain ⟨hother, hlive⟩ := hmem.mp hother
    unfold starts at hstarts
    rw [(get_eq_some_iff h.nodup).mpr hother, Option.all_some] at hstarts
    have := hlives.mpr hlive
    simp_all
  have hsubset : (key :: live.map Prod.fst).toFinset ⊆ ((calls.filter fun call =>
      now - limiter.windowMs + 1 ≤ call.2 ∧
        call.2 < now - limiter.windowMs + 1 + limiter.windowMs).map Prod.fst).toFinset := by
    intro other hother
    simp only [List.mem_toFinset, List.mem_cons, List.mem_map, List.mem_filter,
      decide_eq_true_eq] at hother ⊢
    obtain rfl | ⟨found, hfound, rfl⟩ := hother
    · exact ⟨(_, now), ⟨hcall, by omega⟩, rfl⟩
    · obtain ⟨hfound, hlive⟩ := hmem.mp hfound
      obtain ⟨hused, htime⟩ := hpast _ (h.started found hfound)
      exact ⟨_, ⟨hused, by omega⟩, rfl⟩
  have hcard := (Finset.card_le_card hsubset).trans (hload _)
  rw [List.toFinset_card_of_nodup hnodup, List.length_cons, List.length_map] at hcard
  rw [evict_eq_self hcard]
  exact hmem.mpr ⟨hentry, hlive⟩

/-- The calls of the key that are admitted before its window ends. -/
def admitted (limiter : FixedWindowRateLimiter) (key : κ) (start : ℤ)
    (answers : List ((κ × ℤ) × Bool)) : ℕ :=
  answers.countP fun answer =>
    answer.1.1 = key ∧ answer.1.2 < start + limiter.windowMs ∧ answer.2 = true

variable {calls : List (κ × ℤ)} {key : κ} {start : ℤ}

theorem admitted_cons (call : κ × ℤ) (answer : Bool) (answers : List ((κ × ℤ) × Bool)) :
    limiter.admitted key start ((call, answer) :: answers) = limiter.admitted key start answers +
      if call.1 = key ∧ call.2 < start + limiter.windowMs ∧ answer = true then 1 else 0 := by
  simp only [admitted, List.countP_cons, decide_eq_true_eq]

/-- While a window of the key is in the table, its count bounds what is still admitted. -/
theorem admitted_add_count_le (hroom : 1 ≤ limiter.maximumEntries)
    (hwindow : 1 ≤ limiter.windowMs) (hload : limiter.Loaded calls)
    (hsorted : calls.Pairwise fun call later => call.2 ≤ later.2) {after : List (κ × ℤ)}
    (hcalls : calls = past ++ after) (h : limiter.Tracks past entries) {count : ℕ}
    (hcount : count ≤ limiter.limit) (hentry : (key, ⟨count, start⟩) ∈ entries) :
    limiter.admitted key start (history limiter.allow entries after) + count ≤ limiter.limit := by
  induction after generalizing past entries count with
  | nil => exact (Nat.zero_add _).trans_le hcount
  | cons call after ih =>
    obtain ⟨k, now⟩ := call
    have hnext : calls = (past ++ [(k, now)]) ++ after := by rw [hcalls, List.append_assoc]; rfl
    have htracks := h.allow hroom (k, now)
    by_cases hlive : now < start + limiter.windowMs
    swap
    · -- the window has ended, and times do not decrease
      have hnone : limiter.admitted key start (history limiter.allow entries ((k, now) :: after)) =
          0 := by
        refine List.countP_eq_zero.mpr fun answer hanswer => ?_
        have hlabel : answer.1 ∈ (k, now) :: after := by
          rw [← map_fst_history limiter.allow entries ((k, now) :: after)]
          exact List.mem_map_of_mem hanswer
        rw [hcalls] at hsorted
        have htimes := (List.pairwise_cons.mp (List.pairwise_append.mp hsorted).2.1).1
        have htime : now ≤ answer.1.2 := by
          obtain heq | hlater := List.mem_cons.mp hlabel
          · rw [heq]
          · exact htimes _ hlater
        simp only [decide_eq_true_eq]
        omega
      omega
    have hkept : k ≠ key → (key, ⟨count, start⟩) ∈ (limiter.allow entries (k, now)).2 := by
      intro hother
      obtain ⟨hstarts, hallow⟩ | ⟨existing, hget, -, ⟨-, hallow⟩ | ⟨-, hallow⟩⟩ :=
        allow_cases limiter entries k now
      all_goals rw [hallow]
      · refine mem_setEntry.mpr (.inr ⟨mem_retained hload h ?_ ?_ hwindow hstarts hentry hlive,
          hother.symm⟩)
        · intro call hcall
          rw [hcalls] at hsorted ⊢
          exact ⟨List.mem_append_left _ hcall, (List.pairwise_append.mp hsorted).2.2 call hcall _
            List.mem_cons_self⟩
        · rw [hcalls]
          exact List.mem_append_right _ List.mem_cons_self
      · exact hentry
      · exact mem_setEntry.mpr (.inr ⟨hentry, hother.symm⟩)
    rw [history, admitted_cons]
    by_cases hother : k ≠ key
    · rw [if_neg fun hcounted => hother hcounted.1]
      exact ih hnext htracks hcount (hkept hother)
    rw [not_not] at hother
    subst hother
    have hget := (get_eq_some_iff h.nodup).mpr hentry
    obtain ⟨hstarts, -⟩ | ⟨existing, hexisting, -, ⟨-, hallow⟩ | ⟨hleft, hallow⟩⟩ :=
      allow_cases limiter entries k now
    · unfold starts expired at hstarts
      rw [hget, Option.all_some, decide_eq_true_eq] at hstarts
      dsimp only at hstarts
      omega
    · rw [hallow] at htracks ⊢
      rw [if_neg fun hcounted => Bool.false_ne_true hcounted.2.2]
      exact ih hnext htracks hcount hentry
    · cases hget.symm.trans hexisting
      rw [hallow] at htracks ⊢
      rw [if_pos ⟨rfl, hlive, rfl⟩, Nat.add_assoc, Nat.add_comm 1]
      exact ih hnext htracks hleft (mem_setEntry.mpr (.inl rfl))

end Runs

/-- **The table is bounded, and under its load every window keeps its budget.** -/
theorem rateLimiter_windows (limiter : FixedWindowRateLimiter) (hlimit : 1 ≤ limiter.limit)
    (hwindow : 1 ≤ limiter.windowMs) (hroom : 1 ≤ limiter.maximumEntries) (calls : List (κ × ℤ))
    (hsorted : calls.Pairwise fun call later => call.2 ≤ later.2) :
    (final limiter.allow [] calls).length ≤ limiter.maximumEntries ∧
    (limiter.Loaded calls → ∀ before key start after, calls = before ++ (key, start) :: after →
      limiter.starts (final limiter.allow [] before) (key, start) = true →
      limiter.admitted key start (history limiter.allow (final limiter.allow [] before)
        ((key, start) :: after)) ≤ limiter.limit) := by
  have htracks : ∀ calls : List (κ × ℤ), limiter.Tracks calls (final limiter.allow [] calls) := by
    intro calls
    induction calls using List.reverseRecOn with
    | nil => exact ⟨Nat.zero_le _, List.nodup_nil, fun _ hentry => absurd hentry List.not_mem_nil⟩
    | append_singleton calls call ih =>
      rw [final_append]
      exact ih.allow hroom call
  refine ⟨(htracks calls).bounded, fun hload before key start after hcalls hstarts => ?_⟩
  obtain ⟨-, hallow⟩ | ⟨existing, hget, hlive, -⟩ :=
    allow_cases limiter (final limiter.allow [] before) key start
  · have hnext := (htracks before).allow hroom (key, start)
    have hrest := admitted_add_count_le hroom hwindow hload hsorted
      (by rw [hcalls, List.append_assoc]; rfl) hnext hlimit
      (by rw [hallow]; exact mem_setEntry.mpr (.inl rfl))
    rw [history, admitted_cons, if_pos ⟨rfl, by dsimp only; omega, by rw [hallow]⟩]
    exact hrest
  · unfold starts expired at hstarts
    rw [hget, Option.all_some, decide_eq_true_eq] at hstarts
    dsimp only at hstarts
    omega

/-- Two calls in a window of a limiter that admits one. -/
theorem rateLimiter_windows_two :
    (final (allow ⟨1, 10, 1⟩) [] [((), (0 : ℤ)), ((), 5)]).length ≤ 1 ∧
      admitted ⟨1, 10, 1⟩ () 0 (history (allow ⟨1, 10, 1⟩) [] [((), 0), ((), 5)]) ≤ 1 := by
  obtain ⟨hlength, hbudget⟩ := rateLimiter_windows ⟨1, 10, 1⟩ le_rfl (by decide) le_rfl
    [((), (0 : ℤ)), ((), 5)] (by decide)
  refine ⟨hlength, hbudget (fun t => ?_) [] () 0 [((), 5)] rfl rfl⟩
  exact (Finset.card_le_univ _).trans (by decide)

end FixedWindowRateLimiter

end EcSystemCore.Web
