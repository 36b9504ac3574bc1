/-
The cache of endpoint health.

The reachability of the endpoints of a project is probed over the network and kept for a while.  The
callers of the cache run side by side: each of them looks its key up in the map, under a lock that is
held for no longer than that, and takes a reference to the entry of the key; then it waits for the
lock of the entry, answers from it if the report in there is fresh, and probes otherwise.  While the
map is locked, old slots without callers are dropped, and when the map is full one slot makes room,
if possible one without callers.

Times are those of a monotonic clock.  A caller whose future is dropped gives up its lock and its
reference.

Main definitions:

* `Beampipe.TapHealthReport`, `Beampipe.probeTapHealth` — what a probe finds out;
* `Beampipe.TapHealthCache` — the map, the entries, and the callers on their way;
* `Beampipe.TapHealthCache.step` — `get_or_probe`, from one await to the next;
* `Beampipe.TapHealthCache.AnswersFresh` — every answer is a fresh probe of its key.

Main results:

* `Beampipe.TapHealthCache.Inv.step` — what every step keeps;
* `Beampipe.tap_health_fresh` — **every answer comes from a probe of the same key that is not older
  than the caller allows, and the map stays bounded**;
* `Beampipe.tap_health_single_flight` — **fewer callers than slots never probe one key twice at the
  same time**.
-/

import Beampipe.JobQueue
import Beampipe.StableJson
import Beampipe.Text
import Beampipe.Runs

set_option relaxedAutoImplicit false
set_option autoImplicit false

namespace Beampipe

/-! ### Reports -/

/-- `TapMode`. -/
inductive TapMode where
  | syncGet
  | syncPost
  | asyncJob
  deriving DecidableEq, Repr

/-- `TapEndpointProbe`. -/
structure TapEndpointProbe where
  url : String
  mode : TapMode
  deriving DecidableEq, Repr

/-- `TapEndpointStatus`. -/
structure TapEndpointStatus where
  configured : Bool
  reachable : Bool
  deriving DecidableEq, Repr

/-- `TapHealthReport`. -/
structure TapHealthReport where
  endpoints : BTreeMap TapEndpointStatus

namespace TapHealthReport

/-- `endpoint`. -/
def endpoint (report : TapHealthReport) (name : String) : TapEndpointStatus :=
  report.endpoints[name]?.getD ⟨false, false⟩

/-- The adapter is configured and reachable. -/
def isUp (report : TapHealthReport) (adapter : String) : Bool :=
  (report.endpoint adapter).configured && (report.endpoint adapter).reachable

/-- `all_reachable`. -/
def allReachable (report : TapHealthReport) (requiredAdapters : List String) : Bool :=
  requiredAdapters.all report.isUp

/-- `unreachable_adapters`. -/
def unreachableAdapters (report : TapHealthReport) (requiredAdapters : List String) :
    List String :=
  requiredAdapters.filter fun adapter => !report.isUp adapter

/-- All adapters are reachable exactly when none is unreachable. -/
theorem allReachable_iff (report : TapHealthReport) (requiredAdapters : List String) :
    report.allReachable requiredAdapters ↔ report.unreachableAdapters requiredAdapters = [] := by
  simp [allReachable, unreachableAdapters, List.filter_eq_nil_iff]

end TapHealthReport

/-- `probe_endpoint`, where the network answers or not. -/
def probeEndpoint (endpoint : TapEndpointProbe) (healthy : Bool) : TapEndpointStatus :=
  if (trim endpoint.url).isEmpty then ⟨false, false⟩ else ⟨true, healthy⟩

/-- `probe_tap_health`. -/
def probeTapHealth (endpoints : BTreeMap TapEndpointProbe) (healthy : String → Bool) :
    TapHealthReport where
  endpoints := endpoints.map fun name endpoint => probeEndpoint endpoint (healthy name)

/-- A report is about the endpoints it was asked for. -/
theorem endpoint_probeTapHealth (endpoints : BTreeMap TapEndpointProbe) (healthy : String → Bool)
    (name : String) : (probeTapHealth endpoints healthy).endpoint name =
      match endpoints[name]? with
      | some endpoint => probeEndpoint endpoint (healthy name)
      | none => ⟨false, false⟩ := by
  rw [TapHealthReport.endpoint, probeTapHealth, Std.ExtTreeMap.getElem?_map]
  cases endpoints[name]? <;> rfl

/-! ### The cache -/

/-- The arguments of `get_or_probe` that decide its answer. -/
structure TapHealthCall where
  key : String
  endpoints : BTreeMap TapEndpointProbe
  ttl : ℕ

/-- `CachedTapHealth`. -/
structure CachedTapHealth where
  checkedAt : ℕ
  report : TapHealthReport

/-- `TapHealthCacheEntry`, with the key it was made for. -/
structure TapHealthCacheEntry where
  key : String
  cached : Option CachedTapHealth

/-- `TapHealthCacheSlot`; the entry is named by its place among the entries. -/
structure TapHealthCacheSlot where
  lastAccessed : ℕ
  entry : ℕ

/-- A caller with a reference to an entry: it waits for the lock of the entry, or holds it and
probes. -/
structure TapHealthCaller where
  call : TapHealthCall
  entry : ℕ
  probing : Bool

/-- A probe that was finished. -/
structure TapHealthProbe where
  call : TapHealthCall
  finishedAt : ℕ
  report : TapHealthReport

/-- An answer. -/
structure TapHealthAnswer where
  call : TapHealthCall
  answeredAt : ℕ
  report : TapHealthReport

/-- `TapHealthCache` with its callers, all entries that were ever made, and the probes and answers so
far. -/
structure TapHealthCache where
  now : ℕ
  state : BTreeMap TapHealthCacheSlot
  entries : List TapHealthCacheEntry
  callers : List TapHealthCaller
  probes : List TapHealthProbe
  answers : List TapHealthAnswer

/-- `MAX_TAP_HEALTH_CACHE_ENTRIES`. -/
def maxTapHealthCacheEntries : ℕ := 256

/-- Time passes, a caller goes on to its next await, or its future is dropped. -/
inductive TapHealthStep where
  | elapse (duration : ℕ)
  | enter (call : TapHealthCall)
  | lock (caller : ℕ)
  | finish (caller : ℕ) (healthy : String → Bool)
  | cancel (caller : ℕ)

namespace TapHealthCache

/-- The cache at its start. -/
def empty : TapHealthCache := ⟨0, ∅, [], [], [], []⟩

/-- `Arc::strong_count(&slot.entry) > 1`: a caller has a reference. -/
def inUse (s : TapHealthCache) (entry : ℕ) : Bool :=
  s.callers.any fun caller => caller.entry == entry

/-- A caller holds the lock of the entry. -/
def isLocked (s : TapHealthCache) (entry : ℕ) : Bool :=
  s.callers.any fun caller => caller.probing && caller.entry == entry

/-- `state.retain(…)`. -/
def retained (s : TapHealthCache) (ttl : ℕ) : BTreeMap TapHealthCacheSlot :=
  s.state.filter fun _ slot => decide (s.now - slot.lastAccessed < ttl) || s.inUse slot.entry

/-- The slot that was accessed first. -/
def oldestSlot (slots : List (String × TapHealthCacheSlot)) : Option String :=
  (firstInOrder (fun a b => decide (a.2.lastAccessed < b.2.lastAccessed)) slots).map Prod.fst

/-- The slot that makes room: the oldest without callers, or else the oldest. -/
def evicted (s : TapHealthCache) (slots : List (String × TapHealthCacheSlot)) : Option String :=
  (oldestSlot (slots.filter fun slot => !s.inUse slot.2.entry)).or (oldestSlot slots)

/-- The map with room for one more. -/
def withRoom (s : TapHealthCache) (state : BTreeMap TapHealthCacheSlot) :
    BTreeMap TapHealthCacheSlot :=
  if maxTapHealthCacheEntries ≤ state.size then
    match s.evicted state.toList with
    | some key => state.erase key
    | none => state
  else state

/-- The map is looked at, under its lock. -/
def enter (s : TapHealthCache) (call : TapHealthCall) : TapHealthCache :=
  let state := s.retained call.ttl
  match state[call.key]? with
  | some slot =>
      { s with
        state := state.insert call.key { slot with lastAccessed := s.now }
        callers := s.callers ++ [⟨call, slot.entry, false⟩] }
  | none =>
      { s with
        state := (s.withRoom state).insert call.key ⟨s.now, s.entries.length⟩
        entries := s.entries ++ [⟨call.key, none⟩]
        callers := s.callers ++ [⟨call, s.entries.length, false⟩] }

/-- The report of an entry that is fresh enough for a caller. -/
def freshReport (s : TapHealthCache) (caller : TapHealthCaller) : Option CachedTapHealth :=
  (s.entries[caller.entry]?.bind TapHealthCacheEntry.cached).filter fun cached =>
    decide (s.now - cached.checkedAt < caller.call.ttl)

/-- A caller gets the lock of its entry; it answers from the entry or begins to probe. -/
def lock (s : TapHealthCache) (n : ℕ) (caller : TapHealthCaller) : TapHealthCache :=
  match s.freshReport caller with
  | some cached =>
      { s with
        callers := s.callers.eraseIdx n
        answers := ⟨caller.call, s.now, cached.report⟩ :: s.answers }
  | none => { s with callers := s.callers.set n { caller with probing := true } }

/-- A probe ends, and the entry keeps its report. -/
def finish (s : TapHealthCache) (n : ℕ) (caller : TapHealthCaller) (healthy : String → Bool) :
    TapHealthCache :=
  let report := probeTapHealth caller.call.endpoints healthy
  { s with
    entries := s.entries.modify caller.entry fun entry =>
      { entry with cached := some ⟨s.now, report⟩ }
    callers := s.callers.eraseIdx n
    probes := ⟨caller.call, s.now, report⟩ :: s.probes
    answers := ⟨caller.call, s.now, report⟩ :: s.answers }

/-- One step. -/
def step (s : TapHealthCache) : TapHealthStep → TapHealthCache
  | .elapse duration => { s with now := s.now + duration }
  | .enter call => s.enter call
  | .lock n =>
      match s.callers[n]? with
      | some caller => if caller.probing || s.isLocked caller.entry then s else s.lock n caller
      | none => s
  | .finish n healthy =>
      match s.callers[n]? with
      | some caller => if caller.probing then s.finish n caller healthy else s
      | none => s
  | .cancel n => { s with callers := s.callers.eraseIdx n }

/-! ### What every step keeps -/

/-- The report was found by a probe of the key, and is about the endpoints of that probe. -/
def Probed (s : TapHealthCache) (key : String) (checkedAt : ℕ) (report : TapHealthReport) : Prop :=
  ∃ probe ∈ s.probes, probe.call.key = key ∧ probe.finishedAt = checkedAt ∧
    probe.report = report ∧ ∃ healthy, report = probeTapHealth probe.call.endpoints healthy

/-- The answer is right: it is the answerer's own probe, or one of the same key that is younger than
the caller's time to live. -/
def Answered (s : TapHealthCache) (answer : TapHealthAnswer) : Prop :=
  ∃ checkedAt ≤ answer.answeredAt, s.Probed answer.call.key checkedAt answer.report ∧
    (answer.answeredAt < checkedAt + answer.call.ttl ∨
      ∃ healthy, checkedAt = answer.answeredAt ∧
        answer.report = probeTapHealth answer.call.endpoints healthy)

/-- The entry was made for the key. -/
def EntryFor (s : TapHealthCache) (entry : ℕ) (key : String) : Prop :=
  ∃ e, s.entries[entry]? = some e ∧ e.key = key

/-- The invariant of the cache. -/
structure Inv (s : TapHealthCache) : Prop where
  size : s.state.size ≤ maxTapHealthCacheEntries
  callers : ∀ caller ∈ s.callers, s.EntryFor caller.entry caller.call.key
  slots : ∀ key slot, s.state[key]? = some slot → s.EntryFor slot.entry key
  cached : ∀ e ∈ s.entries, ∀ cached, e.cached = some cached →
    cached.checkedAt ≤ s.now ∧ s.Probed e.key cached.checkedAt cached.report
  single : ∀ entry, s.callers.countP (fun caller => caller.probing && caller.entry == entry) ≤ 1
  answers : ∀ answer ∈ s.answers, s.Answered answer


section Invariant

variable {s s' : TapHealthCache} {key : String}

/-- What a later state knows: more entries of the same keys, more probes. -/
structure Extends (s s' : TapHealthCache) : Prop where
  entries : ∀ entry key, s.EntryFor entry key → s'.EntryFor entry key
  probes : ∀ probe ∈ s.probes, probe ∈ s'.probes

theorem Extends.probed (h : Extends s s') {checkedAt : ℕ} {report : TapHealthReport}
    (hprobed : s.Probed key checkedAt report) : s'.Probed key checkedAt report := by
  obtain ⟨probe, hmem, hrest⟩ := hprobed
  exact ⟨probe, h.probes probe hmem, hrest⟩

theorem Extends.answered (h : Extends s s') {answer : TapHealthAnswer}
    (hanswer : s.Answered answer) : s'.Answered answer := by
  obtain ⟨checkedAt, hle, hprobed, hfresh⟩ := hanswer
  exact ⟨checkedAt, hle, h.probed hprobed, hfresh⟩

/-- An entry is for one key. -/
theorem EntryFor.unique {entry : ℕ} {key' : String} (h : s.EntryFor entry key)
    (h' : s.EntryFor entry key') : key = key' := by
  obtain ⟨e, he, rfl⟩ := h
  obtain ⟨e', he', rfl⟩ := h'
  rw [Option.some.inj (he.symm.trans he')]

/-- What is left in the map when there is room. -/
theorem getElem?_withRoom {state : BTreeMap TapHealthCacheSlot} {slot : TapHealthCacheSlot}
    (h : (s.withRoom state)[key]? = some slot) : state[key]? = some slot := by
  unfold withRoom at h
  split at h
  · split at h
    · rw [Std.ExtTreeMap.getElem?_erase] at h
      split at h
      · cases h
      · exact h
    · exact h
  · exact h

theorem getElem?_retained {ttl : ℕ} {slot : TapHealthCacheSlot}
    (h : (s.retained ttl)[key]? = some slot) : s.state[key]? = some slot := by
  rw [retained, Std.ExtTreeMap.getElem?_filter'] at h
  exact (Option.filter_eq_some_iff.mp h).1

/-- An oldest slot is one of the slots. -/
theorem mem_of_oldestSlot {slots : List (String × TapHealthCacheSlot)}
    (h : oldestSlot slots = some key) : ∃ slot, (key, slot) ∈ slots := by
  unfold oldestSlot at h
  obtain ⟨slot, hslot, rfl⟩ := Option.map_eq_some_iff.mp h
  exact ⟨slot.2, firstInOrder_mem hslot⟩

theorem oldestSlot_eq_none {slots : List (String × TapHealthCacheSlot)}
    (h : oldestSlot slots = none) : slots = [] := by
  unfold oldestSlot at h
  rw [Option.map_eq_none_iff] at h
  cases slots with
  | nil => rfl
  | cons slot slots =>
      rw [firstInOrder] at h
      split at h
      · cases h
      · split at h <;> cases h

/-- A full map loses a slot. -/
theorem size_withRoom {state : BTreeMap TapHealthCacheSlot}
    (h : state.size ≤ maxTapHealthCacheEntries) :
    (s.withRoom state).size + 1 ≤ maxTapHealthCacheEntries := by
  unfold withRoom
  split
  next hfull =>
    have hne : state.toList ≠ [] := by
      intro hnil
      have hlength := Std.ExtTreeMap.length_toList (t := state)
      rw [hnil, List.length_nil] at hlength
      unfold maxTapHealthCacheEntries at hfull
      omega
    cases hevicted : s.evicted state.toList with
    | none =>
        unfold evicted at hevicted
        exact absurd (oldestSlot_eq_none (Option.or_eq_none_iff.mp hevicted).2) hne
    | some key =>
        have hkey : ∃ slot, (key, slot) ∈ state.toList := by
          unfold evicted at hevicted
          rcases Option.or_eq_some_iff.mp hevicted with hidle | ⟨-, hany⟩
          · obtain ⟨slot, hslot⟩ := mem_of_oldestSlot hidle
            exact ⟨slot, List.mem_of_mem_filter hslot⟩
          · exact mem_of_oldestSlot hany
        obtain ⟨slot, hslot⟩ := hkey
        have hmem : key ∈ state := by
          rw [Std.ExtTreeMap.mem_iff_isSome_getElem?,
            Std.ExtTreeMap.mem_toList_iff_getElem?_eq_some.mp hslot]
          rfl
        show (state.erase key).size + 1 ≤ maxTapHealthCacheEntries
        rw [Std.ExtTreeMap.size_erase, if_pos (Std.ExtTreeMap.mem_iff_contains.mp hmem)]
        unfold maxTapHealthCacheEntries at h hfull ⊢
        omega
  · omega

/-- Fewer callers hold no more locks. -/
theorem Inv.single_of_sublist (h : s.Inv) {callers : List TapHealthCaller}
    (hsub : callers.Sublist s.callers) (entry : ℕ) :
    callers.countP (fun caller => caller.probing && caller.entry == entry) ≤ 1 :=
  hsub.countP_le.trans (h.single entry)

/-- Time passes. -/
theorem Inv.elapse (h : s.Inv) (duration : ℕ) : Inv { s with now := s.now + duration } where
  size := h.size
  callers := h.callers
  slots := h.slots
  cached := fun e he cached hcached => by
    obtain ⟨hle, hprobed⟩ := h.cached e he cached hcached
    exact ⟨Nat.le_add_right_of_le hle, hprobed⟩
  single := h.single
  answers := h.answers

/-- The callers that are left are some of those that were there. -/
theorem Inv.cancel (h : s.Inv) (n : ℕ) : Inv { s with callers := s.callers.eraseIdx n } where
  size := h.size
  callers := fun caller hcaller => h.callers caller (List.mem_of_mem_eraseIdx hcaller)
  slots := h.slots
  cached := h.cached
  single := h.single_of_sublist (List.eraseIdx_sublist _ _)
  answers := h.answers

/-- A caller that waits holds no lock. -/
theorem Inv.single_of_waiting (h : s.Inv) (call : TapHealthCall) (reference entry : ℕ) :
    (s.callers ++ [(⟨call, reference, false⟩ : TapHealthCaller)]).countP
      (fun caller => caller.probing && caller.entry == entry) ≤ 1 := by
  rw [List.countP_append]
  simpa using h.single entry

/-- A caller enters. -/
theorem Inv.enter (h : s.Inv) (call : TapHealthCall) : (s.enter call).Inv := by
  have hretained : ∀ key slot, (s.retained call.ttl)[key]? = some slot →
      s.EntryFor slot.entry key := fun key slot hslot => h.slots key slot (getElem?_retained hslot)
  have hsize : (s.retained call.ttl).size ≤ maxTapHealthCacheEntries :=
    Std.ExtTreeMap.size_filter_le_size.trans h.size
  unfold TapHealthCache.enter
  dsimp only
  split
  next slot hslot =>
    -- the key has a slot, and the caller takes its entry
    have hmem : call.key ∈ s.retained call.ttl := by
      rw [Std.ExtTreeMap.mem_iff_isSome_getElem?, hslot]
      rfl
    refine ⟨?_, fun caller hcaller => ?_, fun key slot' hslot' => ?_, h.cached,
      h.single_of_waiting call slot.entry, h.answers⟩
    · rw [Std.ExtTreeMap.size_insert, if_pos (Std.ExtTreeMap.mem_iff_contains.mp hmem)]
      exact hsize
    · rcases List.mem_append.mp hcaller with hold | hnew
      · exact h.callers caller hold
      · obtain rfl := List.mem_singleton.mp hnew
        exact hretained call.key slot hslot
    · rw [Std.ExtTreeMap.getElem?_insert] at hslot'
      split at hslot'
      next heq =>
        obtain rfl : call.key = key := by simpa using heq
        obtain rfl := Option.some.inj hslot'
        exact hretained call.key slot hslot
      · exact hretained key slot' hslot'
  next hnone =>
    -- a new entry for the key, in a map with room for it
    have hextends : Extends s
        { s with
          state := (s.withRoom (s.retained call.ttl)).insert call.key ⟨s.now, s.entries.length⟩
          entries := s.entries ++ [⟨call.key, none⟩]
          callers := s.callers ++ [⟨call, s.entries.length, false⟩] } := by
      refine ⟨fun entry key hentry => ?_, fun _ hprobe => hprobe⟩
      obtain ⟨e, he, hkey⟩ := hentry
      exact ⟨e, List.getElem?_append_left (List.getElem?_eq_some_iff.mp he).1 ▸ he, hkey⟩
    have hnew : EntryFor
        { s with
          state := (s.withRoom (s.retained call.ttl)).insert call.key ⟨s.now, s.entries.length⟩
          entries := s.entries ++ [⟨call.key, none⟩]
          callers := s.callers ++ [⟨call, s.entries.length, false⟩] } s.entries.length call.key :=
      ⟨⟨call.key, none⟩, by simp, rfl⟩
    refine ⟨?_, fun caller hcaller => ?_, fun key slot' hslot' => ?_, fun e he cached hcached => ?_,
      h.single_of_waiting call s.entries.length, fun answer hanswer =>
        hextends.answered (h.answers answer hanswer)⟩
    · exact Std.ExtTreeMap.size_insert_le.trans (size_withRoom hsize)
    · rcases List.mem_append.mp hcaller with hold | hwaiting
      · exact hextends.entries _ _ (h.callers caller hold)
      · obtain rfl := List.mem_singleton.mp hwaiting
        exact hnew
    · rw [Std.ExtTreeMap.getElem?_insert] at hslot'
      split at hslot'
      next heq =>
        obtain rfl : call.key = key := by simpa using heq
        obtain rfl := Option.some.inj hslot'
        exact hnew
      · exact hextends.entries _ _ (hretained key slot' (getElem?_withRoom hslot'))
    · rcases List.mem_append.mp he with hold | hempty
      · exact h.cached e hold cached hcached
      · obtain rfl := List.mem_singleton.mp hempty
        cases hcached

/-- A caller gets a lock that is free. -/
theorem Inv.lock (h : s.Inv) {n : ℕ} {caller : TapHealthCaller} (hcaller : s.callers[n]? = some caller)
    (hwaits : caller.probing = false) (hfree : s.isLocked caller.entry = false) :
    (s.lock n caller).Inv := by
  unfold TapHealthCache.lock
  obtain ⟨hn, hget⟩ := List.getElem?_eq_some_iff.mp hcaller
  have hmem : caller ∈ s.callers := hget ▸ List.getElem_mem hn
  split
  next cached hfresh =>
    -- the entry has a fresh report
    refine { h.cancel n with answers := fun answer hanswer => ?_ }
    rcases List.mem_cons.mp hanswer with rfl | hold
    · obtain ⟨hstored, hyoung⟩ := Option.filter_eq_some_iff.mp hfresh
      obtain ⟨e, he, hcached⟩ := Option.bind_eq_some_iff.mp hstored
      obtain ⟨hle, hprobed⟩ := h.cached e (List.mem_of_getElem? he) cached hcached
      obtain ⟨e', he', hkey⟩ := h.callers caller hmem
      obtain rfl := Option.some.inj (he.symm.trans he')
      have hage : s.now - cached.checkedAt < caller.call.ttl := of_decide_eq_true hyoung
      refine ⟨cached.checkedAt, hle, hkey ▸ hprobed, .inl ?_⟩
      show s.now < cached.checkedAt + caller.call.ttl
      omega
    · exact h.answers answer hold
  · refine { h with callers := fun caller' hcaller' => ?_, single := fun entry => ?_ }
    · rcases List.mem_or_eq_of_mem_set hcaller' with hold | rfl
      · exact h.callers caller' hold
      · exact h.callers caller hmem
    · show (s.callers.set n { caller with probing := true }).countP _ ≤ 1
      rw [List.countP_set hn, hget]
      have hsingle := h.single entry
      by_cases hentry : caller.entry = entry
      · -- nobody else holds this lock
        have hzero : s.callers.countP (fun caller => caller.probing && caller.entry == entry) = 0 := by
          rw [List.countP_eq_zero]
          intro other hother
          rw [← hentry]
          exact List.any_eq_false.mp hfree other hother
        simp [hzero, hwaits, hentry]
      · simpa [hwaits, hentry] using hsingle

/-- A caller that probes is done. -/
theorem Inv.finish (h : s.Inv) {n : ℕ} {caller : TapHealthCaller}
    (hcaller : s.callers[n]? = some caller) (healthy : String → Bool) :
    (s.finish n caller healthy).Inv := by
  obtain ⟨hn, hget⟩ := List.getElem?_eq_some_iff.mp hcaller
  have hmem : caller ∈ s.callers := hget ▸ List.getElem_mem hn
  have hextends : Extends s (s.finish n caller healthy) := by
    refine ⟨fun entry key hentry => ?_, fun probe hprobe => List.mem_cons_of_mem _ hprobe⟩
    obtain ⟨e, he, hkey⟩ := hentry
    unfold EntryFor TapHealthCache.finish
    dsimp only
    rw [List.getElem?_modify, he]
    refine ⟨_, rfl, ?_⟩
    split <;> exact hkey
  have hprobed : (s.finish n caller healthy).Probed caller.call.key s.now
      (probeTapHealth caller.call.endpoints healthy) :=
    ⟨⟨caller.call, s.now, _⟩, List.mem_cons_self, rfl, rfl, rfl, healthy, rfl⟩
  refine ⟨h.size, fun caller' hcaller' => ?_, fun key slot hslot => ?_, fun e he cached hcached => ?_,
    h.single_of_sublist (List.eraseIdx_sublist _ _), fun answer hanswer => ?_⟩
  · exact hextends.entries _ _ (h.callers caller' (List.mem_of_mem_eraseIdx hcaller'))
  · exact hextends.entries _ _ (h.slots key slot hslot)
  · obtain ⟨place, hplace⟩ := List.mem_iff_getElem?.mp he
    have hold : ((s.entries.modify caller.entry fun entry =>
        { entry with cached := some ⟨s.now, probeTapHealth caller.call.endpoints healthy⟩ })[place]?) =
          some e := hplace
    rw [List.getElem?_modify] at hold
    obtain ⟨old, hentry, hmodified⟩ := Option.map_eq_some_iff.mp hold
    by_cases hsame : caller.entry = place
    · rw [if_pos hsame] at hmodified
      subst hmodified
      obtain rfl := Option.some.inj hcached
      obtain ⟨e', he', hkey⟩ := h.callers caller hmem
      rw [hsame, hentry] at he'
      obtain rfl := Option.some.inj he'
      exact ⟨le_rfl, hkey ▸ hprobed⟩
    · rw [if_neg hsame] at hmodified
      subst hmodified
      obtain ⟨hle, hbefore⟩ := h.cached old (List.mem_of_getElem? hentry) cached hcached
      exact ⟨hle, hextends.probed hbefore⟩
  · rcases List.mem_cons.mp hanswer with rfl | hold
    · exact ⟨s.now, le_rfl, hprobed, .inr ⟨healthy, rfl, rfl⟩⟩
    · exact hextends.answered (h.answers answer hold)

/-- **Every step keeps the invariant.** -/
theorem Inv.step (h : s.Inv) (i : TapHealthStep) : (s.step i).Inv := by
  cases i with
  | elapse duration => exact h.elapse duration
  | enter call => exact h.enter call
  | lock n =>
      simp only [TapHealthCache.step]
      split
      next caller hcaller =>
        split
        · exact h
        next hfree =>
          simp only [Bool.or_eq_true, not_or, Bool.not_eq_true] at hfree
          exact h.lock hcaller hfree.1 hfree.2
      · exact h
  | finish n healthy =>
      simp only [TapHealthCache.step]
      split
      next caller hcaller =>
        split
        · exact h.finish hcaller healthy
        · exact h
      · exact h
  | cancel n => exact h.cancel n

end Invariant

/-! ### Callers in their places -/

/-- Fewer callers than slots are on their way when another one enters. -/
def KeepsRoom (s : TapHealthCache) : TapHealthStep → Prop
  | .enter _ => s.callers.length < maxTapHealthCacheEntries
  | _ => True

instance (s : TapHealthCache) (i : TapHealthStep) : Decidable (s.KeepsRoom i) :=
  match i with
  | .enter _ => inferInstanceAs (Decidable (_ < _))
  | .elapse _ | .lock _ | .finish _ _ | .cancel _ => isTrue trivial

/-- The map leads to the entry of every caller. -/
def InPlace (s : TapHealthCache) : Prop :=
  ∀ caller ∈ s.callers, ∃ slot, s.state[caller.call.key]? = some slot ∧ slot.entry = caller.entry

section InPlace

variable {s : TapHealthCache}

/-- The entries of the slots differ, so slots with callers are no more than the callers. -/
theorem size_le_of_inUse {state : BTreeMap TapHealthCacheSlot}
    (hslots : ∀ key slot, state[key]? = some slot → s.EntryFor slot.entry key)
    (huse : ∀ slot ∈ state.toList, s.inUse slot.2.entry) : state.size ≤ s.callers.length := by
  have hfor : ∀ slot ∈ state.toList, s.EntryFor slot.2.entry slot.1 := fun slot hslot =>
    hslots slot.1 slot.2 (Std.ExtTreeMap.mem_toList_iff_getElem?_eq_some.mp hslot)
  have hnodup : (state.toList.map fun slot => slot.2.entry).Nodup := by
    refine List.pairwise_map.mpr ?_
    refine (Std.ExtTreeMap.distinct_keys_toList (t := state)).imp_of_mem fun ha hb hne heq => ?_
    have hkey := (hfor _ ha).unique (heq ▸ hfor _ hb)
    simp [hkey] at hne
  have hsubset : (state.toList.map fun slot => slot.2.entry) ⊆ s.callers.map (·.entry) := by
    intro entry hentry
    obtain ⟨slot, hslot, rfl⟩ := List.mem_map.mp hentry
    obtain ⟨caller, hcaller, hsame⟩ := List.any_eq_true.mp (huse slot hslot)
    exact List.mem_map.mpr ⟨caller, hcaller, by simpa using hsame⟩
  have hlength := (List.subperm_of_subset hnodup hsubset).length_le
  rwa [List.length_map, List.length_map, Std.ExtTreeMap.length_toList] at hlength

/-- With room for it, a slot with callers is not the one that is evicted. -/
theorem getElem?_withRoom_of_inUse {state : BTreeMap TapHealthCacheSlot} {key : String}
    {slot : TapHealthCacheSlot} (hroom : s.callers.length < maxTapHealthCacheEntries)
    (hslots : ∀ key slot, state[key]? = some slot → s.EntryFor slot.entry key)
    (hslot : state[key]? = some slot) (huse : s.inUse slot.entry) :
    (s.withRoom state)[key]? = some slot := by
  unfold withRoom
  split
  next hfull =>
    cases hidle : oldestSlot (state.toList.filter fun slot => !s.inUse slot.2.entry) with
    | none =>
        -- every slot would have a caller of its own
        have hall : ∀ slot ∈ state.toList, s.inUse slot.2.entry := by
          intro slot hmem
          have hnil := oldestSlot_eq_none hidle
          simpa using List.filter_eq_nil_iff.mp hnil slot hmem
        have hsize := size_le_of_inUse hslots hall
        omega
    | some other =>
        obtain ⟨otherSlot, hmem⟩ := mem_of_oldestSlot hidle
        obtain ⟨hlisted, hunused⟩ := List.mem_filter.mp hmem
        have hother := Std.ExtTreeMap.mem_toList_iff_getElem?_eq_some.mp hlisted
        have hne : other ≠ key := by
          rintro rfl
          obtain rfl := Option.some.inj (hother.symm.trans hslot)
          simp [huse] at hunused
        have hevicted : s.evicted state.toList = some other := by
          rw [evicted, hidle, Option.some_or]
        simp only [hevicted]
        rw [Std.ExtTreeMap.getElem?_erase, if_neg (by simpa using hne)]
        exact hslot
  · exact hslot

/-- A slot with callers is retained. -/
theorem getElem?_retained_of_inUse {ttl : ℕ} {key : String} {slot : TapHealthCacheSlot}
    (hslot : s.state[key]? = some slot) (huse : s.inUse slot.entry) :
    (s.retained ttl)[key]? = some slot := by
  rw [retained, Std.ExtTreeMap.getElem?_filter', hslot, Option.filter_some, huse]
  simp

/-- The callers that are left are in their places. -/
theorem InPlace.of_callers (h : s.InPlace) {s' : TapHealthCache} (hstate : s'.state = s.state)
    (hcallers : ∀ caller ∈ s'.callers, ∃ old ∈ s.callers, caller.call = old.call ∧
      caller.entry = old.entry) : s'.InPlace := by
  intro caller hcaller
  obtain ⟨old, hold, hcall, hentry⟩ := hcallers caller hcaller
  obtain ⟨slot, hslot, hsame⟩ := h old hold
  exact ⟨slot, by rw [hstate, hcall, hslot], hsame.trans hentry.symm⟩

theorem InPlace.eraseIdx (h : s.InPlace) {s' : TapHealthCache} (hstate : s'.state = s.state)
    {n : ℕ} (hcallers : s'.callers = s.callers.eraseIdx n) : s'.InPlace :=
  h.of_callers hstate fun caller hcaller =>
    ⟨caller, List.mem_of_mem_eraseIdx (hcallers ▸ hcaller), rfl, rfl⟩

/-- A caller enters, and every caller stays in its place. -/
theorem InPlace.enter (h : s.InPlace) (hinv : s.Inv) {call : TapHealthCall}
    (hroom : s.callers.length < maxTapHealthCacheEntries) : (s.enter call).InPlace := by
  have hretained : ∀ caller ∈ s.callers, ∃ slot,
      (s.retained call.ttl)[caller.call.key]? = some slot ∧ slot.entry = caller.entry ∧
        s.inUse slot.entry := by
    intro caller hcaller
    obtain ⟨slot, hslot, hentry⟩ := h caller hcaller
    have huse : s.inUse slot.entry := List.any_eq_true.mpr ⟨caller, hcaller, by simp [hentry]⟩
    exact ⟨slot, getElem?_retained_of_inUse hslot huse, hentry, huse⟩
  unfold TapHealthCache.enter
  dsimp only
  split
  next slot hslot =>
    intro caller hcaller
    rcases List.mem_append.mp hcaller with hold | hnew
    · obtain ⟨slot', hslot', hentry, -⟩ := hretained caller hold
      show ∃ found, ((s.retained call.ttl).insert call.key
        { slot with lastAccessed := s.now })[caller.call.key]? = some found ∧ _
      rw [Std.ExtTreeMap.getElem?_insert]
      split
      next heq =>
        have hkey : call.key = caller.call.key := by simpa using heq
        rw [← hkey, hslot] at hslot'
        obtain rfl := Option.some.inj hslot'
        exact ⟨_, rfl, hentry⟩
      · exact ⟨slot', hslot', hentry⟩
    · obtain rfl := List.mem_singleton.mp hnew
      exact ⟨_, Std.ExtTreeMap.getElem?_insert_self, rfl⟩
  next hnone =>
    intro caller hcaller
    rcases List.mem_append.mp hcaller with hold | hnew
    · obtain ⟨slot', hslot', hentry, huse⟩ := hretained caller hold
      have hne : call.key ≠ caller.call.key := by
        intro heq
        rw [← heq, hnone] at hslot'
        cases hslot'
      refine ⟨slot', ?_, hentry⟩
      show ((s.withRoom (s.retained call.ttl)).insert call.key
        ⟨s.now, s.entries.length⟩)[caller.call.key]? = some slot'
      rw [Std.ExtTreeMap.getElem?_insert, if_neg (by simpa using hne)]
      exact getElem?_withRoom_of_inUse hroom
        (fun key slot hslot => hinv.slots key slot (getElem?_retained hslot)) hslot' huse
    · obtain rfl := List.mem_singleton.mp hnew
      exact ⟨_, Std.ExtTreeMap.getElem?_insert_self, rfl⟩

theorem InPlace.step (h : s.InPlace) (hinv : s.Inv) {i : TapHealthStep} (hroom : s.KeepsRoom i) :
    (s.step i).InPlace := by
  cases i with
  | elapse duration => exact h
  | enter call => exact h.enter hinv hroom
  | lock n =>
      simp only [TapHealthCache.step]
      split
      next caller hcaller =>
        split
        · exact h
        · unfold TapHealthCache.lock
          split
          · exact h.eraseIdx rfl rfl
          · refine h.of_callers rfl fun caller' hcaller' => ?_
            rcases List.mem_or_eq_of_mem_set hcaller' with hold | rfl
            · exact ⟨caller', hold, rfl, rfl⟩
            · exact ⟨caller, List.mem_of_getElem? hcaller, rfl, rfl⟩
      · exact h
  | finish n healthy =>
      simp only [TapHealthCache.step]
      split
      next caller hcaller =>
        split
        · exact h.eraseIdx rfl rfl
        · exact h
      · exact h
  | cancel n => exact h.eraseIdx rfl rfl

/-- Callers of one key in their places share its entry, so only one of them has the lock. -/
theorem InPlace.single (h : s.InPlace) (hinv : s.Inv) (key : String) :
    s.callers.countP (fun caller => caller.probing && caller.call.key == key) ≤ 1 := by
  cases hslot : s.state[key]? with
  | none =>
      have hzero : s.callers.countP (fun caller => caller.probing && caller.call.key == key) = 0 := by
        rw [List.countP_eq_zero]
        intro caller hcaller hprobes
        obtain ⟨slot, hfound, -⟩ := h caller hcaller
        have hkey : caller.call.key = key := by simpa using (Bool.and_eq_true_iff.mp hprobes).2
        rw [hkey, hslot] at hfound
        cases hfound
      omega
  | some slot =>
      refine (List.countP_mono_left fun caller hcaller hprobes => ?_).trans (hinv.single slot.entry)
      obtain ⟨slot', hfound, hentry⟩ := h caller hcaller
      obtain ⟨hprobing, hkey⟩ := Bool.and_eq_true_iff.mp hprobes
      rw [beq_iff_eq] at hkey
      rw [hkey, hslot] at hfound
      obtain rfl := Option.some.inj hfound
      simp [hprobing, hentry]

end InPlace

theorem inv_empty : empty.Inv where
  size := by simp [empty]
  callers := fun _ h => by simp [empty] at h
  slots := fun _ _ h => by simp [empty] at h
  cached := fun _ h => by simp [empty] at h
  single := fun _ => by simp [empty]
  answers := fun _ h => by simp [empty] at h

end TapHealthCache

open TapHealthCache

/-- **The answers of the cache.**  In every run of any number of callers: an answer comes from a
probe of the same key, younger than the caller's time to live or the caller's own; one entry is never
probed twice at a time; and the map never has more slots than it may. -/
theorem tap_health_fresh (steps : List TapHealthStep) :
    let s := Runs.exec TapHealthCache.step empty steps
    (∀ answer ∈ s.answers, s.Answered answer) ∧
      (∀ entry, s.callers.countP (fun caller => caller.probing && caller.entry == entry) ≤ 1) ∧
      s.state.size ≤ maxTapHealthCacheEntries := by
  have hinv : (Runs.exec TapHealthCache.step empty steps).Inv :=
    Runs.exec_invariant (C := fun _ _ => True) Inv (fun _ i h _ => h.step i) inv_empty
      (Runs.meets_true steps)
  exact ⟨hinv.answers, hinv.single, hinv.size⟩

/-- **One probe at a time for a key.**  In every run in which fewer callers than slots are on their
way whenever another one enters, no key is probed twice at the same time. -/
theorem tap_health_single_flight (steps : List TapHealthStep)
    (hroom : Runs.Meets TapHealthCache.step KeepsRoom empty steps) (key : String) :
    (Runs.exec TapHealthCache.step empty steps).callers.countP
      (fun caller => caller.probing && caller.call.key == key) ≤ 1 := by
  have h : (Runs.exec TapHealthCache.step empty steps).Inv ∧
      (Runs.exec TapHealthCache.step empty steps).InPlace :=
    Runs.exec_invariant (C := KeepsRoom) (fun s => s.Inv ∧ s.InPlace)
      (fun _ i h hi => ⟨h.1.step i, h.2.step h.1 hi⟩)
      ⟨inv_empty, fun _ hcaller => by simp [empty] at hcaller⟩ hroom
  exact h.2.single h.1 key

/-- Two callers of one key, of which the first has the lock. -/
def twoCallers : List TapHealthStep :=
  [.enter ⟨"survey", ∅, 60⟩, .enter ⟨"survey", ∅, 60⟩, .lock 0, .lock 1]

/-- The second one waits. -/
theorem tap_health_single_flight_twoCallers :
    (Runs.exec TapHealthCache.step empty twoCallers).callers.countP
        (fun caller => caller.probing && caller.call.key == "survey") ≤ 1 ∧
      (Runs.exec TapHealthCache.step empty twoCallers).callers.map (·.probing) = [true, false] :=
  ⟨tap_health_single_flight twoCallers (by decide +kernel) "survey", by decide +kernel⟩

end Beampipe
