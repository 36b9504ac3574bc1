/-
The state of a session, from what the manager reports of its nodes.

The manager answers with a number, a name, a wrapper `{status: …}`, or one status for each node,
which may again be any of these.  The states of the nodes are aggregated at every level, with what
the levels below have given: a failed node wins, then all nodes have to be finished or all
cancelled, then the most advanced active state counts.  Nodes of which some have finished and the
others were cancelled have no state, and neither has anything around them.

Main definitions:

* `Beampipe.DaliugeSessionState.fromRaw`, `Beampipe.aggregateNodeStates` — the state, level by
  level;
* `Beampipe.IsComposite`, `Beampipe.HasLeaf` — a status that is well formed, and its leaves;
* `Beampipe.ReportsLeaves` — the state says what the leaves say;
* `Beampipe.EndsMixed` — all leaves have ended, some finished and some cancelled.

Main results:

* `Beampipe.IsComposite.summarizes` — a state that is known sums its leaves up;
* `Beampipe.IsComposite.fromRaw_eq_unknown_iff` — when a state is not known;
* `Beampipe.reportsLeaves_iff` — **when the state says what the leaves say**.
-/

import Beampipe.Requests

set_option relaxedAutoImplicit false
set_option autoImplicit false

namespace Beampipe

/-- `str::to_ascii_uppercase`. -/
def toAsciiUppercase (s : String) : String := String.ofList (s.toList.map Char.toUpper)

/-! ### The state as it is read -/

/-- `aggregate_node_states`. -/
def aggregateNodeStates (states : List DaliugeSessionState) : DaliugeSessionState :=
  if states.isEmpty ∨ .unknown ∈ states then .unknown
  else if .failed ∈ states then .failed
  else if states.all (· == .finished) then .finished
  else if states.all (· == .cancelled) then .cancelled
  else
    ([.running, .deploying, .building, .pristine].find? fun state => states.contains state).getD
      .unknown

namespace DaliugeSessionState

/-- `from_number`. -/
def fromNumber : ℤ → DaliugeSessionState
  | 0 => .pristine
  | 1 => .building
  | 2 => .deploying
  | 3 => .running
  | 4 => .finished
  | 5 => .cancelled
  | 6 => .failed
  | _ => .unknown

/-- `from_name`. -/
def fromName (value : String) : DaliugeSessionState :=
  match toAsciiUppercase (trim value) with
  | "PRISTINE" => .pristine
  | "BUILDING" => .building
  | "DEPLOYING" => .deploying
  | "RUNNING" => .running
  | "FINISHED" | "COMPLETED" => .finished
  | "CANCELLED" | "CANCELED" => .cancelled
  | "FAILED" | "FAIL" | "ERROR" => .failed
  | _ => .unknown

mutual

/-- `DaliugeSessionState::from_raw`. -/
def fromRaw : Json → DaliugeSessionState
  | .num n => ((Json.num n).asI64.map fromNumber).getD .unknown
  | .str s => fromName s
  | .obj fields =>
      match (nodeStates fields).lookup "status" with
      | some status => status
      | none => aggregateNodeStates ((nodeStates fields).map Prod.snd)
  | .null | .bool _ | .arr _ => .unknown

/-- The states of the members of an object. -/
def nodeStates : List (String × Json) → List (String × DaliugeSessionState)
  | [] => []
  | (node, value) :: fields => (node, fromRaw value) :: nodeStates fields

end

/-- The session is not at its end. -/
def isActive : DaliugeSessionState → Bool
  | .pristine | .building | .deploying | .running => true
  | .finished | .cancelled | .failed | .unknown => false

end DaliugeSessionState

open DaliugeSessionState

/-! ### The leaves of a status -/

/-- A status that is built from recognised states with wrappers and with non-empty maps of nodes. -/
inductive IsComposite : Json → Prop
  | leaf {raw : Json} (hraw : raw.isObject = false) (h : fromRaw raw ≠ .unknown) : IsComposite raw
  | wrapper {fields : List (String × Json)} {status : Json}
      (hstatus : Json.lookupField "status" fields = some status) (h : IsComposite status) :
      IsComposite (.obj fields)
  | nodes {fields : List (String × Json)} (hstatus : Json.lookupField "status" fields = none)
      (hne : fields ≠ []) (h : ∀ node ∈ fields, IsComposite node.2) : IsComposite (.obj fields)

/-- The status has a leaf in the state. -/
inductive HasLeaf : Json → DaliugeSessionState → Prop
  | leaf {raw : Json} (hraw : raw.isObject = false) : HasLeaf raw (fromRaw raw)
  | wrapper {fields : List (String × Json)} {status : Json} {state : DaliugeSessionState}
      (hstatus : Json.lookupField "status" fields = some status) (h : HasLeaf status state) :
      HasLeaf (.obj fields) state
  | node {fields : List (String × Json)} {node : String × Json} {state : DaliugeSessionState}
      (hstatus : Json.lookupField "status" fields = none) (hnode : node ∈ fields)
      (h : HasLeaf node.2 state) : HasLeaf (.obj fields) state

/-- The status is the other one, or a part of it. -/
inductive Within : Json → Json → Prop
  | refl (raw : Json) : Within raw raw
  | wrapper {part : Json} {fields : List (String × Json)} {status : Json}
      (hstatus : Json.lookupField "status" fields = some status) (h : Within part status) :
      Within part (.obj fields)
  | node {part : Json} {fields : List (String × Json)} {node : String × Json}
      (hstatus : Json.lookupField "status" fields = none) (hnode : node ∈ fields)
      (h : Within part node.2) : Within part (.obj fields)

/-- **The state says what the leaves say**: it is failed when a leaf is, finished when all leaves
are, active when no leaf is failed and one is active, and cancelled otherwise. -/
structure ReportsLeaves (raw : Json) : Prop where
  failed : fromRaw raw = .failed ↔ HasLeaf raw .failed
  finished : fromRaw raw = .finished ↔ ∀ state, HasLeaf raw state → state = .finished
  active : (fromRaw raw).isActive ↔
    ¬HasLeaf raw .failed ∧ ∃ state, state.isActive ∧ HasLeaf raw state
  cancelled : fromRaw raw = .cancelled ↔ ¬HasLeaf raw .failed ∧
    ¬(∃ state, state.isActive ∧ HasLeaf raw state) ∧
      ¬∀ state, HasLeaf raw state → state = .finished
  known : fromRaw raw ≠ .unknown

/-- All leaves have finished or were cancelled, and there are some of both. -/
structure EndsMixed (raw : Json) : Prop where
  ended : ∀ state, HasLeaf raw state → state = .finished ∨ state = .cancelled
  finished : HasLeaf raw .finished
  cancelled : HasLeaf raw .cancelled

/-! ### One level -/

theorem nodeStates_eq (fields : List (String × Json)) :
    nodeStates fields = fields.map fun node => (node.1, fromRaw node.2) := by
  induction fields with
  | nil => rfl
  | cons node fields ih => rw [nodeStates, ih, List.map_cons]

theorem lookup_nodeStates (key : String) (fields : List (String × Json)) :
    (nodeStates fields).lookup key = (Json.lookupField key fields).map fromRaw := by
  induction fields with
  | nil => rfl
  | cons node fields ih =>
      rw [nodeStates, List.lookup_cons, Json.lookupField]
      by_cases hkey : node.1 = key
      · simp [hkey]
      · have hne : (key == node.1) = false := by simpa using fun h => hkey h.symm
        rw [hne, if_neg hkey]
        exact ih

theorem fromRaw_wrapper {fields : List (String × Json)} {status : Json}
    (hstatus : Json.lookupField "status" fields = some status) :
    fromRaw (.obj fields) = fromRaw status := by
  rw [fromRaw, lookup_nodeStates, hstatus]
  rfl

theorem fromRaw_nodes {fields : List (String × Json)}
    (hstatus : Json.lookupField "status" fields = none) :
    fromRaw (.obj fields) = aggregateNodeStates (fields.map fun node => fromRaw node.2) := by
  rw [fromRaw, lookup_nodeStates, hstatus, nodeStates_eq, List.map_map]
  rfl

/-- What an aggregate says of the states below it. -/
theorem aggregateNodeStates_cases {states : List DaliugeSessionState} (hne : states ≠ []) :
    .unknown ∈ states ∧ aggregateNodeStates states = .unknown ∨
      .unknown ∉ states ∧
        (.failed ∈ states ∧ aggregateNodeStates states = .failed ∨
          (∀ state ∈ states, state = .finished) ∧ aggregateNodeStates states = .finished ∨
          (∀ state ∈ states, state = .cancelled) ∧ aggregateNodeStates states = .cancelled ∨
          .failed ∉ states ∧ (∃ state ∈ states, state.isActive) ∧
            (aggregateNodeStates states).isActive ∨
          (∀ state ∈ states, state = .finished ∨ state = .cancelled) ∧ .finished ∈ states ∧
            .cancelled ∈ states ∧ aggregateNodeStates states = .unknown) := by
  have hnonempty : states.isEmpty = false := by simpa using hne
  unfold aggregateNodeStates
  by_cases hunknown : .unknown ∈ states
  · exact .inl ⟨hunknown, if_pos (.inr hunknown)⟩
  refine .inr ⟨hunknown, ?_⟩
  rw [if_neg (by simp [hnonempty, hunknown])]
  by_cases hfailed : .failed ∈ states
  · exact .inl ⟨hfailed, if_pos hfailed⟩
  rw [if_neg hfailed]
  by_cases hfinished : ∀ state ∈ states, state = .finished
  · exact .inr (.inl ⟨hfinished, if_pos (by simpa using hfinished)⟩)
  rw [if_neg (by simpa using hfinished)]
  by_cases hcancelled : ∀ state ∈ states, state = .cancelled
  · exact .inr (.inr (.inl ⟨hcancelled, if_pos (by simpa using hcancelled)⟩))
  rw [if_neg (by simpa using hcancelled)]
  refine .inr (.inr (.inr ?_))
  cases hfind : [DaliugeSessionState.running, .deploying, .building, .pristine].find?
      fun state => states.contains state with
  | some state =>
      have hmem : state ∈ states := by simpa using List.find?_some hfind
      have hlisted : ∀ state ∈ [DaliugeSessionState.running, .deploying, .building, .pristine],
          state.isActive := by decide
      have hactive := hlisted state (List.mem_of_find?_eq_some hfind)
      exact .inl ⟨hfailed, ⟨state, hmem, hactive⟩, hactive⟩
  | none =>
      rw [List.find?_eq_none] at hfind
      have hended : ∀ state ∈ states, state = .finished ∨ state = .cancelled := by
        intro state hstate
        cases state with
        | finished => exact .inl rfl
        | cancelled => exact .inr rfl
        | unknown => exact absurd hstate hunknown
        | failed => exact absurd hstate hfailed
        | pristine | building | deploying | running =>
            exact absurd (List.contains_iff_mem.mpr hstate) (hfind _ (by decide))
      refine .inr ⟨hended, ?_, ?_, rfl⟩
      · by_contra hnone
        refine hcancelled fun state hstate => (hended state hstate).resolve_left ?_
        rintro rfl
        exact hnone hstate
      · by_contra hnone
        refine hfinished fun state hstate => (hended state hstate).resolve_right ?_
        rintro rfl
        exact hnone hstate

/-! ### All levels -/

/-- A known state sums the leaves up; a status is only cancelled when all of them are. -/
def Summarizes (state : DaliugeSessionState) (leaf : DaliugeSessionState → Prop) : Prop :=
  state = .failed ∧ leaf .failed ∨
    state = .finished ∧ (∀ s, leaf s → s = .finished) ∨
    state = .cancelled ∧ (∀ s, leaf s → s = .cancelled) ∨
    state.isActive ∧ ¬leaf .failed ∧ ∃ s, s.isActive ∧ leaf s

section Summarizes

variable {state : DaliugeSessionState} {leaf : DaliugeSessionState → Prop}

theorem Summarizes.of_failed (h : Summarizes .failed leaf) : leaf .failed := by
  rcases h with ⟨-, h⟩ | ⟨h, -⟩ | ⟨h, -⟩ | ⟨h, -⟩
  · exact h
  all_goals cases h

theorem Summarizes.of_finished (h : Summarizes .finished leaf) : ∀ s, leaf s → s = .finished := by
  rcases h with ⟨h, -⟩ | ⟨-, h⟩ | ⟨h, -⟩ | ⟨h, -⟩
  · cases h
  · exact h
  all_goals cases h

theorem Summarizes.of_cancelled (h : Summarizes .cancelled leaf) :
    ∀ s, leaf s → s = .cancelled := by
  rcases h with ⟨h, -⟩ | ⟨h, -⟩ | ⟨-, h⟩ | ⟨h, -⟩
  · cases h
  · cases h
  · exact h
  · cases h

theorem Summarizes.of_isActive (h : Summarizes state leaf) (hactive : state.isActive) :
    ¬leaf .failed ∧ ∃ s, s.isActive ∧ leaf s := by
  rcases h with ⟨rfl, -⟩ | ⟨rfl, -⟩ | ⟨rfl, -⟩ | ⟨-, h⟩
  · cases hactive
  · cases hactive
  · cases hactive
  · exact h

end Summarizes

theorem hasLeaf_wrapper_iff {fields : List (String × Json)} {status : Json}
    (hstatus : Json.lookupField "status" fields = some status) {state : DaliugeSessionState} :
    HasLeaf (.obj fields) state ↔ HasLeaf status state := by
  constructor
  · intro h
    cases h with
    | leaf hraw => cases hraw
    | wrapper hstatus' h =>
        rw [hstatus] at hstatus'
        cases hstatus'
        exact h
    | node hnone => rw [hstatus] at hnone; cases hnone
  · exact fun h => .wrapper hstatus h

theorem hasLeaf_nodes_iff {fields : List (String × Json)}
    (hstatus : Json.lookupField "status" fields = none) {state : DaliugeSessionState} :
    HasLeaf (.obj fields) state ↔ ∃ node ∈ fields, HasLeaf node.2 state := by
  constructor
  · intro h
    cases h with
    | leaf hraw => cases hraw
    | wrapper hsome => rw [hstatus] at hsome; cases hsome
    | node _ hnode h => exact ⟨_, hnode, h⟩
  · rintro ⟨node, hnode, h⟩
    exact .node hstatus hnode h

namespace IsComposite

variable {raw : Json}

/-- A status has a leaf. -/
theorem exists_leaf (h : IsComposite raw) : ∃ state, HasLeaf raw state := by
  induction h with
  | leaf hraw _ => exact ⟨_, .leaf hraw⟩
  | wrapper hstatus _ ih =>
      obtain ⟨state, hstate⟩ := ih
      exact ⟨state, .wrapper hstatus hstate⟩
  | nodes hstatus hne _ ih =>
      obtain ⟨node, hnode⟩ := List.exists_mem_of_ne_nil _ hne
      obtain ⟨state, hstate⟩ := ih node hnode
      exact ⟨state, .node hstatus hnode hstate⟩

/-- **A state that is known sums its leaves up.** -/
theorem summarizes (h : IsComposite raw) (hknown : fromRaw raw ≠ .unknown) :
    Summarizes (fromRaw raw) (HasLeaf raw) := by
  -- on the nesting of the status: a wrapper has the leaves of what it wraps, and nodes are summed
  -- up by their states, each of which sums up its own leaves
  induction h with
  | @leaf raw hraw _ =>
      have honly : ∀ s, HasLeaf raw s → s = fromRaw raw := by
        intro s hs
        cases hs with
        | leaf _ => rfl
        | wrapper _ _ => cases hraw
        | node _ _ _ => cases hraw
      cases hstate : fromRaw raw with
      | unknown => exact absurd hstate hknown
      | failed => exact .inl ⟨rfl, hstate ▸ HasLeaf.leaf hraw⟩
      | finished => exact .inr (.inl ⟨rfl, fun s hs => (honly s hs).trans hstate⟩)
      | cancelled => exact .inr (.inr (.inl ⟨rfl, fun s hs => (honly s hs).trans hstate⟩))
      | pristine | building | deploying | running =>
          refine .inr (.inr (.inr ⟨rfl, fun hs => ?_, _, ?_, hstate ▸ HasLeaf.leaf hraw⟩))
          · have heq := (honly _ hs).trans hstate
            cases heq
          · rfl
  | wrapper hstatus _ ih =>
      rw [fromRaw_wrapper hstatus] at hknown ⊢
      have hsame : HasLeaf (.obj _) = HasLeaf _ :=
        funext fun state => propext (hasLeaf_wrapper_iff hstatus)
      rw [hsame]
      exact ih hknown
  | @nodes fields hstatus hne _ ih =>
      rw [fromRaw_nodes hstatus] at hknown ⊢
      have hleaf : ∀ s, HasLeaf (.obj fields) s → ∃ node ∈ fields, HasLeaf node.2 s :=
        fun s => (hasLeaf_nodes_iff hstatus).mp
      have hcases := @aggregateNodeStates_cases (fields.map fun node => fromRaw node.2)
        (by simpa using hne)
      simp only [List.mem_map] at hcases
      rcases hcases with ⟨-, heq⟩ | ⟨hnone, hcases⟩
      · exact absurd heq hknown
      -- no node is unknown, or the whole would be
      have hsub : ∀ node ∈ fields, Summarizes (fromRaw node.2) (HasLeaf node.2) :=
        fun node hnode => ih node hnode fun heq => hnone ⟨node, hnode, heq⟩
      rcases hcases with ⟨⟨node, hnode, hfailed⟩, heq⟩ | ⟨hall, heq⟩ | ⟨hall, heq⟩ |
        ⟨hnofail, ⟨_, ⟨node, hnode, rfl⟩, hactive⟩, hisActive⟩ | ⟨-, -, -, heq⟩
      · exact .inl ⟨heq, .node hstatus hnode (hfailed ▸ hsub node hnode).of_failed⟩
      · refine .inr (.inl ⟨heq, fun s hs => ?_⟩)
        obtain ⟨node, hnode, hs⟩ := hleaf s hs
        exact (hall _ ⟨node, hnode, rfl⟩ ▸ hsub node hnode).of_finished s hs
      · refine .inr (.inr (.inl ⟨heq, fun s hs => ?_⟩))
        obtain ⟨node, hnode, hs⟩ := hleaf s hs
        exact (hall _ ⟨node, hnode, rfl⟩ ▸ hsub node hnode).of_cancelled s hs
      · refine .inr (.inr (.inr ⟨hisActive, fun hs => ?_, ?_⟩))
        · -- a failed leaf would have failed its node
          obtain ⟨node, hnode, hs⟩ := hleaf _ hs
          rcases hsub node hnode with ⟨h, -⟩ | ⟨-, h⟩ | ⟨-, h⟩ | ⟨-, h, -⟩
          · exact hnofail ⟨node, hnode, h⟩
          · cases h _ hs
          · cases h _ hs
          · exact h hs
        · obtain ⟨-, s, hs, hleaf⟩ := (hsub node hnode).of_isActive hactive
          exact ⟨s, hs, .node hstatus hnode hleaf⟩
      · exact absurd heq hknown

/-- A part that ends mixed has no state, and neither has the whole. -/
theorem fromRaw_of_within {part : Json} (hwithin : Within part raw)
    (hpart : fromRaw part = .unknown) : fromRaw raw = .unknown := by
  induction hwithin with
  | refl => exact hpart
  | wrapper hstatus _ ih => rw [fromRaw_wrapper hstatus, ih]
  | @node fields node hstatus hnode _ ih =>
      -- an unknown node makes the level unknown, whatever the other nodes are
      have hmem : DaliugeSessionState.unknown ∈ fields.map fun node => fromRaw node.2 :=
        List.mem_map.mpr ⟨node, hnode, ih⟩
      rw [fromRaw_nodes hstatus, aggregateNodeStates, if_pos (.inr hmem)]

theorem of_within {part : Json} (h : IsComposite raw) (hwithin : Within part raw) :
    IsComposite part := by
  induction hwithin with
  | refl => exact h
  | wrapper hstatus _ ih =>
      cases h with
      | leaf hraw _ => cases hraw
      | wrapper hstatus' h =>
          rw [hstatus] at hstatus'
          cases hstatus'
          exact ih h
      | nodes hnone _ _ => rw [hstatus] at hnone; cases hnone
  | node hstatus hnode _ ih =>
      cases h with
      | leaf hraw _ => cases hraw
      | wrapper hsome _ => rw [hstatus] at hsome; cases hsome
      | nodes _ _ h => exact ih (h _ hnode)

/-- **When a state is not known**: a part of the status has ended with both finished and cancelled
leaves. -/
theorem fromRaw_eq_unknown_iff (h : IsComposite raw) :
    fromRaw raw = .unknown ↔ ∃ part, Within part raw ∧ EndsMixed part := by
  constructor
  · intro hunknown
    induction h with
    | leaf _ hknown => exact absurd hunknown hknown
    | wrapper hstatus _ ih =>
        rw [fromRaw_wrapper hstatus] at hunknown
        obtain ⟨part, hpart, hmixed⟩ := ih hunknown
        exact ⟨part, .wrapper hstatus hpart, hmixed⟩
    | @nodes fields hstatus hne hnodes ih =>
        by_cases hsub : ∃ node ∈ fields, fromRaw node.2 = .unknown
        · obtain ⟨node, hnode, hsub⟩ := hsub
          obtain ⟨part, hpart, hmixed⟩ := ih node hnode hsub
          exact ⟨part, .node hstatus hnode hpart, hmixed⟩
        -- all nodes have a state, and it is this level that has none
        rw [fromRaw_nodes hstatus] at hunknown
        have hcases := @aggregateNodeStates_cases (fields.map fun node => fromRaw node.2)
          (by simpa using hne)
        simp only [List.mem_map, hunknown] at hcases
        have hknown : ∀ node ∈ fields, fromRaw node.2 ≠ .unknown :=
          fun node hnode heq => hsub ⟨node, hnode, heq⟩
        rcases hcases with ⟨hsome, -⟩ | ⟨-, ⟨-, heq⟩ | ⟨-, heq⟩ | ⟨-, heq⟩ | ⟨-, -, heq⟩ |
          ⟨hended, ⟨first, hfirst, hfinished⟩, ⟨second, hsecond, hcancelled⟩, -⟩⟩
        · exact absurd hsome hsub
        · cases heq
        · cases heq
        · cases heq
        · cases heq
        · have hsums := fun node hnode => (hnodes node hnode).summarizes (hknown node hnode)
          refine ⟨.obj fields, .refl _, fun state hstate => ?_, ?_, ?_⟩
          · obtain ⟨node, hnode, hleaf⟩ := (hasLeaf_nodes_iff hstatus).mp hstate
            rcases hended _ ⟨node, hnode, rfl⟩ with heq | heq
            · exact .inl ((heq ▸ hsums node hnode).of_finished state hleaf)
            · exact .inr ((heq ▸ hsums node hnode).of_cancelled state hleaf)
          · obtain ⟨state, hstate⟩ := (hnodes first hfirst).exists_leaf
            obtain rfl := (hfinished ▸ hsums first hfirst).of_finished state hstate
            exact .node hstatus hfirst hstate
          · obtain ⟨state, hstate⟩ := (hnodes second hsecond).exists_leaf
            obtain rfl := (hcancelled ▸ hsums second hsecond).of_cancelled state hstate
            exact .node hstatus hsecond hstate
  · rintro ⟨part, hpart, hmixed⟩
    refine fromRaw_of_within hpart ?_
    by_contra hknown
    rcases (h.of_within hpart).summarizes hknown with ⟨-, hleaf⟩ | ⟨-, hall⟩ | ⟨-, hall⟩ |
      ⟨-, -, state, hactive, hleaf⟩
    · rcases hmixed.ended _ hleaf with heq | heq <;> cases heq
    · cases hall _ hmixed.cancelled
    · cases hall _ hmixed.finished
    · rcases hmixed.ended _ hleaf with rfl | rfl <;> cases hactive

end IsComposite

/-- A state that sums up leaves of recognised states says what they say. -/
theorem reportsLeaves_of_summarizes {raw : Json} (hleaf : ∃ state, HasLeaf raw state)
    (h : Summarizes (fromRaw raw) (HasLeaf raw)) : ReportsLeaves raw := by
  obtain ⟨some, hsome⟩ := hleaf
  have hkinds : ∀ state : DaliugeSessionState, state.isActive →
      state ≠ .failed ∧ state ≠ .finished ∧ state ≠ .cancelled ∧ state ≠ .unknown := by
    intro state hactive
    cases state with
    | pristine | building | deploying | running => decide
    | _ => cases hactive
  rcases h with ⟨heq, hfailed⟩ | ⟨heq, hall⟩ | ⟨heq, hall⟩ | ⟨hactive, hnofail, active, hisActive,
    hleaf⟩
  · exact
      { failed := iff_of_true heq hfailed
        finished := by
          rw [heq]
          exact iff_of_false (by decide) fun hall => by cases hall _ hfailed
        active := by
          rw [heq]
          exact iff_of_false (by decide) fun h => h.1 hfailed
        cancelled := by
          rw [heq]
          exact iff_of_false (by decide) fun h => h.1 hfailed
        known := by rw [heq]; decide }
  · have hnone : ¬∃ state, state.isActive ∧ HasLeaf raw state := by
      rintro ⟨state, hactive, hstate⟩
      exact (hkinds state hactive).2.1 (hall state hstate)
    exact
      { failed := by
          rw [heq]
          exact iff_of_false (by decide) fun hfailed => by cases hall _ hfailed
        finished := iff_of_true heq hall
        active := by
          rw [heq]
          exact iff_of_false (by decide) fun h => hnone h.2
        cancelled := by
          rw [heq]
          exact iff_of_false (by decide) fun h => h.2.2 hall
        known := by rw [heq]; decide }
  · have hnofail : ¬HasLeaf raw .failed := fun hfailed => by cases hall _ hfailed
    have hnone : ¬∃ state, state.isActive ∧ HasLeaf raw state := by
      rintro ⟨state, hactive, hstate⟩
      exact (hkinds state hactive).2.2.1 (hall state hstate)
    have hnotall : ¬∀ state, HasLeaf raw state → state = .finished := by
      intro hfinished
      have hboth := (hall some hsome).symm.trans (hfinished some hsome)
      cases hboth
    exact
      { failed := by
          rw [heq]
          exact iff_of_false (by decide) hnofail
        finished := by
          rw [heq]
          exact iff_of_false (by decide) hnotall
        active := by
          rw [heq]
          exact iff_of_false (by decide) fun h => hnone h.2
        cancelled := iff_of_true heq ⟨hnofail, hnone, hnotall⟩
        known := by rw [heq]; decide }
  · obtain ⟨hfailed, hfinished, hcancelled, hknown⟩ := hkinds _ hactive
    exact
      { failed := iff_of_false hfailed hnofail
        finished := iff_of_false hfinished fun hall =>
          (hkinds active hisActive).2.1 (hall active hleaf)
        active := iff_of_true hactive ⟨hnofail, active, hisActive, hleaf⟩
        cancelled := iff_of_false hcancelled fun h => h.2.1 ⟨active, hisActive, hleaf⟩
        known := hknown }

/-- **When the state says what the leaves say**: when no part of the status, at any depth, has ended
with both finished and cancelled leaves. -/
theorem reportsLeaves_iff {raw : Json} (h : IsComposite raw) :
    ReportsLeaves raw ↔ ∀ part, Within part raw → ¬EndsMixed part := by
  constructor
  · exact fun hreports part hpart hmixed =>
      hreports.known (h.fromRaw_eq_unknown_iff.mpr ⟨part, hpart, hmixed⟩)
  · intro hnone
    refine reportsLeaves_of_summarizes h.exists_leaf (h.summarizes fun hunknown => ?_)
    obtain ⟨part, hpart, hmixed⟩ := h.fromRaw_eq_unknown_iff.mp hunknown
    exact hnone part hpart hmixed

/-- A session on two nodes: the first has finished, the second has the state. -/
def twoNodes (second : ℤ) : Json :=
  .obj [("nm-a", .num (.int 4)), ("nm-b", .obj [("status", .num (.int second))])]

theorem isComposite_twoNodes {second : ℤ} (h : fromRaw (.num (.int second)) ≠ .unknown) :
    IsComposite (twoNodes second) := by
  refine .nodes rfl (by simp) fun node hnode => ?_
  rcases List.mem_pair.mp hnode with rfl | rfl
  · exact .leaf rfl (by decide)
  · exact .wrapper rfl (.leaf rfl h)

/-- A session of which one node is still deploying. -/
theorem reportsLeaves_iff_sample :
    ReportsLeaves (twoNodes 2) ↔ ∀ part, Within part (twoNodes 2) → ¬EndsMixed part :=
  reportsLeaves_iff (isComposite_twoNodes (by decide))

/-- A session that was cancelled after one of its nodes had finished has no state. -/
theorem cancelled_after_finished : IsComposite (twoNodes 5) ∧ ¬ReportsLeaves (twoNodes 5) := by
  refine ⟨isComposite_twoNodes (by decide), fun h => h.known ?_⟩
  decide

end Beampipe
