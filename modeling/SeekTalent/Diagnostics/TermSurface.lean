import Mathlib.Algebra.BigOperators.Group.List.Basic
import Mathlib.Data.Finset.Sort
import Mathlib.Algebra.Order.Ring.Rat
import SeekTalent.Query.Terms
import SeekTalent.Retrieval.RoundSteps
import SeekTalent.Retrieval.SearchToolSpec

/-!
# The audit of query terms

`build_term_surface_audit` reports for each term of the pool what was found with queries that have
it. The attempts of a round and the records of its queries are kept in two lists and joined again by
round, role, city, phase and batch number. A round numbers its batches across all lanes and passes,
so two searches share a place only within one batch: for one city that the balanced order of the plan
lists twice.
-/

namespace SeekTalent

open Stateful

/-! ## 1. The audit -/

/-- What a `Counter` of attempts counts. -/
inductive CountKind where
  | rawCandidateCount
  | uniqueNewCount
  | duplicateCount

def SearchAttempt.count (attempt : SearchAttempt) : CountKind → Nat
  | .rawCandidateCount => attempt.rawCandidateCount
  | .uniqueNewCount => attempt.batchUniqueNewCount
  | .duplicateCount => attempt.batchDuplicateCount

structure SentQueryKey where
  roundNo : Nat
  queryRole : QueryRole
  city : Option String
  phase : Option LocationExecutionPhase
  batchNo : Nat
  deriving DecidableEq

/-- What the audit reads of a round of `round_history`. -/
structure AuditedRound where
  roundNo : Nat
  searchAttempts : List SearchAttempt

def SearchAttempt.key (attempt : SearchAttempt) (roundNo : Nat) : SentQueryKey :=
  { roundNo, queryRole := attempt.queryRole, city := attempt.city, phase := attempt.phase
    batchNo := attempt.batchNo }

def SentQueryRecord.key (record : SentQueryRecord) : SentQueryKey :=
  { roundNo := record.roundNo, queryRole := record.queryRole, city := record.city
    phase := record.phase, batchNo := record.batchNo }

structure TermSurfaceStats where
  usedRounds : Finset Nat := ∅
  sentQueryCount : Nat := 0
  counts : CountKind → Nat := fun _ => 0

/-- An attempt is added to the `Counter` of its key. -/
def addAttempt (totals : SentQueryKey → CountKind → Nat) (key : SentQueryKey)
    (attempt : SearchAttempt) : SentQueryKey → CountKind → Nat :=
  Function.update totals key fun kind => totals key kind + attempt.count kind

/-- `attempt_totals`; a key that it lacks reads as an empty `Counter`. -/
def attemptTotals (history : List AuditedRound) : SentQueryKey → CountKind → Nat :=
  history.foldl (fun totals round => round.searchAttempts.foldl
    (fun totals attempt => addAttempt totals (attempt.key round.roundNo) attempt) totals)
    fun _ _ => 0

def TermSurfaceStats.add (stats : TermSurfaceStats) (roundNo : Nat) (totals : CountKind → Nat) :
    TermSurfaceStats where
  usedRounds := insert roundNo stats.usedRounds
  sentQueryCount := stats.sentQueryCount + 1
  counts := fun kind => stats.counts kind + totals kind

/-- `_query_containing_term_stats`; a term that it lacks reads as empty stats. -/
def queryContainingTermStats (tables : Py.UnicodeTables) (history : List AuditedRound)
    (sentQueryHistory : List SentQueryRecord) : String → TermSurfaceStats :=
  sentQueryHistory.foldl (fun stats record =>
    let totals := attemptTotals history record.key
    record.queryTerms.foldl (fun stats term =>
      let key := Py.casefold tables term
      Function.update stats key ((stats key).add record.roundNo totals)) stats)
    fun _ => {}

structure TermAudit where
  roundHistory : List AuditedRound
  queryTermPool : List QueryTermCandidate
  sentQueryHistory : List SentQueryRecord
  /-- `(resume_id, source_round)` of the final candidates -/
  finalCandidates : List (String × Nat) := []
  /-- `_positive_final_candidate_ids`, where there is an evaluation -/
  positiveFinalIds : Option (Finset String) := none

/-- A row of `terms`. -/
structure TermAuditRow where
  item : QueryTermCandidate
  usedRounds : List Nat
  sentQueryCount : Nat
  /-- `queries_containing_term_*` -/
  counts : CountKind → Nat
  finalCandidateCountFromUsedRounds : Nat
  judgePositiveCountFromUsedRounds : Option Nat

def TermAudit.row (audit : TermAudit) (tables : Py.UnicodeTables) (item : QueryTermCandidate) :
    TermAuditRow :=
  let stats := queryContainingTermStats tables audit.roundHistory audit.sentQueryHistory
    (Py.casefold tables item.term)
  let finalIds := ((audit.finalCandidates.filter fun candidate =>
    candidate.2 ∈ stats.usedRounds).map Prod.fst).toFinset
  { item
    usedRounds := stats.usedRounds.sort (· ≤ ·)
    sentQueryCount := stats.sentQueryCount
    counts := stats.counts
    finalCandidateCountFromUsedRounds := finalIds.card
    judgePositiveCountFromUsedRounds :=
      audit.positiveFinalIds.map fun positive => (finalIds ∩ positive).card }

/-- `terms` of `build_term_surface_audit` -/
def TermAudit.terms (audit : TermAudit) (tables : Py.UnicodeTables) : List TermAuditRow :=
  audit.queryTermPool.map (audit.row tables)

/-! ## 2. What the tables sum up -/

section Tables

variable {α : Type} {tables : Py.UnicodeTables} {kind : CountKind}

def keyedAttempts (history : List AuditedRound) : List (SentQueryKey × SearchAttempt) :=
  history.flatMap fun round =>
    round.searchAttempts.map fun attempt => (attempt.key round.roundNo, attempt)

theorem attemptTotals_eq (history : List AuditedRound) (key : SentQueryKey) :
    attemptTotals history key kind =
      (((keyedAttempts history).filter fun keyed => keyed.1 = key).map
        fun keyed => keyed.2.count kind).sum := by
  have hloops : attemptTotals history = (keyedAttempts history).foldl
      (fun totals keyed => addAttempt totals keyed.1 keyed.2) fun _ _ => 0 := by
    unfold attemptTotals keyedAttempts
    rw [List.foldl_flatMap]
    simp only [List.foldl_map]
  have hsum : ∀ totals : SentQueryKey → CountKind → Nat,
      (keyedAttempts history).foldl (fun totals keyed => addAttempt totals keyed.1 keyed.2)
        totals key kind = totals key kind +
          (((keyedAttempts history).filter fun keyed => keyed.1 = key).map
            fun keyed => keyed.2.count kind).sum := by
    induction keyedAttempts history with
    | nil => exact fun totals => rfl
    | cons keyed rest ih =>
      intro totals
      rw [List.foldl_cons, ih]
      unfold addAttempt
      by_cases hkey : keyed.1 = key
      · rw [List.filter_cons_of_pos (by simpa using hkey), hkey, Function.update_self,
          List.map_cons, List.sum_cons, Nat.add_assoc]
      · rw [List.filter_cons_of_neg (by simpa using hkey), Function.update_of_ne (Ne.symm hkey)]
  rw [hloops, hsum, Nat.zero_add]

def HasTerm (tables : Py.UnicodeTables) (term : String) (terms : List String) : Prop :=
  Py.casefold tables term ∈ terms.map (Py.casefold tables)

instance (term : String) (terms : List String) : Decidable (HasTerm tables term terms) :=
  inferInstanceAs (Decidable (_ ∈ _))

/-- The terms of a query are told apart by more than their case. -/
def TermsApart (tables : Py.UnicodeTables) (terms : List String) : Prop :=
  (terms.map (Py.casefold tables)).Nodup

theorem foldl_terms {roundNo : Nat} {totals : CountKind → Nat} {terms : List String}
    (hterms : TermsApart tables terms) (stats : String → TermSurfaceStats) (key : String) :
    terms.foldl (fun stats term =>
      Function.update stats (Py.casefold tables term)
        ((stats (Py.casefold tables term)).add roundNo totals)) stats key =
      if key ∈ terms.map (Py.casefold tables) then (stats key).add roundNo totals
      else stats key := by
  induction terms generalizing stats with
  | nil => rfl
  | cons term terms ih =>
    obtain ⟨hnew, hrest⟩ := List.nodup_cons.mp hterms
    rw [List.foldl_cons, ih hrest, List.map_cons]
    by_cases hkey : key = Py.casefold tables term
    · rw [hkey, if_neg hnew, if_pos List.mem_cons_self, Function.update_self]
    · have hmem : key ∈ Py.casefold tables term :: terms.map (Py.casefold tables) ↔
          key ∈ terms.map (Py.casefold tables) := by
        rw [List.mem_cons, or_iff_right hkey]
      rw [Function.update_of_ne hkey]
      simp only [hmem]

theorem queryContainingTermStats_eq {history : List AuditedRound} {sent : List SentQueryRecord}
    (hsent : ∀ record ∈ sent, TermsApart tables record.queryTerms) (term : String) :
    (queryContainingTermStats tables history sent (Py.casefold tables term)).sentQueryCount =
        (sent.filter fun record => HasTerm tables term record.queryTerms).length ∧
      (queryContainingTermStats tables history sent (Py.casefold tables term)).counts kind =
        ((sent.filter fun record => HasTerm tables term record.queryTerms).map
          fun record => attemptTotals history record.key kind).sum := by
  induction sent using List.reverseRecOn with
  | nil => exact ⟨rfl, rfl⟩
  | append_singleton sent record ih =>
    obtain ⟨hfirst, hlast⟩ := List.forall_mem_append.mp hsent
    obtain ⟨hcount, hsum⟩ := ih hfirst
    have hstats : queryContainingTermStats tables history (sent ++ [record])
        (Py.casefold tables term) =
        if HasTerm tables term record.queryTerms then
          (queryContainingTermStats tables history sent (Py.casefold tables term)).add
            record.roundNo (attemptTotals history record.key)
        else queryContainingTermStats tables history sent (Py.casefold tables term) := by
      unfold queryContainingTermStats
      rw [List.foldl_append, List.foldl_cons, List.foldl_nil]
      exact foldl_terms (hlast record (List.mem_singleton_self _)) _ _
    rw [hstats, List.filter_append]
    by_cases hterm : HasTerm tables term record.queryTerms
    · rw [if_pos hterm, List.filter_cons_of_pos (by simpa using hterm), List.filter_nil,
        List.length_append, List.map_append, List.sum_append, ← hcount, ← hsum]
      exact ⟨rfl, rfl⟩
    · rw [if_neg hterm, List.filter_cons_of_neg (by simpa using hterm), List.filter_nil,
        List.append_nil]
      exact ⟨hcount, hsum⟩

theorem flatMap_filter_key {β κ : Type} [DecidableEq κ] {key : α → κ} {keyOf : β → κ}
    {g : α → List β} {l : List α} (hnodup : (l.map key).Nodup)
    (hkeys : ∀ a ∈ l, ∀ b ∈ g a, keyOf b = key a) {a : α} (ha : a ∈ l) :
    (l.flatMap g).filter (fun b => keyOf b = key a) = g a := by
  induction l with
  | nil => cases ha
  | cons x l ih =>
    obtain ⟨hnew, hrest⟩ := List.nodup_cons.mp hnodup
    obtain ⟨hx, hl⟩ := List.forall_mem_cons.mp hkeys
    rw [List.flatMap_cons, List.filter_append]
    rcases List.mem_cons.mp ha with rfl | ha
    · have hown : (g a).filter (fun b => keyOf b = key a) = g a :=
        List.filter_eq_self.mpr fun b hb => decide_eq_true (hx b hb)
      have hothers : (l.flatMap g).filter (fun b => keyOf b = key a) = [] := by
        apply List.filter_eq_nil_iff.mpr
        intro b hb hkey
        obtain ⟨y, hy, hby⟩ := List.mem_flatMap.mp hb
        rw [← of_decide_eq_true hkey, hl y hy b hby] at hnew
        exact hnew (List.mem_map_of_mem hy)
      rw [hown, hothers, List.append_nil]
    · have hnone : (g x).filter (fun b => keyOf b = key a) = [] := by
        apply List.filter_eq_nil_iff.mpr
        intro b hb hkey
        rw [← hx b hb, of_decide_eq_true hkey] at hnew
        exact hnew (List.mem_map_of_mem ha)
      rw [hnone, List.nil_append, ih hrest hl ha]

end Tables

/-! ## 3. The places of searches -/

section Round

variable {F : Type} {c : RoundCall F} {lane : LogicalQuery} {i : Nat} {n : Int} {s s' : RoundState}

structure RoundState.PlacesApart (s : RoundState) : Prop where
  nodup : (s.log.map fun d => (d.city, d.call.batchNo)).Nodup
  bounded : ∀ d ∈ s.log, d.call.batchNo ≤ s.batchNo

def RoundState.Unsearched (cities : List (Option String)) (s : RoundState) : Prop :=
  ∀ d ∈ s.log, d.call.batchNo = s.batchNo → d.city ∉ cities

theorem RoundState.PlacesApart.keep (h : s.PlacesApart) (hlog : s'.log = s.log)
    (hbatch : s'.batchNo = s.batchNo) : s'.PlacesApart := by
  refine ⟨?_, ?_⟩
  · rw [hlog]
    exact h.nodup
  · rw [hlog, hbatch]
    exact h.bounded

theorem RoundState.PlacesApart.startBatch (h : s.PlacesApart) (cities : List (Option String)) :
    (s.startBatch i).PlacesApart ∧ (s.startBatch i).Unsearched cities := by
  refine ⟨⟨h.nodup, fun d hd => Nat.le_succ_of_le (h.bounded d hd)⟩, ?_⟩
  intro d hd heq
  exact absurd (h.bounded d hd) (by rw [heq]; exact Nat.not_succ_le_self _)

theorem RoundState.PlacesApart.snoc {d : Dispatch} {cities : List (Option String)}
    (hlog : s'.log = s.log ++ [d]) (hbatch : s'.batchNo = s.batchNo)
    (hd : d.call.batchNo = s.batchNo) (h : s.PlacesApart)
    (hnew : s.Unsearched (d.city :: cities)) (hcity : d.city ∉ cities) : s'.PlacesApart ∧ s'.Unsearched cities := by
  refine ⟨⟨?_, ?_⟩, ?_⟩
  · rw [hlog, List.map_append, List.map_singleton, List.nodup_append]
    refine ⟨h.nodup, List.nodup_singleton _, ?_⟩
    intro place hplace place' hplace' heq
    obtain ⟨d', hd', rfl⟩ := List.mem_map.mp hplace
    rw [List.mem_singleton.mp hplace', Prod.mk.injEq] at heq
    exact hnew d' hd' (heq.2.trans hd) (by rw [heq.1]; exact List.mem_cons_self)
  · rw [hlog, hbatch]
    exact List.forall_mem_append.mpr ⟨h.bounded, List.forall_mem_singleton.mpr hd.le⟩
  · intro d' hd' heq
    rw [hbatch] at heq
    rw [hlog] at hd'
    rcases List.mem_append.mp hd' with hd' | hd'
    · exact fun hmem => hnew d' hd' heq (List.mem_cons_of_mem _ hmem)
    · rw [List.mem_singleton.mp hd']
      exact hcity

/-- Only the assertions count here, not the steps. -/
def Anywhere (_ _ : RoundState) : Prop := True

theorem afterCity_batchNo (d : Dispatch) (i lane city phase st) :
    (s.afterCity d i lane city phase st).batchNo = s.batchNo := by
  unfold RoundState.afterCity
  cases d.run.outcome <;> rfl

theorem afterPlain_batchNo (d : Dispatch) : (s.afterPlain d i).batchNo = s.batchNo := by
  unfold RoundState.afterPlain
  cases d.run.outcome <;> rfl

theorem endPass_batchNo : (c.endPass i s).batchNo = s.batchNo := by
  unfold RoundCall.endPass
  split <;> rfl

theorem nodup_allocated {cities : List String} (h : cities.Nodup) (m : Int) :
    ((allocateBalancedCityTargets cities m).map Prod.fst).Nodup := by
  unfold allocateBalancedCityTargets
  split
  · exact List.nodup_nil
  · refine List.Nodup.sublist (List.filter_sublist.map _) ?_
    rw [List.map_map]
    exact (List.zipIdx_map_fst 0 cities).symm ▸ h

variable [PyFloat F]

theorem placesApart_dispatchTargets {phase : LocationExecutionPhase} :
    ∀ targets : List (String × Int), (targets.map Prod.fst).Nodup →
      Follows Anywhere (fun s => s.PlacesApart ∧ s.Unsearched (targets.map fun t => some t.1))
        (c.dispatchTargets i lane phase targets) (fun _ s => s.PlacesApart)
  | [], _ => Follows.pure fun _ hs => hs.1
  | (city, m) :: rest, hnodup => by
    obtain ⟨hcity, hrest⟩ := List.nodup_cons.mp hnodup
    unfold RoundCall.dispatchTargets
    refine Follows.get.bind fun a => ?_
    cases (a.lanes i).cityStates city with
    | none => exact Follows.throw _
    | some st =>
      dsimp only
      generalize hd : c.dispatchOf a i lane (some city) (some phase) st.nextPage st.exhausted m = d
      refine Follows.bind (Q := fun _ s => s.PlacesApart ∧
        s.Unsearched (rest.map fun t => some t.1)) (Follows.modify (fun _ _ => trivial) ?_)
        fun _ => ?_
      · rintro s ⟨hs, hplaces, hnew⟩
        subst hs hd
        refine RoundState.PlacesApart.snoc (RoundState.afterCity_kept a _ i lane city phase st).1
          (afterCity_batchNo _ _ _ _ _ _) rfl hplaces hnew ?_
        intro hmem
        obtain ⟨t, ht, heq⟩ := List.mem_map.mp hmem
        exact hcity (List.mem_map.mpr ⟨t, ht, Option.some.inj heq⟩)
      refine ((follows_raiseIfFailed d).conseq (fun s hs _ _ => hs) fun _ _ h => h).bind fun _ => ?_
      refine (follows_flushProviderReturns d).bind fun _ => ?_
      refine (follows_registerDispatchOutcome d (fun _ _ _ _ => trivial) ?_).bind fun _ =>
        Follows.ite (fun _ => placesApart_dispatchTargets rest hrest) fun _ =>
          Follows.pure fun _ hs => hs.1
      exact fun s _ _ _ hs => ⟨hs.1.keep rfl rfl, hs.2⟩

theorem placesApart_runDispatches {phase : LocationExecutionPhase} {targets : List (String × Int)}
    (htargets : (targets.map Prod.fst).Nodup) :
    Follows Anywhere RoundState.PlacesApart (c.runDispatches i lane phase targets)
      (fun _ s => s.PlacesApart) := by
  unfold RoundCall.runDispatches
  refine Follows.ite (fun _ => Follows.pure fun _ hs => hs) fun _ => ?_
  exact Follows.bind (Follows.modify (fun _ _ => trivial) fun s hs => hs.startBatch _)
    fun _ => placesApart_dispatchTargets targets htargets

theorem placesApart_priorityLoop (cities : List String) :
    Follows Anywhere RoundState.PlacesApart (c.priorityLoop i lane cities)
      (fun _ s => s.PlacesApart) := by
  induction cities with
  | nil => exact Follows.pure fun _ hs => hs
  | cons city rest ih =>
    unfold RoundCall.priorityLoop
    refine Follows.get.bind fun a => ?_
    refine Follows.ite (fun _ => Follows.pure fun _ hs => hs.2) fun _ => ?_
    refine ((placesApart_runDispatches (by simp)).pre fun _ hs => hs.2).bind
      fun stop => ?_
    exact Follows.ite (fun _ => Follows.pure fun _ hs => hs) fun _ => ih

theorem placesApart_balancedLoop (hplan : c.plan.balancedOrder.Nodup) (fuel : Nat) :
    Follows Anywhere RoundState.PlacesApart (c.balancedLoop i lane fuel)
      (fun _ s => s.PlacesApart) := by
  induction fuel with
  | zero => exact Follows.throw _
  | succ fuel ih =>
    unfold RoundCall.balancedLoop
    refine Follows.get.bind fun a => ?_
    refine Follows.ite (fun _ => Follows.pure fun _ hs => hs.2) fun _ => ?_
    refine Follows.ite (fun _ => Follows.pure fun _ hs => hs.2) fun _ => ?_
    refine ((placesApart_runDispatches (nodup_allocated (hplan.filter _) _)).pre
      fun _ hs => hs.2).bind fun stop => ?_
    exact Follows.ite (fun _ => Follows.pure fun _ hs => hs) fun _ => ih

theorem placesApart_plainDispatch :
    Follows Anywhere RoundState.PlacesApart (c.plainDispatch i lane n)
      (fun _ s => s.PlacesApart) := by
  unfold RoundCall.plainDispatch
  refine Follows.bind (Q := fun _ s => s.PlacesApart ∧ s.Unsearched [none])
    (Follows.modify (fun _ _ => trivial) fun s hs => hs.startBatch [none]) fun _ => ?_
  refine Follows.get.bind fun a => ?_
  dsimp only
  generalize hd : c.dispatchOf a i lane none none (a.lanes i).nextPage (a.lanes i).exhausted n = d
  refine Follows.bind (Q := fun _ s => s.PlacesApart) (Follows.modify (fun _ _ => trivial) ?_)
    fun _ => ?_
  · rintro s ⟨hs, hplaces, hnew⟩
    subst hs hd
    have hplain := (RoundState.afterPlain_kept a (c.dispatchOf a i lane none none
      (a.lanes i).nextPage (a.lanes i).exhausted n) i).1
    exact (RoundState.PlacesApart.snoc hplain (afterPlain_batchNo _) rfl hplaces hnew
      List.not_mem_nil).1
  refine ((follows_raiseIfFailed d).conseq (fun s hs _ _ => hs) fun _ _ h => h).bind fun _ => ?_
  refine (follows_flushProviderReturns d).bind fun _ => ?_
  exact (follows_registerDispatchOutcome d (fun _ _ _ _ => trivial)
    fun s _ _ _ hs => hs.keep rfl rfl).bind fun _ => Follows.pure fun _ hs => hs

theorem placesApart_searchCities (hplan : c.plan.balancedOrder.Nodup) :
    Follows Anywhere RoundState.PlacesApart (c.searchCities i lane n)
      (fun _ s => s.PlacesApart) := by
  unfold RoundCall.searchCities
  cases c.plan.mode with
  | none => exact placesApart_plainDispatch
  | single =>
    cases c.plan.allowedLocations with
    | nil => exact Follows.throw _
    | cons city rest =>
      exact (placesApart_runDispatches (by simp)).bind
        fun _ => Follows.pure fun _ hs => hs
  | priorityThenFallback =>
    exact (placesApart_priorityLoop _).bind fun stop => Follows.ite
      (fun _ => Follows.pure fun _ hs => hs) fun _ => placesApart_balancedLoop hplan _
  | balancedAll => exact placesApart_balancedLoop hplan _

theorem placesApart_collect (hplan : c.plan.balancedOrder.Nodup) :
    Follows Anywhere RoundState.PlacesApart (c.collectCandidatesForQuery i lane n)
      (fun _ s => s.PlacesApart) := by
  unfold RoundCall.collectCandidatesForQuery
  refine Follows.get.bind fun a => ?_
  refine Follows.ite (fun _ => Follows.pure fun _ hs => hs.2) fun _ => ?_
  refine Follows.bind (Q := fun _ s => s.PlacesApart) (Follows.modify (fun _ _ => trivial) ?_)
    fun _ => ?_
  · intro s hs
    exact hs.2.keep rfl rfl
  refine (placesApart_searchCities hplan).bind fun _ => ?_
  exact Follows.modify (fun _ _ => trivial) fun s hs =>
    hs.keep (c.endPass_finished i s).log_eq endPass_batchNo

theorem placesApart_initialPass (hplan : c.plan.balancedOrder.Nodup) (targets : LaneType → Int)
    (lanes : List (LogicalQuery × Nat)) :
    Follows Anywhere RoundState.PlacesApart (c.initialPass targets lanes)
      (fun _ s => s.PlacesApart) := by
  induction lanes with
  | nil => exact Follows.pure fun _ hs => hs
  | cons l rest ih => exact (placesApart_collect hplan).bind fun _ => ih

theorem placesApart_refillPass (hplan : c.plan.balancedOrder.Nodup)
    (lanes : List (LogicalQuery × Nat)) :
    Follows Anywhere RoundState.PlacesApart (c.refillPass lanes) (fun _ s => s.PlacesApart) := by
  induction lanes with
  | nil => exact Follows.pure fun _ hs => hs
  | cons l rest ih =>
    unfold RoundCall.refillPass
    refine Follows.get.bind fun a => ?_
    refine Follows.ite (fun _ => Follows.pure fun _ hs => hs.2) fun _ => ?_
    refine Follows.ite (fun _ => ?_) fun _ => ih.pre fun _ hs => hs.2
    refine ((placesApart_collect hplan).pre fun _ hs => hs.2).bind fun _ => ?_
    refine Follows.get.bind fun a' => ?_
    exact (ih.pre fun _ hs => hs.2).bind fun _ => Follows.pure fun _ hs => hs

theorem placesApart_refillLoop (hplan : c.plan.balancedOrder.Nodup) (fuel : Nat) :
    Follows Anywhere RoundState.PlacesApart (c.refillLoop fuel) (fun _ s => s.PlacesApart) := by
  induction fuel with
  | zero => exact Follows.throw _
  | succ fuel ih =>
    unfold RoundCall.refillLoop
    refine Follows.get.bind fun a => ?_
    refine Follows.ite (fun _ => ?_) fun _ => Follows.pure fun _ hs => hs.2
    refine ((placesApart_refillPass hplan _).pre fun _ hs => hs.2).bind fun progressed => ?_
    exact Follows.ite (fun _ => ih) fun _ => Follows.pure fun _ hs => hs

/-- **A round that returned** has searched no place twice. -/
theorem placesApart_searches {result : RetrievalExecutionResult}
    (hplan : c.plan.balancedOrder.Nodup) (hok : c.outcome.1 = .ok result) :
    (c.searches.map fun d => (d.city, d.call.batchNo)).Nodup := by
  have hfollows : Follows Anywhere RoundState.PlacesApart c.executeRoundSearch
      (fun _ s => s.PlacesApart) := by
    unfold RoundCall.executeRoundSearch RoundCall.searchRound
    refine Follows.bind (Follows.bind (placesApart_initialPass hplan _ _)
      fun _ => placesApart_refillLoop hplan _) fun _ => ?_
    exact Follows.get.bind fun a => Follows.pure fun s hs => hs.2
  exact ((hfollows c.initial ⟨List.nodup_nil, fun _ hd => absurd hd List.not_mem_nil⟩).2
    result hok).nodup

end Round

/-! ## 4. The audit of a run -/

section Audit

variable {F : Type} [PyFloat F] {tables : Py.UnicodeTables}

structure SearchedRound (F : Type) [PyFloat F] where
  call : RoundCall F
  result : RetrievalExecutionResult
  returned : call.outcome.1 = .ok result

structure SearchedRun (F : Type) [PyFloat F] where
  rounds : List (SearchedRound F)
  roundNos : (rounds.map (·.call.roundNo)).Nodup
  queryTermPool : List QueryTermCandidate
  finalCandidates : List (String × Nat) := []
  positiveFinalIds : Option (Finset String) := none

def SearchedRun.audit (run : SearchedRun F) : TermAudit :=
  { roundHistory := run.rounds.map fun round => ⟨round.call.roundNo, round.result.searchAttempts⟩
    queryTermPool := run.queryTermPool
    sentQueryHistory := run.rounds.flatMap (·.result.sentQueryRecords)
    finalCandidates := run.finalCandidates
    positiveFinalIds := run.positiveFinalIds }

/-- The searches that were made with a query that has the term. -/
def SearchedRun.searchesWith (run : SearchedRun F) (tables : Py.UnicodeTables) (term : String) :
    List Dispatch :=
  (run.rounds.flatMap (·.call.searches)).filter fun d =>
    HasTerm tables term d.call.query.queryTerms

/-- The figures of a row are those of the searches: each of them was sent once, and each of their
    attempts is counted once. -/
structure TermAuditRow.Counts (row : TermAuditRow) (searches : List Dispatch) : Prop where
  sent : row.sentQueryCount = searches.length
  attempts : ∀ kind, row.counts kind =
    ((searches.flatMap (·.run.final.attempts)).map (·.count kind)).sum

def SearchedRun.sent (run : SearchedRun F) : List (SearchedRound F × Dispatch) :=
  run.rounds.flatMap fun round => round.call.searches.map fun d => (round, d)

def sentRecord (search : SearchedRound F × Dispatch) : SentQueryRecord :=
  search.1.call.sentQueryRecord search.2

theorem executeSearchTool_key (rt : RetrievalRuntime) (call : ToolCall) (roundNo : Nat) :
    ∀ attempt ∈ (executeSearchTool rt call).final.attempts, attempt.key roundNo =
      { roundNo, queryRole := call.query.queryRole, city := call.query.city, phase := call.phase
        batchNo := call.batchNo } := by
  refine (searchLoop_absorb_rule (I := fun st => ∀ attempt ∈ st.attempts, attempt.key roundNo = _)
    (J := fun st => ∀ attempt ∈ st.attempts, attempt.key roundNo = _) ?_ (fun _ h => h)
    (fun _ _ h _ _ => h) ?_).1
  · intro st result snapshots hst _ _
    exact List.forall_mem_append.mpr ⟨hst, List.forall_mem_singleton.mpr rfl⟩
  · exact fun _ h => absurd h List.not_mem_nil

variable {run : SearchedRun F}

theorem SearchedRound.result_eq (round : SearchedRound F) :
    round.result = round.call.result round.call.outcome.2 :=
  (RoundCall.outcome_ok round.returned).2

theorem sentQueryHistory_eq (run : SearchedRun F) :
    run.audit.sentQueryHistory = run.sent.map sentRecord := by
  unfold SearchedRun.audit SearchedRun.sent
  rw [List.map_flatMap]
  dsimp only
  congr 1
  funext round
  rw [round.result_eq, List.map_map]
  rfl

theorem searchesWith_eq (run : SearchedRun F) (term : String) : run.searchesWith tables term =
    (run.sent.filter fun search => HasTerm tables term (sentRecord search).queryTerms).map
      Prod.snd := by
  unfold SearchedRun.searchesWith SearchedRun.sent
  have hsearches : run.rounds.flatMap (·.call.searches) =
      (run.rounds.flatMap fun round => round.call.searches.map fun d => (round, d)).map
        Prod.snd := by
    rw [List.map_flatMap]
    congr 1
    funext round
    rw [List.map_map]
    exact (List.map_id _).symm
  rw [hsearches, List.filter_map]
  rfl

theorem attempt_key {search : SearchedRound F × Dispatch} (h : search ∈ run.sent) :
    ∀ attempt ∈ search.2.run.final.attempts,
      attempt.key search.1.call.roundNo = (sentRecord search).key := by
  obtain ⟨round, -, hround⟩ := List.mem_flatMap.mp h
  obtain ⟨d, hd, rfl⟩ := List.mem_map.mp hround
  dsimp only
  rw [(round.call.made d hd).run_eq]
  exact executeSearchTool_key _ d.call _

theorem nodup_searchKeys (hplans : ∀ round ∈ run.rounds, round.call.plan.balancedOrder.Nodup) :
    (run.sent.map fun search => (sentRecord search).key).Nodup := by
  unfold SearchedRun.sent
  rw [List.map_flatMap, List.nodup_flatMap]
  refine ⟨?_, (List.pairwise_map.mp run.roundNos).imp ?_⟩
  · intro round hround
    have hplaces := placesApart_searches (hplans round hround) round.returned
    refine List.Nodup.of_map (fun key : SentQueryKey => (key.city, key.batchNo)) ?_
    rw [List.map_map, List.map_map]
    exact hplaces
  · intro round other hne key hkey hother
    dsimp only at hkey hother
    rw [List.map_map] at hkey hother
    obtain ⟨d, -, rfl⟩ := List.mem_map.mp hkey
    obtain ⟨d', -, heq⟩ := List.mem_map.mp hother
    exact hne (congrArg SentQueryKey.roundNo heq).symm

theorem attemptTotals_search (hplans : ∀ round ∈ run.rounds, round.call.plan.balancedOrder.Nodup)
    {search : SearchedRound F × Dispatch} (h : search ∈ run.sent) (kind : CountKind) :
    attemptTotals run.audit.roundHistory (sentRecord search).key kind =
      (search.2.run.final.attempts.map (·.count kind)).sum := by
  let keyed : SearchedRound F × Dispatch → List (SentQueryKey × SearchAttempt) := fun search =>
    search.2.run.final.attempts.map fun attempt =>
      (attempt.key search.1.call.roundNo, attempt)
  have hkeyed : keyedAttempts run.audit.roundHistory = run.sent.flatMap keyed := by
    unfold keyedAttempts SearchedRun.audit SearchedRun.sent
    rw [List.flatMap_assoc, List.flatMap_map]
    congr 1
    funext round
    rw [round.result_eq, List.flatMap_map]
    exact List.map_flatMap
  have hkeys : ∀ search ∈ run.sent, ∀ entry ∈ keyed search, entry.1 = (sentRecord search).key := by
    intro search hsearch entry hentry
    obtain ⟨attempt, hattempt, rfl⟩ := List.mem_map.mp hentry
    exact attempt_key hsearch attempt hattempt
  rw [attemptTotals_eq, hkeyed, flatMap_filter_key (nodup_searchKeys hplans) hkeys h, List.map_map]
  rfl

/-- **The figures of a term** are those of the searches with it, if no plan lists a city twice in its
    balanced order. -/
theorem terms_count (run : SearchedRun F)
    (hplans : ∀ round ∈ run.rounds, round.call.plan.balancedOrder.Nodup)
    (hterms : ∀ round ∈ run.rounds, ∀ lane ∈ round.call.queryStates,
      TermsApart tables lane.queryTerms) :
    ∀ row ∈ run.audit.terms tables, row.Counts (run.searchesWith tables row.item.term) := by
  intro row hrow
  obtain ⟨item, -, rfl⟩ := List.mem_map.mp hrow
  have hapart : ∀ record ∈ run.audit.sentQueryHistory, TermsApart tables record.queryTerms := by
    intro record hrecord
    rw [sentQueryHistory_eq] at hrecord
    obtain ⟨search, hsearch, rfl⟩ := List.mem_map.mp hrecord
    obtain ⟨round, hround, hmem⟩ := List.mem_flatMap.mp hsearch
    obtain ⟨d, hd, rfl⟩ := List.mem_map.mp hmem
    exact hterms round hround _ (List.mem_of_getElem? (round.call.made d hd).lane_eq)
  refine ⟨?_, ?_⟩
  · refine (@queryContainingTermStats_eq _ .rawCandidateCount _ _ hapart item.term).1.trans ?_
    rw [sentQueryHistory_eq, searchesWith_eq, List.filter_map, List.length_map, List.length_map]
    rfl
  · intro kind
    refine (queryContainingTermStats_eq hapart item.term).2.trans ?_
    rw [sentQueryHistory_eq, searchesWith_eq, List.filter_map, List.map_map, List.flatMap_map,
      List.map_flatMap, List.flatMap_def, List.sum_flatten, List.map_map]
    apply congrArg List.sum
    apply List.map_congr_left
    intro search hsearch
    exact attemptTotals_search hplans (List.mem_of_mem_filter hsearch) kind

end Audit

def batchOver (cities : List String) : RoundCall Rat :=
  { runtime := { search := fun _ _ => .ok { rawCandidateCount := 1 } }
    plan :=
      { mode := .balancedAll, allowedLocations := cities, balancedOrder := cities, targetNew := 2 }
    queryStates :=
      [{ queryRole := .exploit, laneType := .exploit, queryTerms := ["go"], keywordQuery := "go"
         queryInstanceId := "q-go", queryFingerprint := "f-go" }]
    targetNew := 2
    thresholds := .default }

theorem returned_batchOver {cities : List String}
    (hok : (batchOver cities).outcome.1.isOk = true) :
    (batchOver cities).outcome.1 = .ok ((batchOver cities).result (batchOver cities).outcome.2) := by
  cases h : (batchOver cities).outcome.1 with
  | ok result => rw [(RoundCall.outcome_ok h).2]
  | error e =>
    rw [h] at hok
    cases hok

def runOver (cities : List String) (hok : (batchOver cities).outcome.1.isOk = true) :
    SearchedRun Rat where
  rounds := [⟨batchOver cities, _, returned_batchOver hok⟩]
  roundNos := List.nodup_singleton _
  queryTermPool :=
    [{ term := "Go", source := .jd, category := .tooling, priority := 1, evidence := ""
       firstAddedRound := 0 }]

theorem termsApart_runOver {cities : List String}
    {hok : (batchOver cities).outcome.1.isOk = true} : ∀ round ∈ (runOver cities hok).rounds,
      ∀ lane ∈ round.call.queryStates, TermsApart .ascii lane.queryTerms := by
  intro round hround lane hlane
  rw [List.mem_singleton.mp hround] at hlane
  rw [List.mem_singleton.mp hlane]
  exact List.nodup_singleton _

theorem terms_count_twoCities : ∃ hok, ∀ row ∈ (runOver ["Beijing", "Shanghai"] hok).audit.terms
    .ascii, row.Counts
      ((runOver ["Beijing", "Shanghai"] hok).searchesWith .ascii row.item.term) := by
  have hok : (batchOver ["Beijing", "Shanghai"]).outcome.1.isOk = true := by decide
  have hplans : ∀ round ∈ (runOver ["Beijing", "Shanghai"] hok).rounds,
      round.call.plan.balancedOrder.Nodup := by
    intro round hround
    rw [List.mem_singleton.mp hround]
    exact (by decide : ["Beijing", "Shanghai"].Nodup)
  exact ⟨hok, terms_count _ hplans termsApart_runOver⟩

theorem isOk_cityTwice : (batchOver ["Beijing", "Beijing"]).outcome.1.isOk = true := by
  decide

/-- Both searches of a batch over one city have the attempts of both. -/
theorem not_terms_count : ¬∀ run : SearchedRun Rat,
    (∀ round ∈ run.rounds, ∀ lane ∈ round.call.queryStates, TermsApart .ascii lane.queryTerms) →
      ∀ row ∈ run.audit.terms .ascii, row.Counts (run.searchesWith .ascii row.item.term) := by
  intro h
  have hrow := (h (runOver _ isOk_cityTwice) termsApart_runOver _
    (List.mem_singleton_self _)).attempts .rawCandidateCount
  have hne : ((runOver _ isOk_cityTwice).audit.row .ascii
      (runOver _ isOk_cityTwice).queryTermPool[0]).counts .rawCandidateCount ≠
        ((((runOver _ isOk_cityTwice).searchesWith .ascii "Go").flatMap
          (·.run.final.attempts)).map (·.count .rawCandidateCount)).sum := by
    decide
  exact hne hrow

end SeekTalent
