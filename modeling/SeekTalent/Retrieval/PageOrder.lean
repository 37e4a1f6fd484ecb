import Mathlib.Algebra.Order.BigOperators.Group.List
import Mathlib.Data.List.ProdSigma
import SeekTalent.Retrieval.Coverage
import SeekTalent.Retrieval.RoundPasses

/-!
# The pages of a round

Each lane and city keeps the page it has reached from one search to the next, so the pages
asked for it are 1, 2, 3 and so on up to the page limit. That bounds the requests of a round,
whatever the provider answers.
-/

namespace SeekTalent

open Paging

variable {F : Type} {c : RoundCall F} {s s' : RoundState} {i : Nat} {city : Option String}

/-- The page numbers asked for a lane and a city, in order. -/
def pageNosOf (searches : List Dispatch) (i : Nat) (city : Option String) : List Nat :=
  (pagesOf searches i city).map Page.no

/-! ## 1. The page a lane has reached -/

def RoundState.reachedPage (s : RoundState) (i : Nat) : Option String → Option Nat
  | none => some (s.lanes i).nextPage
  | some city => ((s.lanes i).cityStates city).map (·.nextPage)

structure RoundCall.PagesInOrder (c : RoundCall F) (s : RoundState) : Prop where
  pages : ∀ i city, ∃ n ≤ c.runtime.settings.searchMaxPagesPerRound,
    pageNosOf s.log i city = List.range' 1 n
  reached : s.AllReturned → ∀ i city page, s.reachedPage i city = some page →
    page = (pageNosOf s.log i city).length + 1

theorem RoundCall.Made.pageNos {d : Dispatch} (h : c.Made d) :
    d.pages.map Page.no = List.range' d.call.firstPage d.run.final.fetches.length := by
  apply List.ext_getElem?
  intro k
  simp only [Dispatch.pages, List.getElem?_map]
  cases hf : d.run.final.fetches[k]? with
  | none =>
    have hk : d.run.final.fetches.length ≤ k := List.getElem?_eq_none_iff.mp hf
    simp [hk]
  | some f =>
    have hk : k < d.run.final.fetches.length := (List.getElem?_eq_some_iff.mp hf).1
    have hpage : f.query.page = d.call.firstPage + k :=
      congrArg CTSQuery.page (h.paged.query_eq k f hf)
    simp [hk, Fetch.page, hpage]

theorem pageNosOf_append (searches : List Dispatch) (d : Dispatch) :
    pageNosOf (searches ++ [d]) i city = pageNosOf searches i city ++
      if d.lane = i ∧ d.city = city then d.pages.map Page.no else [] := by
  unfold pageNosOf pagesOf Dispatch.isFor
  by_cases hfor : d.lane = i ∧ d.city = city
  · simp [hfor]
  · simp [hfor]

theorem nextPageAfter_eq {d : Dispatch} {reason : ExhaustedReason} (h : c.Made d)
    (hpage : 1 ≤ d.call.query.page) (hok : d.run.outcome = .ok reason) :
    nextPageAfter d.call.query.page d.run.final.attempts =
      d.call.query.page + d.run.final.fetches.length := by
  have hfirst : d.call.firstPage = d.call.query.page := max_eq_left hpage
  rw [h.run_eq] at hok
  have hattempts := executeSearchTool_attempts c.runtime d.call hok
  rw [← h.run_eq] at hattempts
  have hpages : d.run.final.attempts.map (·.requestedPage) =
      List.range' d.call.query.page d.run.final.fetches.length := by
    rw [hattempts, ← hfirst, ← h.pageNos]
    simp [Dispatch.pages, Fetch.page]
  have hlast := congrArg List.getLast? hpages
  rw [List.getLast?_map, List.getLast?_range'] at hlast
  unfold nextPageAfter
  cases hatt : d.run.final.attempts.getLast? with
  | none =>
    rw [hatt] at hlast
    split at hlast
    · rename_i hzero
      simp [hzero]
    · cases hlast
  | some attempt =>
    rw [hatt] at hlast
    split at hlast
    · cases hlast
    · simp only [Option.map_some, Option.some.injEq] at hlast
      dsimp only
      omega

theorem RoundCall.PagesInOrder.search {d : Dispatch} (h : c.PagesInOrder s) (hmade : c.Made d)
    (hlog : s'.log = s.log ++ [d]) (hreturned : s.AllReturned)
    (hreached : s.reachedPage d.lane d.city = some d.call.query.page)
    (hafter : ∀ reason, d.run.outcome = .ok reason → ∀ i city page,
      s'.reachedPage i city = some page →
      (d.lane = i ∧ d.city = city ∧
        page = nextPageAfter d.call.query.page d.run.final.attempts) ∨
      (¬(d.lane = i ∧ d.city = city) ∧ s.reachedPage i city = some page)) :
    c.PagesInOrder s' := by
  obtain ⟨n, hn, hpages⟩ := h.pages d.lane d.city
  have hpage : d.call.query.page = n + 1 := by
    rw [h.reached hreturned d.lane d.city _ hreached, hpages, List.length_range']
  have hfirst : d.call.firstPage = n + 1 := by
    unfold ToolCall.firstPage
    omega
  constructor
  · intro i city
    rw [hlog, pageNosOf_append]
    by_cases hfor : d.lane = i ∧ d.city = city
    · obtain ⟨rfl, rfl⟩ := hfor
      rw [if_pos ⟨rfl, rfl⟩, hpages, hmade.pageNos, hfirst, Nat.add_comm n 1,
        List.range'_append_1]
      refine ⟨_, ?_, rfl⟩
      cases hlast : d.run.final.fetches.getLast? with
      | none =>
        rw [List.getLast?_eq_none_iff.mp hlast]
        exact hn
      | some f =>
        -- the last page is within the limit
        have hmem := List.mem_of_getLast? hlast
        have hlimit := hmade.paged.page_le f hmem
        rw [List.getLast?_eq_getElem?] at hlast
        have hfpage : f.query.page = d.call.firstPage + (d.run.final.fetches.length - 1) :=
          congrArg CTSQuery.page (hmade.paged.query_eq _ f hlast)
        have hpos : 0 < d.run.final.fetches.length := List.length_pos_of_mem hmem
        omega
    · rw [if_neg hfor, List.append_nil]
      exact h.pages i city
  · intro hreturned' i city page hpage'
    have hd : ∃ reason, d.run.outcome = .ok reason :=
      hreturned' d (by rw [hlog]; exact List.mem_append_right _ (List.mem_singleton_self d))
    obtain ⟨reason, hok⟩ := hd
    rw [hlog, pageNosOf_append]
    rcases hafter reason hok i city page hpage' with ⟨rfl, rfl, rfl⟩ | ⟨hfor, hsame⟩
    · rw [if_pos ⟨rfl, rfl⟩, nextPageAfter_eq hmade (by omega) hok, hpages, hmade.pageNos]
      simp only [List.length_append, List.length_range']
      omega
    · rw [if_neg hfor, List.append_nil]
      exact h.reached hreturned i city page hsame

theorem RoundCall.PagesInOrder.quiet (h : c.PagesInOrder s) (hlog : s'.log = s.log)
    (hreached : ∀ i city, s'.reachedPage i city = s.reachedPage i city) : c.PagesInOrder s' := by
  constructor
  · rw [hlog]
    exact h.pages
  · intro hreturned i city page hpage
    rw [hlog]
    rw [hreached] at hpage
    refine h.reached ?_ i city page hpage
    unfold RoundState.AllReturned
    rw [← hlog]
    exact hreturned

theorem RoundCall.pagesInOrder_initial (c : RoundCall F) : c.PagesInOrder c.initial := by
  constructor
  · intro i city
    exact ⟨0, Nat.zero_le _, rfl⟩
  · intro _ i city page hpage
    show page = 1
    cases city with
    | none => simpa [RoundState.reachedPage, RoundCall.initial] using hpage.symm
    | some city =>
      simp only [RoundState.reachedPage, RoundCall.initial] at hpage
      split at hpage
      · simpa using hpage.symm
      · cases hpage

theorem RoundCall.PagesInOrder.step (hstep : c.Step s s') (h : c.PagesInOrder s) :
    c.PagesInOrder s' := by
  cases hstep with
  | beginPass => exact h.quiet rfl fun i city => rfl
  | startBatch => exact h.quiet rfl fun i city => rfl
  | recordOutcome => exact h.quiet rfl fun i city => rfl
  | @endPass i lane_eq =>
    have hkept : ∀ j city, (c.endPass i s).reachedPage j city = s.reachedPage j city := by
      intro j city
      unfold RoundCall.endPass RoundState.settleCities RoundState.finishPass
      split
      · rfl
      · by_cases hj : j = i
        · subst hj
          cases city <;> simp [RoundState.reachedPage]
        · cases city <;> simp [RoundState.reachedPage, hj]
    exact h.quiet (c.endPass_finished i s).log_eq hkept
  | @city i lane city phase st n lane_eq pass_lane state_eq ready returned =>
    generalize hd : c.dispatchOf s i lane (some city) (some phase) st.nextPage st.exhausted n = d
    have hmade : c.Made d := by
      subst hd
      exact ⟨rfl, ready.positive _ (List.mem_singleton_self _), lane_eq, rfl, rfl⟩
    have hlane : d.lane = i := by rw [← hd]; rfl
    have hcity : d.city = some city := by rw [← hd]; rfl
    have hpage : d.call.query.page = st.nextPage := by rw [← hd]; rfl
    refine h.search hmade (s.afterCity_kept d i lane city phase st).1 returned ?_ ?_
    · rw [hlane, hcity, hpage]
      simp [RoundState.reachedPage, state_eq]
    · intro reason hok j city' page hreached
      rw [hlane, hcity, hpage]
      unfold RoundState.afterCity at hreached
      rw [hok] at hreached
      by_cases hj : j = i
      · subst hj
        cases city' with
        | none => exact .inr ⟨by simp, by simpa [RoundState.reachedPage] using hreached⟩
        | some city' =>
          by_cases hc : city' = city
          · subst hc
            refine .inl ⟨rfl, rfl, ?_⟩
            simpa [RoundState.reachedPage, CityExecutionState.after] using hreached.symm
          · refine .inr ⟨by simp [Ne.symm hc], ?_⟩
            simpa [RoundState.reachedPage, hc] using hreached
      · refine .inr ⟨by simp [Ne.symm hj], ?_⟩
        cases city' <;> simpa [RoundState.reachedPage, hj] using hreached
  | @plain i lane n lane_eq pass_lane pos mode_eq returned =>
    generalize hd : c.dispatchOf s i lane none none (s.lanes i).nextPage (s.lanes i).exhausted n = d
    have hmade : c.Made d := by
      subst hd
      exact ⟨rfl, pos, lane_eq, rfl, rfl⟩
    have hlane : d.lane = i := by rw [← hd]; rfl
    have hcity : d.city = none := by rw [← hd]; rfl
    have hpage : d.call.query.page = (s.lanes i).nextPage := by rw [← hd]; rfl
    refine h.search hmade (s.afterPlain_kept d i).1 returned ?_ ?_
    · rw [hlane, hcity, hpage]
      rfl
    · intro reason hok j city' page hreached
      rw [hlane, hcity, hpage]
      unfold RoundState.afterPlain at hreached
      rw [hok] at hreached
      by_cases hj : j = i
      · subst hj
        cases city' with
        | none =>
          refine .inl ⟨rfl, rfl, ?_⟩
          simpa [RoundState.reachedPage, LaneProgress.after] using hreached.symm
        | some city' =>
          refine .inr ⟨by simp, ?_⟩
          simpa [RoundState.reachedPage, LaneProgress.after] using hreached
      · refine .inr ⟨by simp [Ne.symm hj], ?_⟩
        cases city' <;> simpa [RoundState.reachedPage, hj] using hreached

/-! ## 2. The requests of a round -/

/-- Where a round may search: the lane alone without locations, else the lane's cities. -/
def RoundCall.places (c : RoundCall F) : List (Nat × Option String) :=
  List.range c.queryStates.length ×ˢ
    (if c.plan.mode = .none then [none] else c.plan.allowedLocations.dedup.map some)

theorem RoundCall.length_places_le (c : RoundCall F) :
    c.places.length ≤ c.queryStates.length * max 1 c.plan.allowedLocations.dedup.length := by
  unfold RoundCall.places
  rw [List.length_product, List.length_range]
  refine Nat.mul_le_mul le_rfl ?_
  split
  · exact le_max_left _ _
  · rw [List.length_map]
    exact le_max_right _ _

theorem RoundCall.nodup_places (c : RoundCall F) : c.places.Nodup := by
  unfold RoundCall.places
  refine List.nodup_range.product ?_
  split
  · exact List.nodup_singleton none
  · exact (List.nodup_dedup _).map (Option.some_injective _)

def RoundCall.CitiesAllowed (c : RoundCall F) (s : RoundState) : Prop :=
  ∀ i city st, (s.lanes i).cityStates city = some st →
    c.plan.mode ≠ .none ∧ city ∈ c.plan.allowedLocations

structure RoundCall.Placed (c : RoundCall F) (s : RoundState) : Prop where
  cities : c.CitiesAllowed s
  places : ∀ d ∈ s.log, (d.lane, d.city) ∈ c.places

theorem RoundCall.placed_initial (c : RoundCall F) : c.Placed c.initial := by
  refine ⟨?_, fun d hd => absurd hd List.not_mem_nil⟩
  intro i city st hst
  simp only [RoundCall.initial] at hst
  split at hst
  · assumption
  · cases hst

theorem RoundCall.Placed.step (hstep : c.Step s s') (h : c.Placed s) : c.Placed s' := by
  have hlane : ∀ {i : Nat} {lane : LogicalQuery}, c.queryStates[i]? = some lane →
      i ∈ List.range c.queryStates.length :=
    fun h => List.mem_range.mpr (List.getElem?_eq_some_iff.mp h).1
  cases hstep with
  | beginPass => exact ⟨h.cities, h.places⟩
  | startBatch => exact ⟨h.cities, h.places⟩
  | recordOutcome => exact ⟨h.cities, h.places⟩
  | @endPass i lane_eq =>
    refine ⟨?_, ?_⟩
    · intro j city st hst
      refine h.cities j city st ?_
      rw [← hst]
      unfold RoundCall.endPass RoundState.settleCities RoundState.finishPass
      split
      · rfl
      · by_cases hj : j = i
        · subst hj
          simp
        · simp [hj]
    · rw [(c.endPass_finished i s).log_eq]
      exact h.places
  | @city i lane city phase st n lane_eq pass_lane state_eq ready returned =>
    obtain ⟨hmode, hcity⟩ := h.cities i city st state_eq
    refine ⟨?_, ?_⟩
    · intro j city' st' hst'
      unfold RoundState.afterCity at hst'
      split at hst'
      · exact h.cities j city' st' hst'
      · by_cases hj : j = i
        · subst hj
          by_cases hc : city' = city
          · subst hc
            exact ⟨hmode, hcity⟩
          · simp only [Function.update_self, Function.update_of_ne hc] at hst'
            exact h.cities j city' st' hst'
        · simp only [Function.update_of_ne hj] at hst'
          exact h.cities j city' st' hst'
    · rw [(s.afterCity_kept _ i lane city phase st).1]
      refine List.forall_mem_append.mpr ⟨h.places, List.forall_mem_singleton.mpr ?_⟩
      refine List.mem_product.mpr ⟨hlane lane_eq, ?_⟩
      rw [if_neg hmode]
      exact List.mem_map.mpr ⟨city, List.mem_dedup.mpr hcity, rfl⟩
  | @plain i lane n lane_eq pass_lane pos mode_eq returned =>
    refine ⟨?_, ?_⟩
    · intro j city' st' hst'
      refine h.cities j city' st' ?_
      unfold RoundState.afterPlain at hst'
      split at hst'
      · exact hst'
      · by_cases hj : j = i
        · subst hj
          simpa [LaneProgress.after] using hst'
        · simpa [hj] using hst'
    · rw [(s.afterPlain_kept _ i).1]
      refine List.forall_mem_append.mpr ⟨h.places, List.forall_mem_singleton.mpr ?_⟩
      refine List.mem_product.mpr ⟨hlane lane_eq, ?_⟩
      rw [if_pos mode_eq]
      exact List.mem_singleton_self none

theorem sum_fetches_eq (searches : List Dispatch) {places : List (Nat × Option String)}
    (hnodup : places.Nodup) (hplaces : ∀ d ∈ searches, (d.lane, d.city) ∈ places) :
    (searches.map fun d => d.run.final.fetches.length).sum =
      (places.map fun place => (pageNosOf searches place.1 place.2).length).sum := by
  induction searches using List.reverseRecOn with
  | nil => simp [pageNosOf, pagesOf]
  | append_singleton searches d ih =>
    obtain ⟨hbefore, hd⟩ := List.forall_mem_append.mp hplaces
    have hplace := hd d (List.mem_singleton_self d)
    rw [List.map_append, List.sum_append, ih hbefore]
    simp only [pageNosOf_append, List.length_append, List.sum_map_add]
    -- only the place of `d` counts the requests of `d`
    have hone : ∀ ps : List (Nat × Option String), ps.Nodup → (d.lane, d.city) ∈ ps →
        (ps.map fun place => (if d.lane = place.1 ∧ d.city = place.2 then d.pages.map Page.no
          else []).length).sum = d.run.final.fetches.length := by
      intro ps hps hmem
      induction ps with
      | nil => cases hmem
      | cons p ps ihp =>
        obtain ⟨hfresh, hps⟩ := List.nodup_cons.mp hps
        rw [List.map_cons, List.sum_cons]
        by_cases hp : (d.lane, d.city) = p
        · subst hp
          have hzero : (ps.map fun place => (if d.lane = place.1 ∧ d.city = place.2
              then d.pages.map Page.no else []).length) = ps.map fun _ => 0 := by
            apply List.map_congr_left
            intro q hq
            rw [if_neg, List.length_nil]
            rintro ⟨hlane, hcity⟩
            exact hfresh ((Prod.ext hlane hcity : (d.lane, d.city) = q) ▸ hq)
          rw [hzero]
          simp [Dispatch.pages]
        · rw [ihp hps ((List.mem_cons.mp hmem).resolve_left hp), if_neg]
          · simp
          · rintro ⟨hlane, hcity⟩
            exact hp (Prod.ext hlane hcity)
    rw [hone places hnodup hplace]
    simp

/-! ## 3. The round -/

/-- **The pages of a round.** What is asked for a lane and a city are pages 1, 2, 3 and so on,
    up to the limit at most; so the requests are bounded, and no loop is cut short. -/
theorem roundPages [PyFloat F] (c : RoundCall F) :
    (∀ i city, ∃ n ≤ c.runtime.settings.searchMaxPagesPerRound,
      pageNosOf c.searches i city = List.range' 1 n) ∧
    (c.searches.map fun d => d.run.final.fetches.length).sum ≤
      c.queryStates.length * max 1 c.plan.allowedLocations.dedup.length *
        c.runtime.settings.searchMaxPagesPerRound ∧
    (c.outcome.1 = .error .outOfFuel → c.Raised .outOfFuel) := by
  have hpages := (RoundCall.outcome_induction c.pagesInOrder_initial
    fun _ _ hstep hi => hi.step hstep).pages
  have hplaced := RoundCall.outcome_induction c.placed_initial fun _ _ hstep hi => hi.step hstep
  refine ⟨hpages, ?_, fun h => c.outcome_genuine h rfl⟩
  rw [sum_fetches_eq c.searches c.nodup_places hplaced.places]
  calc (c.places.map fun place => (pageNosOf c.searches place.1 place.2).length).sum
      ≤ c.places.length * c.runtime.settings.searchMaxPagesPerRound := by
        have hlimit : ∀ count ∈ c.places.map fun place =>
            (pageNosOf c.searches place.1 place.2).length,
            count ≤ c.runtime.settings.searchMaxPagesPerRound := by
          intro count hcount
          obtain ⟨place, -, rfl⟩ := List.mem_map.mp hcount
          obtain ⟨n, hn, heq⟩ := hpages place.1 place.2
          rw [RoundCall.searches, heq, List.length_range']
          exact hn
        simpa using List.sum_le_card_nsmul _ _ hlimit
    _ ≤ _ := Nat.mul_le_mul c.length_places_le le_rfl

end SeekTalent
