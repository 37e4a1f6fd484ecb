import Mathlib.Data.Set.Function
import SeekTalent.Corpus.RecordingRuns
import SeekTalent.Retrieval.CtsProvider
import SeekTalent.Retrieval.PageOrder

/-!
# The observations of a round

What CTS returns in a round search is recorded, and every return gets a row of its own
(`recordsEachReturn`). The key of a row has the query instance, the request, the page and the rank, but
no city. The returns of one answer differ in their ranks, and those of two answers for one lane and
city differ in the page, since no page is asked for twice. Two cities of one lane may both have a first
page; then the requests differ, because the payload names the city.
-/

namespace SeekTalent

open Paging

/-! ## 1. The returns of a search -/

variable {rt : RetrievalRuntime} {call : ToolCall}

/-- What the id of a call's request `k` is made of. -/
def ToolCall.requestKey (rt : RetrievalRuntime) (call : ToolCall) (k : Nat)
    (requestPayload : String) : ProviderRequestKey where
  providerName := rt.providerName
  queryInstanceId := call.query.queryInstanceId
  queryFingerprint := call.query.queryFingerprint
  pageNo := call.firstPage + k
  fetchNo := k + 1
  requestPayload := requestPayload

/-- A return is one of the candidates of the answer to request `k`. -/
structure ToolCall.Answers (rt : RetrievalRuntime) (call : ToolCall) (fetches : List Fetch)
    (returned : ProviderReturnedCandidate) (k : Nat) (fetch : Fetch) (result : SearchResult) :
    Prop where
  fetch_eq : fetches[k]? = some fetch
  answer_eq : fetch.answer = .ok result
  queryInstanceId_eq : returned.queryInstanceId = call.query.queryInstanceId
  page_eq : returned.providerPageNo = call.firstPage + k
  requestId_eq : returned.providerRequestId =
    rt.providerRequestId (call.requestKey rt k result.requestPayload)

structure ToolCall.ReturnsOf (rt : RetrievalRuntime) (call : ToolCall) (fetches : List Fetch)
    (returns : List ProviderReturnedCandidate) : Prop where
  answers : ∀ returned ∈ returns, ∃ k fetch result,
    call.Answers rt fetches returned k fetch result
  apart : (returns.map fun returned => (returned.providerPageNo, returned.providerRank)).Nodup

theorem ToolCall.ReturnsOf.fetched {fetches : List Fetch}
    {returns : List ProviderReturnedCandidate} (h : call.ReturnsOf rt fetches returns)
    (fetch : Fetch) : call.ReturnsOf rt (fetches ++ [fetch]) returns := by
  refine ⟨fun returned hmem => ?_, h.apart⟩
  obtain ⟨k, fetch', result, hanswers⟩ := h.answers returned hmem
  refine ⟨k, fetch', result, ?_, hanswers.answer_eq, hanswers.queryInstanceId_eq,
    hanswers.page_eq, hanswers.requestId_eq⟩
  exact List.getElem?_append_left (List.getElem?_eq_some_iff.mp hanswers.fetch_eq).1 ▸
    hanswers.fetch_eq

theorem takeBatch_returns {page attemptNo : Nat} {payload : String}
    (candidates : List ResumeCandidate) (rank : Nat)
    (snapshots : List (Option ProviderSnapshot)) (st : BatchState) :
    ∃ batch, (takeBatch rt call page attemptNo payload rank candidates snapshots
        st).providerReturns = st.providerReturns ++ batch ∧
      batch.map (·.providerRank) = List.range' rank candidates.length ∧
      ∀ returned ∈ batch, ∃ rank candidate snapshot,
        returned = providerReturn rt call page attemptNo rank payload candidate snapshot := by
  induction candidates generalizing rank snapshots st with
  | nil => exact ⟨[], by simp [takeBatch]⟩
  | cons candidate cs ih =>
    have htake : ∀ b : BatchState, (b.take call candidate).providerReturns = b.providerReturns := by
      intro b
      unfold BatchState.take
      split
      · rfl
      · split <;> rfl
    rw [takeBatch]
    obtain ⟨batch, hreturns, hranks, hbatch⟩ := ih (rank + 1) snapshots.tail _
    let first := providerReturn rt call page attemptNo rank payload candidate
      snapshots.head?.join
    refine ⟨first :: batch, ?_, ?_, ?_⟩
    · rw [hreturns, htake]
      exact List.append_assoc st.providerReturns [first] batch
    · rw [List.map_cons, hranks, List.length_cons, List.range'_succ]
      rfl
    · exact List.forall_mem_cons.mpr ⟨⟨rank, candidate, snapshots.head?.join, rfl⟩, hbatch⟩

structure ToolState.Returning (rt : RetrievalRuntime) (call : ToolCall) (st : ToolState) :
    Prop where
  returns : call.ReturnsOf rt st.fetches st.providerReturns
  page_eq : st.page = call.firstPage + st.fetches.length
  attemptNo_eq : st.attemptNo = st.fetches.length

theorem ToolState.Returning.absorb {st : ToolState} (h : st.Returning rt call)
    (result : SearchResult) (snapshots : List (Option ProviderSnapshot)) :
    (st.absorb rt call result snapshots).1.Returning rt call := by
  obtain ⟨batch, hreturns, hranks, hbatch⟩ := @takeBatch_returns rt call st.page
    (st.attemptNo + 1) result.requestPayload result.candidates (st.rawCandidateCount + 1) snapshots
    { localSeenKeys := st.localSeenKeys, resumeHits := st.resumeHits,
      providerReturns := st.providerReturns }
  have hpage : ∀ returned ∈ batch, returned.providerPageNo = st.page := by
    intro returned hmem
    obtain ⟨rank, candidate, snapshot, rfl⟩ := hbatch returned hmem
    rfl
  have hfetched := h.returns.fetched ⟨st.attemptQuery call, .ok result⟩
  refine ⟨⟨?_, ?_⟩, ?_, ?_⟩
  · show ∀ returned ∈ (takeBatch _ _ _ _ _ _ _ _ _).providerReturns, _
    rw [hreturns]
    refine List.forall_mem_append.mpr ⟨hfetched.answers, ?_⟩
    intro returned hmem
    obtain ⟨rank, candidate, snapshot, rfl⟩ := hbatch returned hmem
    refine ⟨st.fetches.length, ⟨st.attemptQuery call, .ok result⟩, result, ?_, rfl, rfl, h.page_eq, ?_⟩
    · rw [ToolState.absorb_fetches, List.getElem?_concat_length]
    · unfold providerReturn ToolCall.requestKey
      rw [h.page_eq, h.attemptNo_eq]
  · show ((takeBatch _ _ _ _ _ _ _ _ _).providerReturns.map _).Nodup
    rw [hreturns, List.map_append]
    refine List.Nodup.append hfetched.apart ?_ ?_
    · -- within one answer the ranks differ
      apply List.Nodup.of_map Prod.snd
      rw [List.map_map]
      show (batch.map (·.providerRank)).Nodup
      rw [hranks]
      exact List.nodup_range' ..
    · -- an earlier answer was for an earlier page
      intro place hold hnew
      obtain ⟨returned, hmem, rfl⟩ := List.mem_map.mp hold
      obtain ⟨returned', hmem', hsame⟩ := List.mem_map.mp hnew
      obtain ⟨k, fetch, result, hanswers⟩ := h.returns.answers returned hmem
      have hk := (List.getElem?_eq_some_iff.mp hanswers.fetch_eq).1
      have heq : returned'.providerPageNo = returned.providerPageNo := congrArg Prod.fst hsame
      rw [hpage returned' hmem', h.page_eq, hanswers.page_eq] at heq
      omega
  · rw [ToolState.absorb_page, ToolState.absorb_fetches, h.page_eq, List.length_append]
    rfl
  · rw [ToolState.absorb_fetches, List.length_append]
    exact congrArg (· + 1) h.attemptNo_eq

/-- **The returns of a search**, whether it returns or raises. -/
theorem executeSearchTool_returns (rt : RetrievalRuntime) (call : ToolCall) :
    call.ReturnsOf rt (executeSearchTool rt call).final.fetches
      (executeSearchTool rt call).final.providerReturns := by
  refine (searchLoop_absorb_rule (I := ToolState.Returning rt call)
    (J := fun st => call.ReturnsOf rt st.fetches st.providerReturns)
    ?_ (fun _ h => h.returns) ?_ ?_).1
  · intro st result snapshots h _ _
    exact h.absorb result snapshots
  · intro st answer h _ _
    exact h.returns.fetched _
  · exact ⟨⟨by simp [ToolCall.start], by simp [ToolCall.start]⟩, rfl, rfl⟩

/-! ## 2. The returns of a round -/

variable {F : Type} [PyFloat F] {c : RoundCall F}

def RoundCall.providerReturns (c : RoundCall F) : List ProviderReturnedCandidate :=
  c.searches.flatMap (·.run.final.providerReturns)

/-- What is digested for the answers of a search. -/
def Dispatch.requestKeys (rt : RetrievalRuntime) (d : Dispatch) : List ProviderRequestKey :=
  d.run.final.fetches.zipIdx.filterMap fun fetched =>
    match fetched.1.answer with
    | .ok result => some (d.call.requestKey rt fetched.2 result.requestPayload)
    | .error _ => none

def RoundCall.requestKeys (c : RoundCall F) : List ProviderRequestKey :=
  c.searches.flatMap (Dispatch.requestKeys c.runtime)

/-- What of a return is in the key of its observation. -/
def ProviderReturnedCandidate.place (returned : ProviderReturnedCandidate) :
    String × String × Nat × Nat :=
  (returned.queryInstanceId, returned.providerRequestId, returned.providerPageNo,
    returned.providerRank)

/-- What `build_query_instance_id` digests. -/
structure QueryInstanceKey where
  runId : String
  roundNo : Nat
  laneType : LaneType
  queryFingerprint : String
  sourcePlanVersion : Nat

def RoundCall.instanceKey (c : RoundCall F) (lane : LogicalQuery) : QueryInstanceKey where
  runId := c.runId
  roundNo := c.roundNo
  laneType := lane.laneType
  queryFingerprint := lane.queryFingerprint
  sourcePlanVersion := c.planVersion

/-- The lanes of a round as they are built: of different types, with the digests as their ids. -/
structure RoundCall.LanesBuilt (c : RoundCall F) (queryInstanceId : QueryInstanceKey → String) :
    Prop where
  types : (c.queryStates.map (·.laneType)).Nodup
  ids : ∀ lane ∈ c.queryStates, lane.queryInstanceId = queryInstanceId (c.instanceKey lane)
  apart : Set.InjOn queryInstanceId {key | ∃ lane ∈ c.queryStates, key = c.instanceKey lane}

omit [PyFloat F] in
theorem RoundCall.LanesBuilt.nodup_ids {queryInstanceId : QueryInstanceKey → String}
    (h : c.LanesBuilt queryInstanceId) : (c.queryStates.map (·.queryInstanceId)).Nodup := by
  refine List.Nodup.map_on ?_ h.types.of_map
  intro lane hlane other hother hid
  rw [h.ids lane hlane, h.ids other hother] at hid
  have hkey := h.apart ⟨lane, hlane, rfl⟩ ⟨other, hother, rfl⟩ hid
  have htype : lane.laneType = other.laneType := congrArg QueryInstanceKey.laneType hkey
  exact List.inj_on_of_nodup_map h.types hlane hother htype

theorem RoundCall.pages_apart (c : RoundCall F) :
    c.searches.Pairwise fun d d' => ∀ i city, d.isFor i city → d'.isFor i city →
      List.Disjoint (d.pages.map Page.no) (d'.pages.map Page.no) := by
  have hplace : ∀ i city, c.searches.Pairwise fun d d' => d.isFor i city → d'.isFor i city →
      List.Disjoint (d.pages.map Page.no) (d'.pages.map Page.no) := by
    intro i city
    obtain ⟨n, -, hpages⟩ := (roundPages c).1 i city
    have hnodup : (pageNosOf c.searches i city).Nodup := by
      rw [hpages]
      exact List.nodup_range' ..
    unfold pageNosOf pagesOf at hnodup
    rw [List.map_flatMap, List.nodup_flatMap, List.pairwise_filter] at hnodup
    exact hnodup.2
  rw [List.pairwise_iff_getElem]
  intro a b ha hb hab i city
  exact List.pairwise_iff_getElem.mp (hplace i city) a b ha hb hab

section Cts

variable {baseFilters : List (String × ConstraintValue)}
variable {client : Nat → CTSQuery → Except RoundError (List ResumeCandidate)}

omit [PyFloat F] in
theorem RoundCall.Made.payload_eq (hcts : c.runtime.search = Cts.search baseFilters client)
    {d : Dispatch} (hmade : c.Made d) {returned : ProviderReturnedCandidate} {k : Nat}
    {fetch : Fetch} {result : SearchResult}
    (h : d.call.Answers c.runtime d.run.final.fetches returned k fetch result) :
    result.requestPayload =
        Cts.payloadText (Cts.nativeFilters baseFilters fetch.query.city) fetch.query ∧
      fetch.query.city = d.city ∧
        fetch.query.toLogicalQuery = d.call.query.toLogicalQuery := by
  have hquery := hmade.paged.query_eq k fetch h.fetch_eq
  have hmem := List.mem_of_getElem? h.fetch_eq
  rw [hmade.run_eq] at hmem
  obtain ⟨n, hasked⟩ := executeSearchTool_asked c.runtime d.call fetch hmem
  rw [hcts, h.answer_eq] at hasked
  refine ⟨(Cts.search_ok hasked).1, ?_, ?_⟩
  · rw [hquery]
    rfl
  · rw [hquery]

/-- **No two returns of a round have the same place.** -/
theorem nodup_places (hcts : c.runtime.search = Cts.search baseFilters client)
    (hlanes : (c.queryStates.map (·.queryInstanceId)).Nodup)
    (hrequests : Set.InjOn c.runtime.providerRequestId {key | key ∈ c.requestKeys}) :
    (c.providerReturns.map ProviderReturnedCandidate.place).Nodup := by
  have hreturns : ∀ d ∈ c.searches, d.call.ReturnsOf c.runtime d.run.final.fetches
      d.run.final.providerReturns := by
    intro d hd
    rw [(c.made d hd).run_eq]
    exact executeSearchTool_returns c.runtime d.call
  have hplaced := (RoundCall.outcome_induction c.placed_initial
    fun _ _ hstep hi => hi.step hstep).places
  unfold RoundCall.providerReturns
  rw [List.map_flatMap, List.nodup_flatMap]
  constructor
  · intro d hd
    apply List.Nodup.of_map fun place : String × String × Nat × Nat => place.2.2
    rw [List.map_map]
    exact (hreturns d hd).apart
  · refine c.pages_apart.imp_of_mem fun {d d'} hd hd' hpages => ?_
    intro place hplace hplace'
    obtain ⟨returned, hreturned, rfl⟩ := List.mem_map.mp hplace
    obtain ⟨returned', hreturned', hsame⟩ := List.mem_map.mp hplace'
    obtain ⟨k, fetch, result, h⟩ := (hreturns d hd).answers returned hreturned
    obtain ⟨k', fetch', result', h'⟩ := (hreturns d' hd').answers returned' hreturned'
    unfold ProviderReturnedCandidate.place at hsame
    simp only [Prod.mk.injEq] at hsame
    obtain ⟨hinstance, hrequest, hpage, -⟩ := hsame
    -- both searches are of one lane
    rw [h.queryInstanceId_eq, h'.queryInstanceId_eq] at hinstance
    have hlane : d.lane = d'.lane := by
      have hid : (c.queryStates.map (·.queryInstanceId))[d.lane]? =
          (c.queryStates.map (·.queryInstanceId))[d'.lane]? := by
        rw [List.getElem?_map, List.getElem?_map, (c.made d hd).lane_eq, (c.made d' hd').lane_eq]
        exact congrArg some hinstance.symm
      refine (List.getElem?_inj ?_ hlanes).mp hid
      rw [List.length_map]
      exact (List.getElem?_eq_some_iff.mp (c.made d hd).lane_eq).1
    -- and for one city, since their requests are the same
    have hkeys : ∀ {d : Dispatch} {k : Nat} {fetch : Fetch} {result : SearchResult}
        {returned : ProviderReturnedCandidate}, d ∈ c.searches →
        d.call.Answers c.runtime d.run.final.fetches returned k fetch result →
        d.call.requestKey c.runtime k result.requestPayload ∈ c.requestKeys := by
      intro d k fetch result returned hd h
      refine List.mem_flatMap.mpr ⟨d, hd, List.mem_filterMap.mpr ⟨(fetch, k), ?_, ?_⟩⟩
      · exact List.mem_zipIdx_iff_getElem?.mpr h.fetch_eq
      · rw [h.answer_eq]
    rw [h.requestId_eq, h'.requestId_eq] at hrequest
    have hkey := hrequests (hkeys hd' h') (hkeys hd h) hrequest
    have hpayload : result'.requestPayload = result.requestPayload :=
      congrArg ProviderRequestKey.requestPayload hkey
    have hcity : d.city = d'.city := by
      obtain ⟨htext, hfor, hquery⟩ := (c.made d hd).payload_eq hcts h
      obtain ⟨htext', hfor', hquery'⟩ := (c.made d' hd').payload_eq hcts h'
      have hlogical : d.call.query.toLogicalQuery = d'.call.query.toLogicalQuery := by
        have hsome := (c.made d hd).lane_eq
        rw [hlane, (c.made d' hd').lane_eq] at hsome
        exact (Option.some.inj hsome).symm
      have hwhere := (List.mem_product.mp (hplaced d hd)).2
      have hwhere' := (List.mem_product.mp (hplaced d' hd')).2
      by_cases hmode : c.plan.mode = .none
      · rw [if_pos hmode] at hwhere hwhere'
        rw [List.mem_singleton.mp hwhere, List.mem_singleton.mp hwhere']
      · rw [if_neg hmode] at hwhere hwhere'
        obtain ⟨city, -, hcity⟩ := List.mem_map.mp hwhere
        obtain ⟨city', -, hcity'⟩ := List.mem_map.mp hwhere'
        rw [← hcity, ← hcity']
        refine congrArg some (@Cts.city_of_payloadText baseFilters fetch.query fetch'.query city
          city' ?_ (hfor.trans hcity.symm) (hfor'.trans hcity'.symm) ?_)
        · exact congrArg LogicalQuery.keywordQuery (hquery.trans (hlogical.trans hquery'.symm))
        · rw [← htext, ← htext']
          exact hpayload.symm
    -- so the page would have been asked for twice
    have hpageNo : ∀ {d : Dispatch} {k : Nat} {fetch : Fetch} {result : SearchResult}
        {returned : ProviderReturnedCandidate}, d ∈ c.searches →
        d.call.Answers c.runtime d.run.final.fetches returned k fetch result →
        returned.providerPageNo ∈ d.pages.map Page.no := by
      intro d k fetch result returned hd h
      rw [(c.made d hd).pageNos, h.page_eq, List.mem_range'_1]
      have hk := (List.getElem?_eq_some_iff.mp h.fetch_eq).1
      omega
    have hfor : d.isFor d.lane d.city = true := by simp [Dispatch.isFor]
    have hfor' : d'.isFor d.lane d.city = true := by simp [Dispatch.isFor, hlane, hcity]
    exact hpages d.lane d.city hfor hfor' (hpageNo hd h) (hpage ▸ hpageNo hd' h')

end Cts

namespace Corpus

open Stateful

/-! ## 3. What a call of the recorder adds -/

section Recorder

variable {s : Tables} {call : RecordCall} {calls : List RecordCall}

def Succeeds (s : Tables) (call : RecordCall) : Prop :=
  (exec (recordCorpusProviderResults call) s).1 = .ok ()

theorem Succeeds.accepted (hsound : s.Sound) (h : Succeeds s call) :
    s.collectionClash (s.counted call.tenantId call.workspaceId) = false ∧
      ∀ one ∈ call.returned, recordable one = true := by
  unfold Succeeds recordCorpusProviderResults at h
  rw [exec_bind, exec_ensureDefaultCollection] at h
  cases hclash : s.collectionClash (s.counted call.tenantId call.workspaceId) with
  | true =>
    rw [hclash, if_pos rfl] at h
    cases h
  | false =>
    refine ⟨rfl, ?_⟩
    rw [hclash, if_neg Bool.false_ne_true] at h
    dsimp only at h
    rw [exec_bind] at h
    by_contra hall
    obtain ⟨-, -, herror⟩ := recordAll_spec call.returned (hsound.ensured hclash) housed_ensured
    obtain ⟨error, hending⟩ := herror (by simpa using hall)
    cases hexec : exec (recordAll call call.returned)
        (s.ensured call.tenantId call.workspaceId) with
    | mk ending after =>
      rw [hexec] at h hending
      dsimp only at h hending
      rw [hending] at h
      cases h

theorem mem_keys_step (hsound : s.Sound) (hall : ∀ one ∈ call.returned, recordable one = true)
    (hclash : s.collectionClash (s.counted call.tenantId call.workspaceId) = false)
    (key : String × String × IdempotencyKey) :
    key ∈ (s.step call).observations.rows.map ResumeObservation.key ↔
      key ∈ s.observations.rows.map ResumeObservation.key ∨
        key ∈ call.observations.map ResumeObservation.key := by
  obtain ⟨loop, observations, memberships, hrecorded, hobserves, -, hstep⟩ :=
    step_of_all hsound hclash hall
  have hafter : (s.step call).observations = observations := by
    rw [hstep]
    unfold Tables.joined
    split
    · rfl
    · rfl
  have hbefore : loop.observations = s.observations := hrecorded.observations
  rw [hafter, hobserves.keys, hbefore]

theorem mem_keys_run (hsound : s.Sound) (h : Along Tables.step s Succeeds calls) :
    (calls.foldl Tables.step s).Sound ∧
      (∀ call ∈ calls, ∀ one ∈ call.returned, recordable one = true) ∧
      ∀ key, key ∈ (calls.foldl Tables.step s).observations.rows.map ResumeObservation.key ↔
        key ∈ s.observations.rows.map ResumeObservation.key ∨
          ∃ call ∈ calls, key ∈ call.observations.map ResumeObservation.key := by
  induction calls using List.reverseRecOn with
  | nil => exact ⟨hsound, by simp, by simp⟩
  | append_singleton calls call ih =>
    obtain ⟨hbefore, hall, hkeys⟩ := ih h.append.1
    obtain ⟨hclash, hone⟩ := (h calls call [] rfl).accepted hbefore
    rw [List.foldl_append]
    refine ⟨hbefore.step call, ?_, ?_⟩
    · exact List.forall_mem_append.mpr ⟨hall, List.forall_mem_singleton.mpr hone⟩
    · intro key
      show key ∈ ((calls.foldl Tables.step s).step call).observations.rows.map _ ↔ _
      rw [mem_keys_step hbefore hone hclash, hkeys]
      simp only [List.mem_append, List.mem_singleton, or_and_right, exists_or, exists_eq_left,
        or_assoc]

theorem keys_again (hsound : s.Sound) (hall : ∀ one ∈ call.returned, recordable one = true)
    (hthere : ∀ key ∈ call.observations.map ResumeObservation.key,
      key ∈ s.observations.rows.map ResumeObservation.key) :
    ((s.step call).observations.rows.map ResumeObservation.key).Perm
      (s.observations.rows.map ResumeObservation.key) := by
  cases hclash : s.collectionClash (s.counted call.tenantId call.workspaceId) with
  | true => rw [step_of_clash hclash]
  | false =>
    rw [List.perm_ext_iff_of_nodup (s.step call).observations.nodup s.observations.nodup]
    intro key
    rw [mem_keys_step hsound hall hclash]
    exact or_iff_left_of_imp (hthere key)

/-- **Every return has a row of its own** after the calls, and making one of them again adds none. -/
structure RecordsEach (s : Tables) (calls : List RecordCall) : Prop where
  /-- Each return has an observation. -/
  each : (calls.flatMap RecordCall.observations).length = (calls.flatMap (·.returned)).length
  /-- No two of them have the same key. -/
  apart : ((calls.flatMap RecordCall.observations).map ResumeObservation.key).Nodup
  stored : ∀ observation ∈ calls.flatMap RecordCall.observations,
    ∃! row, row ∈ (calls.foldl Tables.step s).observations.rows ∧ row.key = observation.key
  again : ∀ call ∈ calls,
    (((calls.foldl Tables.step s).step call).observations.rows.map ResumeObservation.key).Perm
      ((calls.foldl Tables.step s).observations.rows.map ResumeObservation.key)

theorem recordsEach_of_apart (hsound : s.Sound) (h : Along Tables.step s Succeeds calls)
    (hapart : ((calls.flatMap RecordCall.observations).map ResumeObservation.key).Nodup) :
    RecordsEach s calls := by
  obtain ⟨hafter, hall, hkeys⟩ := mem_keys_run hsound h
  refine ⟨?_, hapart, ?_, ?_⟩
  · rw [List.length_flatMap, List.length_flatMap]
    congr 1
    apply List.map_congr_left
    intro call hcall
    have hsome : ∀ one ∈ call.returned, ∃ observation, observationOf call one = some observation := by
      intro one hone
      have hrecordable := hall call hcall one hone
      unfold recordable snapshotOf at hrecordable
      unfold observationOf
      cases hprepared : prepared one with
      | ok row => exact ⟨_, rfl⟩
      | error error =>
        rw [hprepared] at hrecordable
        cases hrecordable
    unfold RecordCall.observations
    rw [List.length_filterMap_eq_countP, List.countP_eq_length]
    intro one hone
    obtain ⟨observation, hobservation⟩ := hsome one hone
    rw [hobservation]
    rfl
  · intro observation hobservation
    obtain ⟨call, hcall, hmem⟩ := List.mem_flatMap.mp hobservation
    have hkey := (hkeys observation.key).mpr (.inr ⟨call, hcall, List.mem_map_of_mem hmem⟩)
    obtain ⟨row, hrow, hsame⟩ := List.mem_map.mp hkey
    refine ⟨row, ⟨hrow, hsame⟩, ?_⟩
    rintro other ⟨hother, hotherKey⟩
    exact List.inj_on_of_nodup_map (calls.foldl Tables.step s).observations.nodup hother hrow
      (hotherKey.trans hsame.symm)
  · intro call hcall
    exact keys_again hafter (hall call hcall) fun key hkey =>
      (hkeys key).mpr (.inr ⟨call, hcall, hkey⟩)

end Recorder

/-! ## 4. The round -/

/-- What the recorder reads beside the fields of a return. -/
structure Reader where
  /-- the raw payload of a candidate -/
  raw : ResumeCandidate → RawResume
  snapshot : ProviderSnapshot → Snapshot
  /-- how the session answers when a raw payload is written -/
  artifact : ProviderReturnedCandidate → Except CorpusError String

/-- A return as the recorder gets it: a candidate has its raw payload, and no id of the provider. -/
def Reader.returned (reader : Reader) (returned : ProviderReturnedCandidate) : Returned where
  candidate :=
    { raw := some (reader.raw returned.candidate)
      sourceResumeId := returned.candidate.sourceResumeId
      dedupKey := some returned.candidate.dedupKey
      snapshotSha256 := some returned.candidate.snapshotSha256 }
  stageId := "retrieval"
  roundNo := returned.roundNo
  queryInstanceId := returned.queryInstanceId
  queryFingerprint := returned.queryFingerprint
  providerName := returned.providerName
  providerRequestId := returned.providerRequestId
  providerRank := returned.providerRank
  providerPageNo := returned.providerPageNo
  providerFetchNo := returned.providerFetchNo
  attemptNo := returned.attemptNo
  providerSnapshot := returned.providerSnapshot.map reader.snapshot
  artifact := reader.artifact returned

def recordCalls (reader : Reader) (runId tenantId workspaceId : String)
    (batches : List (List ProviderReturnedCandidate)) : List RecordCall :=
  batches.map fun batch =>
    { runId, tenantId, workspaceId, returned := batch.map reader.returned }

theorem nodup_keys_of_places (reader : Reader) (runId tenantId workspaceId : String)
    {batches : List (List ProviderReturnedCandidate)}
    (h : (batches.flatten.map ProviderReturnedCandidate.place).Nodup) :
    (((recordCalls reader runId tenantId workspaceId batches).flatMap
      RecordCall.observations).map ResumeObservation.key).Nodup := by
  -- the observations of the batches are those of one call with all of them
  have hone : (recordCalls reader runId tenantId workspaceId batches).flatMap
      RecordCall.observations = batches.flatten.filterMap fun returned =>
        observationOf { runId, tenantId, workspaceId, returned := [] } (reader.returned returned) := by
    unfold recordCalls
    rw [List.flatMap_map, List.filterMap_flatten, List.flatMap_def]
    congr 1
    apply List.map_congr_left
    intro batch _
    unfold RecordCall.observations
    rw [List.filterMap_map]
    rfl
  rw [hone, List.Nodup, List.pairwise_map, List.pairwise_filterMap]
  refine (List.pairwise_map.mp h).imp fun {returned returned'} hne => ?_
  intro observation hobservation observation' hobservation' hkey
  obtain ⟨row, -, rfl⟩ := fields_of_observationOf hobservation
  obtain ⟨row', -, rfl⟩ := fields_of_observationOf hobservation'
  have hfields : idempotencyKey _ (reader.returned returned) row =
      idempotencyKey _ (reader.returned returned') row' := congrArg (·.2.2) hkey
  have hinstance : returned.queryInstanceId = returned'.queryInstanceId :=
    congrArg IdempotencyKey.queryInstanceId hfields
  have hrequest : returned.providerRequestId = returned'.providerRequestId :=
    congrArg IdempotencyKey.providerRequestId hfields
  have hpage : (returned.providerPageNo : Int) = returned'.providerPageNo :=
    congrArg IdempotencyKey.providerPageNo hfields
  have hrank : (returned.providerRank : Int) = returned'.providerRank :=
    congrArg IdempotencyKey.providerRank hfields
  apply hne
  unfold ProviderReturnedCandidate.place
  rw [hinstance, hrequest, Int.ofNat_inj.mp hpage, Int.ofNat_inj.mp hrank]

/-- **Every return of a round is recorded once.** However the returns of a round search over CTS are
    dealt out to the calls of the recorder, they have as many rows when all calls have returned, and
    no call adds a row when it is made again. -/
theorem recordsEachReturn {c : RoundCall F}
    {baseFilters : List (String × ConstraintValue)}
    {client : Nat → CTSQuery → Except RoundError (List ResumeCandidate)}
    (hcts : c.runtime.search = Cts.search baseFilters client)
    {queryInstanceId : QueryInstanceKey → String} (hlanes : c.LanesBuilt queryInstanceId)
    (hrequests : Set.InjOn c.runtime.providerRequestId {key | key ∈ c.requestKeys})
    {reader : Reader} {tenantId workspaceId : String}
    {batches : List (List ProviderReturnedCandidate)} (hbatches : batches.flatten = c.providerReturns)
    {s : Tables} (hsound : s.Sound)
    (hrecorded : Along Tables.step s Succeeds
      (recordCalls reader c.runId tenantId workspaceId batches)) :
    RecordsEach s (recordCalls reader c.runId tenantId workspaceId batches) := by
  apply recordsEach_of_apart hsound hrecorded
  apply nodup_keys_of_places
  rw [hbatches]
  exact nodup_places hcts hlanes.nodup_ids hrequests

/-- One lane, two cities, and a candidate on the first page of each. -/
def firstPages : RoundCall Rat :=
  { runtime :=
      { search := Cts.search [("degree", .number 3)] fun _ query => .ok
          [{ sampleCandidate (query.city.getD "") with snapshotSha256 := "".pushn 'a' 64 }]
        providerRequestId := fun key => key.requestPayload }
    plan := buildLocationExecutionPlan ["Beijing", "Shanghai"] [] 1 2
    queryStates := [sampleLane .exploit "go"]
    targetNew := 2
    thresholds := .default }

def plainReader : Reader where
  raw := fun candidate => { sha256 := candidate.snapshotSha256 }
  snapshot := fun snapshot =>
    { providerName := snapshot.providerName
      rawPayload := { sha256 := snapshot.rawPayloadSha256 }
      providerSubjectId := none
      syntheticCandidateFingerprint := snapshot.syntheticCandidateFingerprint }
  artifact := fun _ => .ok "corpus:corpus-1:raw"

theorem lanesBuilt_firstPages :
    firstPages.LanesBuilt fun _ => (sampleLane .exploit "go").queryInstanceId where
  types := List.nodup_singleton _
  ids := by
    intro lane hlane
    rw [List.mem_singleton.mp hlane]
  apart := by
    rintro _ ⟨lane, hlane, rfl⟩ _ ⟨other, hother, rfl⟩ -
    rw [List.mem_singleton.mp hlane, List.mem_singleton.mp hother]

theorem recordsEachReturn_firstPages :
    RecordsEach {} (recordCalls plainReader firstPages.runId "local" "default"
      [firstPages.providerReturns]) := by
  have hrequests : ∀ key ∈ firstPages.requestKeys, ∀ other ∈ firstPages.requestKeys,
      key.requestPayload = other.requestPayload → key = other := by decide
  refine recordsEachReturn rfl lanesBuilt_firstPages
    (fun key hkey other hother h => hrequests key hkey other hother h) (List.append_nil _)
    sound_empty ?_
  exact along_cons rfl along_nil

end Corpus

end SeekTalent
