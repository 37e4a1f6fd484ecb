import SeekTalent.Base.Paging
import SeekTalent.Retrieval.Dedup

/-!
# Reading a provider's list without gaps

A provider that holds one ordered list for each logical query and city answers a request
`(page, page_size)` with a slice of it. A search call asks for consecutive pages whose
size only shrinks, so its pages form a run (`pages_isRun`); but the next call for the same
lane and city goes on with the next page *number* while its page size is computed anew
from the gap that is left. Where it is larger, the page starts beyond what was read
(`contiguous_iff`).
-/

namespace SeekTalent

open Paging

variable {F : Type}

/-- What the provider holds: a list for each logical query and city. -/
abbrev ResultLists := LogicalQuery → Option String → List ResumeCandidate

def Fetch.page (f : Fetch) : Page := ⟨f.query.page, f.query.pageSize.toNat⟩

/-- The provider answers with slices, as `MockCTSClient.search` does. -/
def RetrievalRuntime.Slices (rt : RetrievalRuntime) (results : ResultLists) : Prop :=
  ∀ n (query : CTSQuery), ∃ result, rt.search n query = .ok result ∧
    result.candidates =
      Page.slice ⟨query.page, query.pageSize.toNat⟩ (results query.toLogicalQuery query.city) ∧
    result.rawCandidateCount = result.candidates.length

def Dispatch.pages (d : Dispatch) : List Page := d.run.final.fetches.map Fetch.page

def Dispatch.isFor (i : Nat) (city : Option String) (d : Dispatch) : Bool :=
  decide (d.lane = i ∧ d.city = city)

/-- The pages asked for a lane and a city, in order. -/
def pagesOf (searches : List Dispatch) (i : Nat) (city : Option String) : List Page :=
  (searches.filter (Dispatch.isFor i city)).flatMap Dispatch.pages

def Dispatch.startIndex (d : Dispatch) : Nat :=
  (d.call.firstPage - 1) * d.call.targetNew.toNat

/-- Every search that may fetch starts at an index the round has reached in that list, or
    past its end. -/
def RoundCall.ResumesWithinReach [PyFloat F] (c : RoundCall F) (results : ResultLists) :
    Prop :=
  ∀ i lane, c.queryStates[i]? = some lane → ∀ city before d,
    before ++ [d] <+: c.searches.filter (Dispatch.isFor i city) →
    d.call.firstPage ≤ c.runtime.settings.searchMaxPagesPerRound →
    (results lane city).length ≤ d.startIndex ∨
      d.startIndex ≤ reach (results lane city).length (before.flatMap Dispatch.pages)

/-- No list is read with a gap: after every search, whatever index of a lane's and city's
    list was fetched, all before it were. -/
def RoundCall.ReadsWithoutGaps [PyFloat F] (c : RoundCall F) (results : ResultLists) :
    Prop :=
  ∀ i lane, c.queryStates[i]? = some lane → ∀ city,
    Contiguous (results lane city).length (pagesOf c.searches i city)

/-! ## 1. The pages of one search -/

variable {c : RoundCall F} {d : Dispatch} {results : ResultLists}

theorem RoundCall.Made.paged (h : c.Made d) :
    Paged d.call c.runtime.settings.searchMaxPagesPerRound d.run.final.fetches := by
  rw [h.run_eq]
  exact executeSearchTool_paged c.runtime d.call

theorem Paged.firstPage_pos (call : ToolCall) : 0 < call.firstPage :=
  lt_of_lt_of_le Nat.zero_lt_one (le_max_right _ _)

theorem RoundCall.Made.pages_proper (h : c.Made d) : ∀ p ∈ d.pages, p.Proper := by
  intro p hp
  obtain ⟨f, hf, rfl⟩ := List.mem_map.mp hp
  obtain ⟨k, hk⟩ := List.mem_iff_getElem?.mp hf
  have hquery := h.paged.query_eq k f hk
  have hsize := h.paged.size_pos f hf
  refine ⟨?_, by simpa [Fetch.page] using hsize⟩
  show 0 < f.query.page
  rw [hquery]
  exact Nat.add_pos_left (Paged.firstPage_pos d.call) k

/-- **The pages of a search form a run**: sizes never grow from page to page, and only a
    page with an item is followed by another. -/
theorem RoundCall.Made.pages_isRun (h : c.Made d) (hslices : c.runtime.Slices results) :
    IsRun (results d.call.query.toLogicalQuery d.city).length d.pages := by
  have hpaged := h.paged
  have hrun := h.run_eq
  unfold IsRun
  rw [List.isChain_iff_getElem]
  intro k hk
  simp only [Dispatch.pages, List.length_map] at hk
  have hk' : k < d.run.final.fetches.length := by omega
  simp only [Dispatch.pages, List.getElem_map]
  set f := d.run.final.fetches[k] with hf
  set g := d.run.final.fetches[k + 1] with hg
  have hfq := hpaged.query_eq k f (List.getElem?_eq_getElem hk')
  have hgq := hpaged.query_eq (k + 1) g (List.getElem?_eq_getElem hk)
  have hfpage : f.query.page = d.call.firstPage + k := congrArg CTSQuery.page hfq
  have hgpage : g.query.page = d.call.firstPage + (k + 1) := congrArg CTSQuery.page hgq
  have hflane : f.query.toLogicalQuery = d.call.query.toLogicalQuery :=
    by rw [hfq]
  have hfcity : f.query.city = d.city := by rw [hfq]; rfl
  have hmem : f ∈ d.run.final.fetches.dropLast := by
    rw [hf, ← List.getElem_dropLast (by simp only [List.length_dropLast]; omega)]
    exact List.getElem_mem _
  constructor
  · -- the answer had an item, so the page lies on the list
    have hmem' := hmem
    rw [hrun] at hmem'
    obtain ⟨result, hanswer, hraw⟩ := executeSearchTool_answered c.runtime d.call f hmem'
    obtain ⟨n, hn⟩ := executeSearchTool_asked c.runtime d.call f
      (List.dropLast_subset _ hmem')
    obtain ⟨result', hr', hslice, hcount⟩ := hslices n f.query
    rw [hanswer, hr'] at hn
    cases hn
    rw [hcount, hslice, hflane, hfcity] at hraw
    exact Page.start_lt_of_slice hraw
  · -- the next page number, at a size that is no larger
    have hsizes : g.query.pageSize ≤ f.query.pageSize :=
      List.pairwise_iff_getElem.mp hpaged.sizes k (k + 1) hk' hk (Nat.lt_succ_self k)
    have hle : g.query.pageSize.toNat ≤ f.query.pageSize.toNat := Int.toNat_le_toNat hsizes
    show (g.query.page - 1) * g.query.pageSize.toNat ≤ f.query.page * f.query.pageSize.toNat
    rw [hfpage, hgpage]
    exact Nat.mul_le_mul (by omega) hle

theorem RoundCall.Made.startsWithin_iff (h : c.Made d) (L : Nat) (ps : List Page) :
    StartsWithin L ps d.pages ↔
      (d.call.firstPage ≤ c.runtime.settings.searchMaxPagesPerRound →
        L ≤ d.startIndex ∨ d.startIndex ≤ reach L ps) := by
  have hrun := h.run_eq
  unfold StartsWithin Dispatch.pages
  cases hfetches : d.run.final.fetches with
  | nil =>
    refine ⟨fun _ hpage => ?_, fun _ p hp => by cases hp⟩
    rw [hrun] at hfetches
    exact absurd hfetches (executeSearchTool_fetches_ne_nil hpage h.target_pos)
  | cons f fs =>
    have hpage : d.call.firstPage ≤ c.runtime.settings.searchMaxPagesPerRound := by
      by_contra hgt
      have := executeSearchTool_fetches_eq_nil c.runtime d.call (.inl (not_le.mp hgt))
      rw [← hrun, hfetches] at this
      cases this
    have hquery : f.query.page = d.call.firstPage :=
      congrArg CTSQuery.page (h.paged.query_eq 0 f (by rw [hfetches]; rfl))
    have hsize : f.query.pageSize = d.call.targetNew :=
      h.paged.first_size f (by rw [hfetches]; rfl)
    have hstart : f.page.start = d.startIndex := by
      unfold Page.start Fetch.page Dispatch.startIndex
      rw [hquery, hsize]
    simp only [List.map_cons, List.head?_cons, Option.mem_some_iff, forall_eq']
    rw [hstart]
    exact ⟨fun hin _ => hin, fun hin => hin hpage⟩

/-! ## 2. The lists of a round -/

/-- **A round reads without gaps exactly when every search resumes within reach.** -/
theorem readsWithoutGaps_iff [PyFloat F] (c : RoundCall F) (results : ResultLists)
    (hslices : c.runtime.Slices results) :
    c.ReadsWithoutGaps results ↔ c.ResumesWithinReach results := by
  unfold RoundCall.ReadsWithoutGaps RoundCall.ResumesWithinReach
  refine forall_congr' fun i => forall_congr' fun lane => forall_congr' fun hlane =>
    forall_congr' fun city => ?_
  have hof : ∀ d ∈ c.searches.filter (Dispatch.isFor i city),
      c.Made d ∧ d.call.query.toLogicalQuery = lane ∧ d.city = city := by
    intro d hd
    obtain ⟨hmem, hfor⟩ := List.mem_filter.mp hd
    obtain ⟨rfl, hcity⟩ := of_decide_eq_true hfor
    have hmade := c.made d hmem
    exact ⟨hmade, Option.some.inj (hmade.lane_eq.symm.trans hlane), hcity⟩
  unfold pagesOf
  generalize c.searches.filter (Dispatch.isFor i city) = ds at hof ⊢
  rw [List.flatMap_def, contiguous_flatten_iff]
  · constructor
    · intro h before d hpre
      have hd := hof d (hpre.subset (List.mem_append_right _ (List.mem_singleton_self d)))
      refine (hd.1.startsWithin_iff _ _).mp (h (before.map Dispatch.pages) d.pages ?_)
      simpa using hpre.map Dispatch.pages
    · intro h before g hpre
      obtain ⟨ds', hds', heq⟩ := List.prefix_map_iff.mp hpre
      obtain ⟨before', last, rfl, rfl, hlast⟩ := List.append_eq_map_iff.mp heq
      obtain ⟨d, rfl, rfl⟩ := List.map_eq_singleton_iff.mp hlast
      have hd := hof d (hds'.subset (List.mem_append_right _ (List.mem_singleton_self d)))
      exact (hd.1.startsWithin_iff _ _).mpr (h before' d hds')
  · intro g hg
    obtain ⟨d, hd, rfl⟩ := List.mem_map.mp hg
    exact (hof d hd).1.pages_proper
  · intro g hg
    obtain ⟨d, hd, rfl⟩ := List.mem_map.mp hg
    obtain ⟨hmade, rfl, rfl⟩ := hof d hd
    exact hmade.pages_isRun hslices

/-! ## 3. A page that skips an item -/

def sliceSearch (results : ResultLists) (query : CTSQuery) : SearchResult :=
  let selected := Page.slice ⟨query.page, query.pageSize.toNat⟩
    (results query.toLogicalQuery query.city)
  { candidates := selected, rawCandidateCount := selected.length }

def sliceRuntime (results : ResultLists) : RetrievalRuntime :=
  { search := fun _ query => .ok (sliceSearch results query) }

theorem sliceRuntime_slices (results : ResultLists) : (sliceRuntime results).Slices results :=
  fun _ _ => ⟨_, rfl, rfl, rfl⟩

def sixInBeijing : ResultLists := fun _ city =>
  if city = some "Beijing" then ["r0", "r1", "r2", "r3", "r4", "r5"].map sampleCandidate else []

/-- Five candidates are asked for: three from Nanjing and two from Beijing, then the three
    that Nanjing does not have from page 2 of Beijing. -/
def growingPage : RoundCall Rat :=
  { runtime := sliceRuntime sixInBeijing
    plan := buildLocationExecutionPlan ["Nanjing", "Beijing"] [] 1 5
    queryStates := [sampleLane .exploit "go"]
    targetNew := 5
    thresholds := .default }

theorem growingPage_pages :
    pagesOf growingPage.searches 0 (some "Beijing") = [⟨1, 2⟩, ⟨2, 3⟩] := by decide

/-- Candidate 2 of Beijing is never asked for, though candidate 3 is. -/
theorem growingPage_skips :
    ¬∀ (c : RoundCall Rat) (results : ResultLists), c.runtime.Slices results →
      ∀ i lane, c.queryStates[i]? = some lane → ∀ city,
        GapFree (results lane city).length (pagesOf c.searches i city) := by
  intro h
  have hgap := h growingPage sixInBeijing (sliceRuntime_slices _) 0 _ rfl (some "Beijing")
  rw [growingPage_pages] at hgap
  have hskipped := hgap 3 ⟨by decide, ⟨2, 3⟩, by decide⟩ 2 (by decide)
  obtain ⟨-, p, hp, hstart, hstop⟩ := hskipped
  revert p
  decide

theorem readsWithoutGaps_iff_growingPage :
    growingPage.ReadsWithoutGaps sixInBeijing ↔ growingPage.ResumesWithinReach sixInBeijing :=
  readsWithoutGaps_iff growingPage sixInBeijing (sliceRuntime_slices _)

end SeekTalent
