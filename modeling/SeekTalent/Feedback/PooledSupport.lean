import SeekTalent.Query.Feedback

/-!
# Support that different terms share

The support of a term is counted by its key, which is made of its letters and digits, and the term
itself is the first one with this key. "C++" and "C#" have one key, so a resume for each makes
two for "C++". `buildFeedbackDecision_spec` says for which seed resumes this cannot happen.
-/

namespace SeekTalent

namespace Feedback

variable {tables : Py.UnicodeTables} {seeds negatives resumes : List ScoredCandidate}
variable {existingTerms : List QueryTermCandidate} {sentQueryTerms excludedKeys : List String}
variable {roundNo : Int} {term key : String} {accepted : QueryTermCandidate}

/-! ## 1. What is wanted -/

def SpelledAlike (tables : Py.UnicodeTables) (s t : String) : Prop :=
  Py.casefold tables s = Py.casefold tables t

instance (s t : String) : Decidable (SpelledAlike tables s t) := inferInstanceAs (Decidable (_ = _))

def Has (tables : Py.UnicodeTables) (resume : ScoredCandidate) (term : String) : Prop :=
  ∃ texts ∈ resumeFieldTexts resume, ∃ surface ∈ extractSurfaceTerms tables texts,
    SpelledAlike tables surface term

instance (resume : ScoredCandidate) : Decidable (Has tables resume term) :=
  inferInstanceAs (Decidable (∃ texts ∈ _, ∃ surface ∈ _, _))

def InTwo (tables : Py.UnicodeTables) (resumes : List ScoredCandidate) (term : String) : Prop :=
  2 ≤ (resumes.filter fun resume => Has tables resume term).length

instance : Decidable (InTwo tables resumes term) := inferInstanceAs (Decidable (_ ≤ _))

/-- An accepted term is one that two seed resumes have, and no variant of a term of the pool or of
a sent one. -/
def FeedbackOk (tables : Py.UnicodeTables) (seeds negatives : List ScoredCandidate)
    (existingTerms : List QueryTermCandidate) (sentQueryTerms : List String) (roundNo : Int) : Prop :=
  ∀ accepted, (buildFeedbackDecision tables seeds negatives existingTerms sentQueryTerms
      roundNo).acceptedTerm = some accepted →
    InTwo tables seeds accepted.term ∧
    ∀ used ∈ existingTerms.map (·.term) ++ sentQueryTerms,
      termKey tables used ≠ termKey tables accepted.term

def surfaces (tables : Py.UnicodeTables) (resumes : List ScoredCandidate) : List String :=
  (mentions tables resumes).map (·.2)

/-- The first term with a key, where two resumes have the key, is one that two resumes have. -/
def FirstInTwo (tables : Py.UnicodeTables) (seeds : List ScoredCandidate) : Prop :=
  ∀ term, (surfaces tables seeds).find? (termKey tables · = termKey tables term) = some term →
    2 ≤ (supportOf tables (mentions tables seeds) (termKey tables term)).length →
    InTwo tables seeds term

/-! ## 2. The first terms of their keys -/

theorem mem_keepFirst {α : Type} {key : α → String} {seen : List String} {items : List α} {item : α} :
    item ∈ keepFirst key seen items ↔
      key item ∉ seen ∧ items.find? (key · = key item) = some item := by
  induction items generalizing seen with
  | nil => simp [keepFirst]
  | cons first rest ih =>
    unfold keepFirst
    by_cases hsame : key first = key item
    · rw [List.find?_cons_of_pos (by simpa using hsame)]
      by_cases hseen : key first ∈ seen
      · rw [if_pos hseen, ih]
        exact iff_of_false (fun h => h.1 (hsame ▸ hseen)) (fun h => h.1 (hsame ▸ hseen))
      · rw [if_neg hseen, List.mem_cons, ih]
        constructor
        · rintro (rfl | ⟨hnew, -⟩)
          · exact ⟨hseen, rfl⟩
          · exact absurd (hsame ▸ List.mem_cons_self) hnew
        · rintro ⟨-, hfirst⟩
          exact .inl (Option.some.inj hfirst).symm
    · rw [List.find?_cons_of_neg (by simpa using hsame)]
      by_cases hseen : key first ∈ seen
      · rw [if_pos hseen, ih]
      · rw [if_neg hseen, List.mem_cons, ih]
        constructor
        · rintro (rfl | ⟨hnew, hfind⟩)
          · exact absurd rfl hsame
          · exact ⟨fun hmem => hnew (List.mem_cons_of_mem _ hmem), hfind⟩
        · rintro ⟨hnew, hfind⟩
          refine .inr ⟨fun hmem => ?_, hfind⟩
          rcases List.mem_cons.mp hmem with heq | hmem
          · exact hsame heq.symm
          · exact hnew hmem

theorem supportOf_ne_nil (h : supportOf tables (mentions tables resumes) key ≠ []) :
    ∃ surface ∈ surfaces tables resumes, termKey tables surface = key := by
  obtain ⟨resumeId, hmem⟩ := List.exists_mem_of_ne_nil _ h
  obtain ⟨mention, hmention, -⟩ := List.mem_map.mp (Py.mem_sortedSet.mp hmem)
  obtain ⟨hin, hkey⟩ := List.mem_filter.mp hmention
  exact ⟨mention.2, List.mem_map_of_mem hin, of_decide_eq_true hkey⟩

theorem find_seeds {others : List String}
    (hsome : ∃ surface ∈ surfaces tables seeds, termKey tables surface = termKey tables term)
    (h : (surfaces tables seeds ++ others).find? (termKey tables · = termKey tables term) =
      some term) :
    (surfaces tables seeds).find? (termKey tables · = termKey tables term) = some term := by
  rw [List.find?_append] at h
  cases hfind : (surfaces tables seeds).find? (termKey tables · = termKey tables term) with
  | none =>
    obtain ⟨surface, hsurface, hkey⟩ := hsome
    exact absurd (decide_eq_true hkey) (List.find?_eq_none.mp hfind surface hsurface)
  | some first =>
    rw [hfind] at h
    exact h

/-! ## 3. The accepted term -/

theorem surfaceShapeBonus_nonneg (term : String) : 0 ≤ surfaceShapeBonus tables term := by
  unfold surfaceShapeBonus
  dsimp only
  split
  · decide
  · split <;> decide

theorem scoreTerm_rejectionReason {seedMentions negativeMentions : List (String × String)}
    {negativeCount : Nat}
    (h : (scoreTerm tables seedMentions negativeMentions negativeCount excludedKeys
      term).rejectionReason = none) :
    termKey tables term ∉ excludedKeys ∧
      2 ≤ (supportOf tables seedMentions (termKey tables term)).length := by
  unfold scoreTerm at h
  dsimp only at h
  split at h
  · cases h
  next hnew =>
  split at h
  · cases h
  split at h
  · cases h
  next hsupport => exact ⟨hnew, not_lt.mp hsupport⟩

theorem scoreTerm_passes {seedMentions : List (String × String)}
    (hnew : termKey tables term ∉ excludedKeys) (hallowed : isAllowedSurfaceTerm tables term = true)
    (hsupport : 2 ≤ (supportOf tables seedMentions (termKey tables term)).length) :
    (scoreTerm tables seedMentions [] 0 excludedKeys term).rejectionReason = none ∧
      8 ≤ (scoreTerm tables seedMentions [] 0 excludedKeys term).score := by
  have hbonus := @surfaceShapeBonus_nonneg tables term
  unfold scoreTerm
  dsimp only
  rw [if_neg hnew, if_neg (not_not.mpr hallowed), if_neg (not_lt.mpr hsupport),
    if_neg (fun h => absurd h.1 (by decide)), if_neg (show ¬3 ≤ 0 by decide), if_neg (by omega)]
  exact ⟨rfl, by omega⟩

theorem buildFeedbackDecision_accepted_iff :
    (buildFeedbackDecision tables seeds negatives existingTerms sentQueryTerms
        roundNo).acceptedTerm = some accepted ↔
      2 ≤ seeds.length ∧ (activeAnchor existingTerms).isSome ∧
      ∃ item, (candidateTerms tables seeds negatives existingTerms sentQueryTerms).find?
          (fun item => item.rejectionReason = none ∧ 8 ≤ item.score) = some item ∧
        accepted = materializeTerm tables item.term roundNo item.supportingResumeIds := by
  unfold buildFeedbackDecision
  dsimp only
  by_cases hfew : seeds.length < 2
  · rw [if_pos hfew]
    exact iff_of_false (fun h => by cases h) (fun h => absurd h.1 (not_le.mpr hfew))
  · rw [if_neg hfew]
    cases activeAnchor existingTerms with
    | none => simp
    | some anchor =>
      dsimp only
      cases (candidateTerms tables seeds negatives existingTerms sentQueryTerms).find?
          fun item => item.rejectionReason = none ∧ 8 ≤ item.score with
      | none => simp
      | some item => simp [not_lt.mp hfew, eq_comm]

theorem exists_supported (h : (buildFeedbackDecision tables seeds negatives existingTerms
      sentQueryTerms roundNo).acceptedTerm = some accepted) :
    (surfaces tables seeds).find? (termKey tables · = termKey tables accepted.term) =
        some accepted.term ∧
      2 ≤ (supportOf tables (mentions tables seeds) (termKey tables accepted.term)).length ∧
      termKey tables accepted.term ∉ existingTerms.map (termKey tables ·.term) ++
        sentQueryTerms.map (termKey tables) := by
  obtain ⟨-, -, item, hfind, rfl⟩ := buildFeedbackDecision_accepted_iff.mp h
  have hitem := List.mem_of_find?_eq_some hfind
  have hpassed : item.rejectionReason = none ∧ 8 ≤ item.score := by
    simpa using List.find?_some hfind
  obtain ⟨term, hterm, rfl⟩ := List.mem_map.mp (Py.mem_sortedBy.mp hitem)
  obtain ⟨hnew, hsupport⟩ := scoreTerm_rejectionReason hpassed.1
  obtain ⟨-, hfirst⟩ := mem_keepFirst.mp hterm
  rw [List.map_append] at hfirst
  have hne : supportOf tables (mentions tables seeds) (termKey tables term) ≠ [] :=
    List.ne_nil_of_length_pos (by omega)
  exact ⟨find_seeds (supportOf_ne_nil hne) hfirst, hsupport, hnew⟩

/-! ## 4. A pool for every term -/

def anchorTerm (term : String) : QueryTermCandidate where
  term := term
  source := .jobTitle
  category := .roleAnchor
  priority := 1
  evidence := "Job title"
  firstAddedRound := 0
  retrievalRole := .primaryRoleAnchor
  family := "role.anchor"

theorem termKey_ofList (cs : List Char) : (termKey tables (String.ofList cs)).toList =
    (cs.filter tables.isAlnum).flatMap tables.casefold := by
  rw [termKey, Py.foldedAlnum, String.toList_ofList, String.toList_ofList]

theorem exists_other_key (hletter : tables.isAlnum 'a' = true) (key : String) :
    ∃ anchor, termKey tables anchor ≠ key := by
  have hfold : tables.casefold 'a' = ['a'] := tables.casefold_plain 'a' (by decide)
  by_cases hkey : termKey tables (String.ofList ['a']) = key
  · refine ⟨String.ofList [], fun hempty => ?_⟩
    have hboth := congrArg String.toList (hempty.trans hkey.symm)
    rw [termKey_ofList, termKey_ofList, List.filter_cons_of_pos hletter, List.flatMap_cons,
      hfold] at hboth
    cases hboth
  · exact ⟨_, hkey⟩

theorem length_le_of_support (h : 2 ≤ (supportOf tables (mentions tables seeds) key).length) :
    2 ≤ seeds.length := by
  have hnodup : (supportOf tables (mentions tables seeds) key).Nodup :=
    (List.perm_insertionSort _ _).nodup_iff.mpr (List.nodup_dedup _)
  have hsub : ∀ resumeId ∈ supportOf tables (mentions tables seeds) key,
      resumeId ∈ seeds.map (·.resumeId) := by
    intro resumeId hmem
    obtain ⟨mention, hmention, rfl⟩ := List.mem_map.mp (Py.mem_sortedSet.mp hmem)
    obtain ⟨resume, hresume, hin⟩ := List.mem_flatMap.mp (List.mem_filter.mp hmention).1
    obtain ⟨surface, -, rfl⟩ := List.mem_map.mp hin
    exact List.mem_map_of_mem hresume
  have hle := (List.subperm_of_subset hnodup hsub).length_le
  rw [List.length_map] at hle
  omega

theorem allowed_of_surface (h : term ∈ surfaces tables resumes) :
    isAllowedSurfaceTerm tables term = true := by
  obtain ⟨mention, hmention, rfl⟩ := List.mem_map.mp h
  obtain ⟨resume, -, hresume⟩ := List.mem_flatMap.mp hmention
  obtain ⟨surface, hsurface, rfl⟩ := List.mem_map.mp hresume
  obtain ⟨texts, -, htexts⟩ := List.mem_flatMap.mp hsurface
  exact (List.mem_filter.mp (mem_of_mem_keepFirst htexts)).2

theorem exists_accepting (hletter : tables.isAlnum 'a' = true)
    (hfirst : (surfaces tables seeds).find? (termKey tables · = termKey tables term) = some term)
    (hsupport : 2 ≤ (supportOf tables (mentions tables seeds) (termKey tables term)).length) :
    ∃ (existingTerms : List QueryTermCandidate) (sentQueryTerms : List String)
      (accepted : QueryTermCandidate), accepted.term = term ∧
      (buildFeedbackDecision tables seeds [] existingTerms sentQueryTerms 1).acceptedTerm =
        some accepted := by
  obtain ⟨anchor, hanchor⟩ := exists_other_key hletter (termKey tables term)
  have hmem : term ∈ surfaces tables seeds := List.mem_of_find?_eq_some hfirst
  have hothers : ∃ others, others = (surfaces tables seeds).filter fun other =>
      termKey tables other ≠ termKey tables term := ⟨_, rfl⟩
  obtain ⟨others, hothers⟩ := hothers
  have hscored : ∀ item, item ∈ candidateTerms tables seeds [] [anchorTerm anchor] others ↔
      ∃ other, (surfaces tables seeds).find? (termKey tables · = termKey tables other) = some other ∧
        scoreTerm tables (mentions tables seeds) [] 0
          (termKey tables anchor :: others.map (termKey tables)) other = item := by
    intro item
    have hdisplay : ∀ other, other ∈ keepFirst (termKey tables) []
        ((mentions tables seeds ++ mentions tables []).map (·.2)) ↔
          (surfaces tables seeds).find? (termKey tables · = termKey tables other) = some other := by
      intro other
      rw [mem_keepFirst, show mentions tables [] = [] from rfl, List.append_nil]
      exact and_iff_right List.not_mem_nil
    unfold candidateTerms scoreTerms
    rw [Py.mem_sortedBy, List.mem_map]
    simp only [hdisplay]
    rfl
  -- the term itself passes
  have hnew : termKey tables term ∉ termKey tables anchor :: others.map (termKey tables) := by
    intro hin
    rcases List.mem_cons.mp hin with heq | hin
    · exact hanchor heq.symm
    · obtain ⟨other, hother, heq⟩ := List.mem_map.mp hin
      rw [hothers] at hother
      exact of_decide_eq_true (List.mem_filter.mp hother).2 heq
  have hpasses := scoreTerm_passes hnew (allowed_of_surface hmem) hsupport
  have hsome : ((candidateTerms tables seeds [] [anchorTerm anchor] others).find?
      fun item => item.rejectionReason = none ∧ 8 ≤ item.score).isSome := by
    rw [List.find?_isSome]
    exact ⟨_, (hscored _).mpr ⟨term, hfirst, rfl⟩, by simpa using hpasses⟩
  obtain ⟨item, hfind⟩ := Option.isSome_iff_exists.mp hsome
  have hpassed : item.rejectionReason = none ∧ 8 ≤ item.score := by
    simpa using List.find?_some hfind
  obtain ⟨other, hother, rfl⟩ := (hscored item).mp (List.mem_of_find?_eq_some hfind)
  -- and nothing else does
  have hkey : termKey tables other = termKey tables term := by
    by_contra hne
    apply (scoreTerm_rejectionReason hpassed.1).1
    refine List.mem_cons_of_mem _ (List.mem_map_of_mem ?_)
    rw [hothers]
    exact List.mem_filter.mpr ⟨List.mem_of_find?_eq_some hother, decide_eq_true hne⟩
  rw [hkey, hfirst] at hother
  obtain rfl := Option.some.inj hother
  exact ⟨[anchorTerm anchor], others, _, rfl, buildFeedbackDecision_accepted_iff.mpr
    ⟨length_le_of_support hsupport, rfl, _, hfind, rfl⟩⟩

theorem feedbackOk_iff (hletter : tables.isAlnum 'a' = true) :
    (∀ negatives existingTerms sentQueryTerms roundNo,
      FeedbackOk tables seeds negatives existingTerms sentQueryTerms roundNo) ↔
      FirstInTwo tables seeds := by
  constructor
  · intro hok term hfirst hsupport
    obtain ⟨existingTerms, sentQueryTerms, accepted, rfl, haccepted⟩ :=
      exists_accepting hletter hfirst hsupport
    exact (hok [] existingTerms sentQueryTerms 1 accepted haccepted).1
  · intro htwo negatives existingTerms sentQueryTerms roundNo accepted haccepted
    obtain ⟨hfirst, hsupport, hnew⟩ := exists_supported haccepted
    refine ⟨htwo _ hfirst hsupport, fun used hused hkey => hnew ?_⟩
    rw [← hkey]
    rcases List.mem_append.mp hused with hused | hused
    · obtain ⟨item, hitem, rfl⟩ := List.mem_map.mp hused
      exact List.mem_append_left _ (List.mem_map_of_mem hitem)
    · exact List.mem_append_right _ (List.mem_map_of_mem hused)

end Feedback

open Feedback

/-- **Feedback terms are supported** as they are written, whatever the pool and the negative
resumes, exactly when no first term of a key draws on the support of others. -/
theorem buildFeedbackDecision_spec (tables : Py.UnicodeTables) (seeds : List ScoredCandidate)
    (hletter : tables.isAlnum 'a' = true) :
    (∀ negatives existingTerms sentQueryTerms roundNo,
      FeedbackOk tables seeds negatives existingTerms sentQueryTerms roundNo) ↔
      FirstInTwo tables seeds :=
  feedbackOk_iff hletter

/-! ### One resume for each language -/

def languageSeed (resumeId : String) (language : String) : ScoredCandidate where
  resumeId := resumeId
  fitBucket := .fit
  overallScore := 90
  mustHaveMatchScore := 90
  riskScore := 10
  evidence := [language]

theorem accepted_languages : (buildFeedbackDecision .ascii
    [languageSeed "resume-1" "C++", languageSeed "resume-2" "C#"] [] [anchorTerm "Engineer"] []
      2).acceptedTerm = some (materializeTerm .ascii "C++" 2 ["resume-1", "resume-2"]) := by
  decide +kernel

theorem not_feedbackOk_languages : ¬FeedbackOk .ascii
    [languageSeed "resume-1" "C++", languageSeed "resume-2" "C#"] [] [anchorTerm "Engineer"] [] 2 := by
  intro hok
  have htwo := (hok _ accepted_languages).1
  revert htwo
  decide

theorem buildFeedbackDecision_spec_languages :
    ¬FirstInTwo .ascii [languageSeed "resume-1" "C++", languageSeed "resume-2" "C#"] := by
  rw [← buildFeedbackDecision_spec .ascii _ (by decide)]
  exact fun hok => not_feedbackOk_languages (hok _ _ _ _)

theorem feedback_not_ok :
    ¬∀ (tables : Py.UnicodeTables) (seeds negatives : List ScoredCandidate)
      (existingTerms : List QueryTermCandidate) (sentQueryTerms : List String) (roundNo : Int),
      FeedbackOk tables seeds negatives existingTerms sentQueryTerms roundNo :=
  fun hok => not_feedbackOk_languages (hok _ _ _ _ _ _)

end SeekTalent
