import SeekTalent.Liepin.CardAcceptance

/-!
# The keys of candidates

A candidate of a card search has no id of the provider. Its resume id, its deduplication key and
its provider key are digests of the key material, and the material has the segment of the run and
the rank of the card beside the digest of the summary. So the same summary in another run, or at
another rank, is another candidate (`candidateKeys_iff`).
-/

namespace SeekTalent

namespace PiAgent

open PiLiepinExecutor (keyMessage)

/-! ## 1. From a search to candidates -/

/-- A search of the browser helper, and the call of the executor that takes its envelope. -/
structure CardSearch where
  files : Files
  call : CardsCall
  request : SearchCardsRequest

namespace CardSearch

variable (executor : PiLiepinExecutor) (search : CardSearch)

def result : LiepinPiCardSearchResult :=
  match search.call.run executor.sha256 search.files with
  | (.ok envelope, files) => executor.searchCards files search.request envelope
  | (.error _, _) => rejectedEnvelope

def candidates : List LiepinMappedCandidate :=
  (search.result executor).cardSearch.elim [] fun response =>
    response.cards.map fun card => mapLiepinWorkerCard executor.tables card none

def summaries : List CardSummary :=
  match search.call.outcome with
  | .blocked _ _ _ => []
  | .cards _ _ _ summaries => summaries

end CardSearch

/-! ## 2. The digests -/

section Digests

variable (executor : PiLiepinExecutor) (safeRunId : String) (rank : Nat) (summary : CardSummary)

def messageOf : String := keyMessage (keyMaterial executor.sha256 safeRunId rank summary)

def keyHash : String := executor.hmac.hexdigest (messageOf executor safeRunId rank summary)

def fingerprintText : String := "liepin:" ++ keyHash executor safeRunId rank summary

def fingerprint : String :=
  executor.sha256.hexdigest (fingerprintText executor safeRunId rank summary)

end Digests

structure HasKeys (executor : PiLiepinExecutor) (safeRunId : String) (rank : Nat)
    (summary : CardSummary) (candidate : ResumeCandidate) : Prop where
  resumeId : candidate.resumeId = fingerprint executor safeRunId rank summary
  dedupKey : candidate.dedupKey = fingerprint executor safeRunId rank summary
  keyHash : candidate.raw.providerCandidateKeyHash = some (keyHash executor safeRunId rank summary)

variable {executor : PiLiepinExecutor} {search : CardSearch} {files : Files} {hash : HashFunction}
variable {safeRunId safeRunId' text : String} {rank rank' i j : Nat} {summary summary' : CardSummary}

theorem safeIdentifier_hexdigest (tables : Py.UnicodeTables) :
    safeIdentifier tables (some (hash.hexdigest text)) = some (hash.hexdigest text) := by
  have hdigits : ∀ c ∈ (hash.hexdigest text).toList, c ∈ hexDigits :=
    fun c hc => HashFunction.mem_hexdigest hc
  have hspace : ∀ c ∈ (hash.hexdigest text).toList, Py.isSpace c = false := by
    intro c hc
    have hall : hexDigits.all (fun c => !Py.isSpace c) = true := by decide
    simpa using List.all_eq_true.mp hall c (hdigits c hc)
  have hlength : (hash.hexdigest text).length = 64 := by
    rw [← String.length_toList]
    exact HashFunction.length_hexdigest
  have hfold : Py.casefold tables (hash.hexdigest text) = hash.hexdigest text := by
    rw [Py.casefold, ← String.toList_inj, String.toList_ofList]
    have hchar : ∀ c ∈ (hash.hexdigest text).toList, tables.casefold c = [c] := by
      intro c hc
      have hall : hexDigits.all (fun c => Py.isPlain c && c.toLower == c) = true := by decide
      have hplain := List.all_eq_true.mp hall c (hdigits c hc)
      rw [Bool.and_eq_true, beq_iff_eq] at hplain
      rw [tables.casefold_plain c hplain.1, hplain.2]
    rw [List.flatMap_congr hchar]
    simp
  -- every forbidden word has a letter that is no digit
  have hwords : ∀ word ∈ ["bearer", "cookie", "session", "token", "secret"],
      Py.contains (hash.hexdigest text) word = false := by
    intro word hword
    have hall : ∀ word ∈ ["bearer", "cookie", "session", "token", "secret"],
        word.toList.any (fun c => decide (c ∉ hexDigits)) = true := by decide
    obtain ⟨c, hc, hdigit⟩ := List.any_eq_true.mp (hall word hword)
    rw [Py.contains, decide_eq_false_iff_not]
    intro hwithin
    exact of_decide_eq_true hdigit (hdigits c (hwithin.subset hc))
  have hne : hash.hexdigest text ≠ "" := by
    intro hempty
    rw [hempty] at hlength
    cases hlength
  have halnum : ∀ c ∈ (hash.hexdigest text).toList,
      (c.isAlphanum || c ∈ ['.', '_', ':', '-']) = true := by
    intro c hc
    have hall : hexDigits.all (fun c => c.isAlphanum) = true := by decide
    rw [List.all_eq_true.mp hall c (hdigits c hc), Bool.true_or]
  unfold safeIdentifier
  rw [Option.map_some, Py.strip_eq_self hspace, Option.filter_some, if_pos]
  simp only [hfold, Bool.and_eq_true, decide_eq_true_eq, Bool.not_eq_true', List.any_eq_false,
    List.all_eq_true, hlength]
  refine ⟨⟨⟨hne, by decide⟩, halnum⟩, ?_⟩
  intro word hword
  rw [hwords word hword]
  simp

/-! ## 3. From a card to its candidate -/

theorem getElem?_of_mapM {α β : Type} {f : α → Option β} : ∀ {xs : List α} {ys : List β} {y : β},
    xs.mapM f = some ys → ys[i]? = some y → ∃ x, xs[i]? = some x ∧ f x = some y := by
  intro xs
  induction xs generalizing i with
  | nil =>
    intro ys y h hy
    obtain rfl := Option.some.inj h
    cases hy
  | cons x xs ih =>
    intro ys y h hy
    simp only [List.mapM_cons, Option.bind_eq_bind, Option.bind_eq_some_iff, Option.pure_def,
      Option.some.injEq] at h
    obtain ⟨z, hz, zs, hzs, rfl⟩ := h
    cases i with
    | zero =>
      obtain rfl := Option.some.inj hy
      exact ⟨x, rfl, hz⟩
    | succ i => exact ih hzs hy

theorem getElem?_writtenCards {sha256 : HashFunction} : ∀ {summaries : List CardSummary} {rank i : Nat},
    (writtenCards sha256 safeRunId rank summaries)[i]? =
      summaries[i]?.map (writtenCard sha256 safeRunId (rank + i))
  | [], _, _ => rfl
  | summary :: summaries, rank, 0 => rfl
  | summary :: summaries, rank, i + 1 => by
    rw [writtenCards, List.getElem?_cons_succ, List.getElem?_cons_succ, getElem?_writtenCards,
      Nat.add_right_comm, Nat.add_assoc]

theorem cardTexts_key_eq_none {sha256 : HashFunction} : ∀ {summaries : List CardSummary} {rank r : Nat},
    r < rank → cardTexts sha256 safeRunId rank summaries (.providerKey r) = none
  | [], _, _, _ => rfl
  | summary :: summaries, rank, r, h => by
    rw [cardTexts, cardTexts_key_eq_none (Nat.lt_succ_of_lt h), Option.none_or, cardText,
      if_neg (Nat.ne_of_lt h)]

theorem cardTexts_key {sha256 : HashFunction} : ∀ {summaries : List CardSummary} {rank i : Nat},
    summaries[i]? = some summary →
      cardTexts sha256 safeRunId rank summaries (.providerKey (rank + i)) =
        some (keyMaterial sha256 safeRunId (rank + i) summary)
  | [], _, _, h => by cases h
  | first :: summaries, rank, 0, h => by
    obtain rfl := Option.some.inj h
    simp only [Nat.add_zero]
    rw [cardTexts, cardTexts_key_eq_none (Nat.lt_succ_self rank), Option.none_or, cardText,
      if_pos rfl]
  | first :: summaries, rank, i + 1, h => by
    have hrest := @cardTexts_key sha256 summaries (rank + 1) i h
    rw [Nat.add_right_comm, Nat.add_assoc] at hrest
    rw [cardTexts, hrest, Option.some_or]

theorem keyHash_mapLiepinWorkerCard (tables : Py.UnicodeTables) (card : LiepinWorkerCandidateCard) :
    (mapLiepinWorkerCard tables card none).candidate.raw.providerCandidateKeyHash =
      safeIdentifier tables card.payload.providerCandidateKeyHash := rfl

theorem hasKeys_mapCard {card : LiepinWorkerCandidateCard} {sourceRunId actionTraceRef : String}
    (hmaterial : resolveMaterial files (PiArtifact.ref safeRunId (.providerKey rank)) =
      some (keyMaterial executor.sha256 safeRunId rank summary))
    (hcard : executor.mapCard files sourceRunId actionTraceRef
      (writtenCard executor.sha256 safeRunId rank summary) = some card) :
    HasKeys executor safeRunId rank summary
      (mapLiepinWorkerCard executor.tables card none).candidate := by
  have hhash : executor.providerCandidateHash files
      (writtenCard executor.sha256 safeRunId rank summary).providerCandidateKeyMaterialRef =
        some (keyHash executor safeRunId rank summary) := by
    show (resolveMaterial files (PiArtifact.ref safeRunId (.providerKey rank))).map _ = _
    rw [hmaterial]
    rfl
  unfold PiLiepinExecutor.mapCard at hcard
  rw [hhash, Option.map_some] at hcard
  have hcard := Option.some.inj hcard
  rw [← hcard]
  have hkey : safeIdentifier executor.tables (some (keyHash executor safeRunId rank summary)) =
      some (keyHash executor safeRunId rank summary) := by
    unfold keyHash
    exact safeIdentifier_hexdigest executor.tables
  refine ⟨rfl, rfl, ?_⟩
  rw [keyHash_mapLiepinWorkerCard]
  exact hkey

theorem cards_writtenEnvelope (sha256 : HashFunction) (search : CardSearch) :
    (writtenEnvelope sha256 search.call.request search.call.outcome).cards =
      writtenCards sha256 search.call.segment 1 search.summaries := by
  unfold CardSearch.summaries
  cases search.call.outcome with
  | blocked safeReasonCode pagesVisited events => rfl
  | cards pagesVisited events stateText summaries => rfl

theorem text?_key {sha256 : HashFunction} (h : search.summaries[i]? = some summary) :
    search.call.text? sha256 (.providerKey (i + 1)) =
      some (keyMaterial sha256 search.call.segment (i + 1) summary) := by
  unfold CardSearch.summaries at h
  unfold CardsCall.text?
  cases houtcome : search.call.outcome with
  | blocked safeReasonCode pagesVisited events =>
    rw [houtcome] at h
    cases h
  | cards pagesVisited events stateText summaries =>
    rw [houtcome] at h
    have hkey : cardTexts sha256 search.call.segment 1 summaries (.providerKey (1 + i)) =
        some (keyMaterial sha256 search.call.segment (1 + i) summary) := cardTexts_key h
    rw [Nat.add_comm] at hkey
    exact hkey

/-- **Every candidate of a search** has the keys of its card. -/
theorem hasKeys_of_candidate {candidate : LiepinMappedCandidate}
    (h : (search.candidates executor)[i]? = some candidate) :
    ∃ summary, search.summaries[i]? = some summary ∧
      HasKeys executor search.call.segment (i + 1) summary candidate.candidate := by
  obtain ⟨henvelope, hwrote⟩ := run_spec executor.sha256 search.call search.files
  unfold CardSearch.candidates CardSearch.result at h
  generalize search.call.run executor.sha256 search.files = run at h henvelope hwrote
  obtain ⟨answer, files⟩ := run
  dsimp only at henvelope hwrote
  subst henvelope
  dsimp only at h
  unfold PiLiepinExecutor.searchCards at h
  split at h
  · cases hmapped : executor.mapCardSearch files
        (writtenEnvelope executor.sha256 search.call.request search.call.outcome) with
    | none =>
      rw [hmapped] at h
      cases h
    | some response =>
      rw [hmapped] at h
      dsimp only [Option.elim_some] at h
      rw [List.getElem?_map, Option.map_eq_some_iff] at h
      obtain ⟨card, hcard, rfl⟩ := h
      obtain ⟨cards, hcards, rfl⟩ := Option.map_eq_some_iff.mp hmapped
      obtain ⟨written, hwritten, hmap⟩ := getElem?_of_mapM hcards hcard
      rw [cards_writtenEnvelope, getElem?_writtenCards, Option.map_eq_some_iff] at hwritten
      obtain ⟨summary, hsummary, rfl⟩ := hwritten
      refine ⟨summary, hsummary, ?_⟩
      rw [Nat.add_comm] at hmap
      apply hasKeys_mapCard _ hmap
      show resolveMaterial files (PiArtifact.ref
        (safeArtifactSegment search.call.request.sourceRunId) (.providerKey (i + 1))) = _
      rw [PiArtifact.resolveMaterial_ref]
      exact hwrote.written _ _ (text?_key hsummary)
  · cases h

theorem length_candidates (hfits : search.call.outcome.Fits search.request)
    (hsource : search.call.request.sourceRunId = search.request.sourceRunId)
    (hquery : search.call.request.query = search.request.keywordQuery)
    (hpasses : (writtenEnvelope executor.sha256 search.call.request search.call.outcome).cards.all
      (cardPasses executor.tables) = true) :
    (search.candidates executor).length = search.summaries.length := by
  obtain ⟨henvelope, hwrote⟩ := run_spec executor.sha256 search.call search.files
  have hanswer := @searchCards_written executor _ _ _ _ _ hfits hsource hquery hwrote
  rw [if_pos hpasses] at hanswer
  obtain ⟨-, response, hresponse, hlength⟩ := hanswer
  rw [cards_writtenEnvelope, length_writtenCards] at hlength
  unfold CardSearch.candidates CardSearch.result
  generalize search.call.run executor.sha256 search.files = run at henvelope hresponse
  obtain ⟨answer, files⟩ := run
  dsimp only at henvelope hresponse
  subst henvelope
  dsimp only
  rw [hresponse, Option.elim_some, List.length_map, hlength]

/-! ## 4. Keys of two candidates -/

theorem colon_not_mem_segment (value : String) : ':' ∉ (safeArtifactSegment value).toList := by
  intro h
  cases (pathPart_segment value).chars ':' h

theorem colon_not_mem_rank (rank : Nat) : ':' ∉ (toString rank).toList := by
  intro h
  cases Py.isDigit_of_mem_repr h

/-- What stands before the first `c` is told by the whole. -/
theorem append_cons_inj_of_first {c : Char} : ∀ {xs xs' ys ys' : List Char}, c ∉ xs → c ∉ xs' →
    xs ++ c :: ys = xs' ++ c :: ys' → xs = xs' ∧ ys = ys'
  | [], [], _, _, _, _, h => ⟨rfl, (List.cons.inj h).2⟩
  | [], d :: _, _, _, _, h', h => absurd (List.cons.inj h).1 fun hc => h' (hc ▸ List.mem_cons_self)
  | d :: _, [], _, _, h, _, heq =>
    absurd (List.cons.inj heq).1 fun hc => h (hc ▸ List.mem_cons_self)
  | d :: xs, d' :: xs', _, _, h, h', heq => by
    obtain ⟨rfl, hrest⟩ := List.cons.inj heq
    obtain ⟨rfl, hys⟩ := append_cons_inj_of_first (fun hc => h (List.mem_cons_of_mem d hc))
      (fun hc => h' (List.mem_cons_of_mem d hc)) hrest
    exact ⟨rfl, hys⟩

theorem keyMaterial_inj {sha256 : HashFunction} (h : ':' ∉ safeRunId.toList)
    (h' : ':' ∉ safeRunId'.toList) :
    keyMaterial sha256 safeRunId rank summary = keyMaterial sha256 safeRunId' rank' summary' ↔
      safeRunId = safeRunId' ∧ rank = rank' ∧
        summaryDigest sha256 summary = summaryDigest sha256 summary' := by
  unfold keyMaterial
  generalize summaryDigest sha256 summary = digest
  generalize summaryDigest sha256 summary' = digest'
  constructor
  · intro heq
    have hlist := congrArg String.toList heq
    have hcolon : ":".toList = [':'] := rfl
    simp only [String.toList_append, hcolon, List.append_assoc, List.singleton_append] at hlist
    obtain ⟨hsegment, hrest⟩ := append_cons_inj_of_first h h' (List.append_cancel_left hlist)
    obtain ⟨hrank, hdigest⟩ :=
      append_cons_inj_of_first (colon_not_mem_rank rank) (colon_not_mem_rank rank') hrest
    have hdigits : Nat.toDigits 10 rank = Nat.toDigits 10 rank' := by
      rw [← Nat.toList_repr, ← Nat.toList_repr]
      exact hrank
    exact ⟨String.toList_inj.mp hsegment, Py.toDigits_inj hdigits, String.toList_inj.mp hdigest⟩
  · intro heq
    rw [heq.1, heq.2.1, heq.2.2]

/-- What is hashed for two cards is no collision. -/
structure NoCollision (executor : PiLiepinExecutor) (safeRunId : String) (rank : Nat)
    (summary : CardSummary) (safeRunId' : String) (rank' : Nat) (summary' : CardSummary) : Prop where
  message : executor.hmac.Apart (messageOf executor safeRunId rank summary)
    (messageOf executor safeRunId' rank' summary')
  fingerprint : executor.sha256.Apart (fingerprintText executor safeRunId rank summary)
    (fingerprintText executor safeRunId' rank' summary')

structure SameKeys (candidate candidate' : ResumeCandidate) : Prop where
  resumeId : candidate.resumeId = candidate'.resumeId
  dedupKey : candidate.dedupKey = candidate'.dedupKey
  keyHash : candidate.raw.providerCandidateKeyHash = candidate'.raw.providerCandidateKeyHash

structure OtherKeys (candidate candidate' : ResumeCandidate) : Prop where
  resumeId : candidate.resumeId ≠ candidate'.resumeId
  dedupKey : candidate.dedupKey ≠ candidate'.dedupKey
  keyHash : candidate.raw.providerCandidateKeyHash ≠ candidate'.raw.providerCandidateKeyHash

section Keys

variable {candidate candidate' : ResumeCandidate}

theorem messageOf_inj : messageOf executor safeRunId rank summary =
      messageOf executor safeRunId' rank' summary' ↔
    keyMaterial executor.sha256 safeRunId rank summary =
      keyMaterial executor.sha256 safeRunId' rank' summary' := by
  unfold messageOf keyMessage
  rw [← String.toList_inj, ← String.toList_inj, String.toList_append, String.toList_append,
    List.append_cancel_left_eq]

theorem keyHash_inj (h : NoCollision executor safeRunId rank summary safeRunId' rank' summary') :
    keyHash executor safeRunId rank summary = keyHash executor safeRunId' rank' summary' ↔
      keyMaterial executor.sha256 safeRunId rank summary =
        keyMaterial executor.sha256 safeRunId' rank' summary' := by
  rw [keyHash, keyHash, HashFunction.hexdigest_inj h.message, messageOf_inj]

theorem fingerprint_inj (h : NoCollision executor safeRunId rank summary safeRunId' rank' summary') :
    fingerprint executor safeRunId rank summary = fingerprint executor safeRunId' rank' summary' ↔
      keyMaterial executor.sha256 safeRunId rank summary =
        keyMaterial executor.sha256 safeRunId' rank' summary' := by
  rw [fingerprint, fingerprint, HashFunction.hexdigest_inj h.fingerprint, ← keyHash_inj h,
    fingerprintText, fingerprintText, ← String.toList_inj, String.toList_append,
    String.toList_append, List.append_cancel_left_eq, String.toList_inj]

theorem keys_inj (h : NoCollision executor safeRunId rank summary safeRunId' rank' summary')
    (hkeys : HasKeys executor safeRunId rank summary candidate)
    (hkeys' : HasKeys executor safeRunId' rank' summary' candidate') :
    (keyMaterial executor.sha256 safeRunId rank summary =
        keyMaterial executor.sha256 safeRunId' rank' summary' → SameKeys candidate candidate') ∧
      (keyMaterial executor.sha256 safeRunId rank summary ≠
        keyMaterial executor.sha256 safeRunId' rank' summary' → OtherKeys candidate candidate') := by
  constructor
  · intro hmaterial
    constructor
    · rw [hkeys.resumeId, hkeys'.resumeId, fingerprint_inj h]
      exact hmaterial
    · rw [hkeys.dedupKey, hkeys'.dedupKey, fingerprint_inj h]
      exact hmaterial
    · rw [hkeys.keyHash, hkeys'.keyHash, Option.some_inj, keyHash_inj h]
      exact hmaterial
  · intro hmaterial
    constructor
    · rw [hkeys.resumeId, hkeys'.resumeId, Ne, fingerprint_inj h]
      exact hmaterial
    · rw [hkeys.dedupKey, hkeys'.dedupKey, Ne, fingerprint_inj h]
      exact hmaterial
    · rw [hkeys.keyHash, hkeys'.keyHash, Ne, Option.some_inj, keyHash_inj h]
      exact hmaterial

end Keys

/-- The two cards are at the same place: the segments of the runs, the ranks and the digests of the
whole summaries are the same. -/
def SamePlace (sha256 : HashFunction) (a b : CardSearch) (i j : Nat)
    (summary summary' : CardSummary) : Prop :=
  a.call.segment = b.call.segment ∧ i = j ∧
    summaryDigest sha256 summary = summaryDigest sha256 summary'

theorem keyMaterial_iff_samePlace {sha256 : HashFunction} {a b : CardSearch} :
    keyMaterial sha256 a.call.segment (i + 1) summary =
        keyMaterial sha256 b.call.segment (j + 1) summary' ↔
      SamePlace sha256 a b i j summary summary' := by
  have hcolon : ':' ∉ a.call.segment.toList := colon_not_mem_segment _
  have hcolon' : ':' ∉ b.call.segment.toList := colon_not_mem_segment _
  unfold SamePlace
  rw [keyMaterial_inj hcolon hcolon', Nat.add_right_cancel_iff]

/-- **The keys of two cards.** Where no two texts that are hashed collide, cards with the same safe
summary go by the same keys exactly when they are at the same place. Two cards of one search never
share a key. -/
theorem candidateKeys_iff {a b : CardSearch} {candidate candidate' : LiepinMappedCandidate}
    (hcandidate : (a.candidates executor)[i]? = some candidate)
    (hcandidate' : (b.candidates executor)[j]? = some candidate')
    (hsummary : a.summaries[i]? = some summary) (hsummary' : b.summaries[j]? = some summary')
    (happart : NoCollision executor a.call.segment (i + 1) summary b.call.segment (j + 1) summary') :
    ((summary.toSafeCardSummary = summary'.toSafeCardSummary →
          SameKeys candidate.candidate candidate'.candidate) ↔
        (summary.toSafeCardSummary = summary'.toSafeCardSummary →
          SamePlace executor.sha256 a b i j summary summary')) ∧
      (a = b → i ≠ j → OtherKeys candidate.candidate candidate'.candidate) := by
  obtain ⟨found, hfound, hkeys⟩ := hasKeys_of_candidate hcandidate
  obtain ⟨found', hfound', hkeys'⟩ := hasKeys_of_candidate hcandidate'
  obtain rfl := Option.some.inj (hsummary.symm.trans hfound)
  obtain rfl := Option.some.inj (hsummary'.symm.trans hfound')
  obtain ⟨hsame, hother⟩ := keys_inj happart hkeys hkeys'
  rw [Ne, keyMaterial_iff_samePlace] at hother
  rw [keyMaterial_iff_samePlace] at hsame
  refine ⟨⟨?_, ?_⟩, ?_⟩
  · intro h hsafe
    by_contra hplace
    exact (hother hplace).resumeId (h hsafe).resumeId
  · intro h hsafe
    exact hsame (h hsafe)
  · intro _ hne
    apply hother
    intro hplace
    exact hne hplace.2.1

/-- A hash function that tells texts apart by one byte. -/
def sampleHash : HashFunction where
  digest text := List.replicate 32 (text.toUTF8.data.toList.getD 36 0)
  length_digest _ := List.length_replicate

def sampleExecutor : PiLiepinExecutor where
  tables := .ascii
  hmac := sampleHash
  sha256 := sampleHash
  sha256Json payload := sampleHash.hexdigest (dumped payload)

def sampleSearch (sourceRunId text : String) : CardSearch where
  files := fun _ => none
  call := searchOf sourceRunId text
  request := { sourceRunId, keywordQuery := "java", maxPages := 1, maxCards := 5 }

def sampleChars : List Char :=
  ['l', 'i', 'e', 'p', 'n', 'o', 'c', 'r', 'u', 'f', 'Z', 'h', 'a', 'g', ' ', '-', '0', '1', '2', '3',
    '5']

section Sample

-- no expression is spelled out to see whether it is a function
attribute [local irreducible] Redaction.textIgnoreCase

variable {text : String} {cs : List Char}

theorem needs_notMem_of_letter {d : Char} (hd : d ∈ text.toList)
    (hother : sampleChars.all (fun c => !Redaction.sameLetter c d) = true) :
    (Redaction.textIgnoreCase text).Needs fun c => c ∉ sampleChars := by
  unfold Redaction.textIgnoreCase
  apply Regex.needs_all.mpr
  refine ⟨_, List.mem_map.mpr ⟨d, hd, rfl⟩, ?_⟩
  intro c hc hmem
  have hdiffers := List.all_eq_true.mp hother c hmem
  rw [(show Redaction.sameLetter c d = true from hc)] at hdiffers
  cases hdiffers

theorem safeText_of_sampleChars (htext : text.toList = cs) (hcs : cs.all (· ∈ sampleChars) = true)
    (hphone : (FORBIDDEN_TEXT_PATTERNS .ascii)[1].searchFrom none cs = false)
    (hlength : cs.length ≤ 2000) : safeText .ascii text = true := by
  have hchars : ∀ c ∈ cs, ¬c ∉ sampleChars := fun c hc =>
    not_not.mpr (of_decide_eq_true (List.all_eq_true.mp hcs c hc))
  have hnone : ∀ pattern : Regex, pattern.Needs (fun c => c ∉ sampleChars) →
      (!pattern.search text) = true := by
    intro pattern hneeds
    unfold Regex.search
    rw [htext, Regex.searchFrom_eq_false hneeds hchars]
    rfl
  unfold safeText
  rw [← String.length_toList, htext, decide_eq_true hlength, Bool.and_true]
  simp only [FORBIDDEN_TEXT_PATTERNS, List.getElem_cons_succ, List.getElem_cons_zero] at hphone
  simp only [FORBIDDEN_TEXT_PATTERNS, List.all_cons, List.all_nil, Bool.and_true, Bool.and_eq_true]
  refine ⟨hnone _ ?_, ?_, hnone _ ?_, hnone _ ?_, hnone _ ?_, hnone _ ?_, hnone _ ?_⟩
  · exact Regex.needs_all.mpr ⟨.text "@", by simp, Regex.needs_text (c := '@') (by simp) (by decide)⟩
  · unfold Regex.search
    rw [htext, hphone]
    rfl
  · refine Regex.needs_all.mpr
      ⟨.any (["wechat", "weixin", "wx"].map Redaction.textIgnoreCase), by simp, ?_⟩
    rw [Regex.needs_any]
    intro expression hexpression
    obtain ⟨name, hname, rfl⟩ := List.mem_map.mp hexpression
    apply needs_notMem_of_letter (d := 'w') _ (by decide)
    simp only [List.mem_cons, List.not_mem_nil, or_false] at hname
    rcases hname with rfl | rfl | rfl <;> simp
  · exact Regex.needs_all.mpr ⟨Redaction.textIgnoreCase "bearer", by simp,
      needs_notMem_of_letter (d := 'b') (by simp) (by decide)⟩
  · rw [Regex.needs_any, List.forall_mem_cons, List.forall_mem_singleton]
    exact ⟨Regex.needs_all.mpr ⟨Redaction.textIgnoreCase "cookie", by simp,
        needs_notMem_of_letter (d := 'k') (by simp) (by decide)⟩,
      Regex.needs_all.mpr ⟨.text "=", by simp,
        Regex.needs_text (c := '=') (by simp) (by decide)⟩⟩
  · rw [Regex.needs_any, List.forall_mem_cons, List.forall_mem_singleton]
    exact ⟨Regex.needs_all.mpr ⟨Redaction.textIgnoreCase "localStorage", by simp,
        needs_notMem_of_letter (d := 't') (by simp) (by decide)⟩,
      Regex.needs_all.mpr ⟨Redaction.textIgnoreCase "sessionStorage", by simp,
        needs_notMem_of_letter (d := 't') (by simp) (by decide)⟩⟩
  · exact Regex.needs_all.mpr ⟨.text "<", by simp, Regex.needs_text (c := '<') (by simp) (by decide)⟩

end Sample

theorem segment_run1 : (sampleSearch "run-1" "Zhang 30").call.segment = "run-1" := by
  have hlist : "run-1".toList = ['r', 'u', 'n', '-', '1'] := String.toList_ofList
  show safeArtifactSegment "run-1" = "run-1"
  unfold safeArtifactSegment
  rw [hlist]
  rfl

theorem segment_run2 : (sampleSearch "run-2" "Zhang 30").call.segment = "run-2" := by
  have hlist : "run-2".toList = ['r', 'u', 'n', '-', '2'] := String.toList_ofList
  show safeArtifactSegment "run-2" = "run-2"
  unfold safeArtifactSegment
  rw [hlist]
  rfl

theorem summaryDigest_sample : summaryDigest sampleHash (cardOf "Zhang 30") = "5f5f5f5f5f5f" := by
  decide +kernel

theorem plain_openSearch : TraceEvent.Plain { actionKind := "open_search" } where
  name := by
    have hlist : "open_search".toList = ['o', 'p', 'e', 'n', '_', 's', 'e', 'a', 'r', 'c', 'h'] :=
      String.toList_ofList
    show ("open_search".toList.all isNameChar) = true
    rw [hlist]
    decide
  action := by simp
  route := rfl

theorem exists_candidate_of_safeText {sourceRunId : String}
    (hid : safeText .ascii ("liepin-opencli-" ++ (sampleSearch sourceRunId "Zhang 30").call.segment ++
      "-" ++ toString 1 ++ "-" ++ "5f5f5f5f5f5f") = true) :
    ∃ candidate,
      ((sampleSearch sourceRunId "Zhang 30").candidates sampleExecutor)[0]? = some candidate := by
  have hfits : (sampleSearch sourceRunId "Zhang 30").call.outcome.Fits
      (sampleSearch sourceRunId "Zhang 30").request := by
    refine ⟨(by decide : 1 ≤ 5), Nat.le_refl 1, ?_⟩
    intro event hevent
    rw [List.mem_singleton.mp hevent]
    exact plain_openSearch
  have hpasses : ([writtenCard sampleHash (sampleSearch sourceRunId "Zhang 30").call.segment 1
      (cardOf "Zhang 30")].all (cardPasses .ascii)) = true := by
    have htext : safeText .ascii "Zhang 30" = true :=
      safeText_of_sampleChars String.toList_ofList (by decide) (by decide) (by decide)
    have hvalue : safeValue .ascii "Zhang 30" = true := by
      unfold safeValue Py.startsWith
      rw [if_neg (by simp)]
      exact htext
    rw [← summaryDigest_sample] at hid
    unfold cardPasses writtenCard
    rw [List.all_cons, List.all_nil, Bool.and_true, Bool.and_eq_true]
    have htexts : (cardOf "Zhang 30").toSafeCardSummary.texts = ["Zhang 30"] := rfl
    refine ⟨hid, ?_⟩
    rw [htexts, List.all_cons, List.all_nil, Bool.and_true]
    exact hvalue
  have hone := @length_candidates sampleExecutor _ hfits rfl rfl hpasses
  have hpositive : 0 < ((sampleSearch sourceRunId "Zhang 30").candidates sampleExecutor).length := by
    rw [hone]
    exact Nat.one_pos
  exact ⟨_, List.getElem?_eq_getElem hpositive⟩

theorem exists_candidate_run1 :
    ∃ candidate, ((sampleSearch "run-1" "Zhang 30").candidates sampleExecutor)[0]? = some candidate := by
  apply exists_candidate_of_safeText
  rw [segment_run1]
  have hid : "liepin-opencli-" ++ "run-1" ++ "-" ++ toString 1 ++ "-" ++ "5f5f5f5f5f5f" =
    "liepin-opencli-run-1-1-5f5f5f5f5f5f" := rfl
  rw [hid]
  exact safeText_of_sampleChars String.toList_ofList (by decide) (by decide) (by decide)

theorem exists_candidate_run2 :
    ∃ candidate, ((sampleSearch "run-2" "Zhang 30").candidates sampleExecutor)[0]? = some candidate := by
  apply exists_candidate_of_safeText
  rw [segment_run2]
  have hid : "liepin-opencli-" ++ "run-2" ++ "-" ++ toString 1 ++ "-" ++ "5f5f5f5f5f5f" =
    "liepin-opencli-run-2-1-5f5f5f5f5f5f" := rfl
  rw [hid]
  exact safeText_of_sampleChars String.toList_ofList (by decide) (by decide) (by decide)

theorem noCollision_twoRuns : NoCollision sampleExecutor "run-1" 1 (cardOf "Zhang 30") "run-2" 1
    (cardOf "Zhang 30") where
  message := by
    intro h
    have hne : sampleHash.digest (messageOf sampleExecutor "run-1" 1 (cardOf "Zhang 30")) ≠
      sampleHash.digest (messageOf sampleExecutor "run-2" 1 (cardOf "Zhang 30")) := by decide
    exact absurd h hne
  fingerprint := by
    intro h
    have hne : sampleHash.digest (fingerprintText sampleExecutor "run-1" 1 (cardOf "Zhang 30")) ≠
        sampleHash.digest (fingerprintText sampleExecutor "run-2" 1 (cardOf "Zhang 30")) := by
      decide
    exact absurd h hne

theorem candidateKeys_iff_twoRuns : ∃ candidate candidate' : LiepinMappedCandidate,
    ((cardOf "Zhang 30").toSafeCardSummary = (cardOf "Zhang 30").toSafeCardSummary →
        SameKeys candidate.candidate candidate'.candidate) ↔
      ((cardOf "Zhang 30").toSafeCardSummary = (cardOf "Zhang 30").toSafeCardSummary →
        SamePlace sampleHash (sampleSearch "run-1" "Zhang 30") (sampleSearch "run-2" "Zhang 30") 0 0
          (cardOf "Zhang 30") (cardOf "Zhang 30")) := by
  obtain ⟨candidate, hcandidate⟩ := exists_candidate_run1
  obtain ⟨candidate', hcandidate'⟩ := exists_candidate_run2
  have happart := noCollision_twoRuns
  rw [← segment_run1, ← segment_run2] at happart
  exact ⟨candidate, candidate', (candidateKeys_iff hcandidate hcandidate' rfl rfl happart).1⟩

/-- One and the same summary in two runs: two candidates. -/
theorem not_sameKeys_twoRuns : ∃ candidate candidate' : LiepinMappedCandidate,
    ((sampleSearch "run-1" "Zhang 30").candidates sampleExecutor)[0]? = some candidate ∧
      ((sampleSearch "run-2" "Zhang 30").candidates sampleExecutor)[0]? = some candidate' ∧
      (sampleSearch "run-1" "Zhang 30").summaries = (sampleSearch "run-2" "Zhang 30").summaries ∧
      NoCollision sampleExecutor "run-1" 1 (cardOf "Zhang 30") "run-2" 1 (cardOf "Zhang 30") ∧
      ¬SameKeys candidate.candidate candidate'.candidate := by
  obtain ⟨candidate, hcandidate⟩ := exists_candidate_run1
  obtain ⟨candidate', hcandidate'⟩ := exists_candidate_run2
  refine ⟨candidate, candidate', hcandidate, hcandidate', rfl, noCollision_twoRuns, ?_⟩
  intro hsame
  obtain ⟨summary, hsummary, hkeys⟩ := hasKeys_of_candidate hcandidate
  obtain ⟨summary', hsummary', hkeys'⟩ := hasKeys_of_candidate hcandidate'
  have hfound : cardOf "Zhang 30" = summary := Option.some.inj hsummary
  have hfound' : cardOf "Zhang 30" = summary' := Option.some.inj hsummary'
  have hresume := hsame.resumeId
  rw [hkeys.resumeId, hkeys'.resumeId, ← hfound, ← hfound', segment_run1, segment_run2] at hresume
  have hne : fingerprint sampleExecutor "run-1" 1 (cardOf "Zhang 30") ≠
      fingerprint sampleExecutor "run-2" 1 (cardOf "Zhang 30") := by decide
  exact hne hresume

end PiAgent

end SeekTalent
