import SeekTalent.Base.Digest
import SeekTalent.Base.Run

/-!
# The artifacts of a card search

The browser helper writes what it has seen to files under one root, and answers with references to
them. The path of a file is made of the run id as far as a path may have it
(`safeArtifactSegment`), and a file that is there already is replaced. Two run ids may be one
segment, so a later search can put its own evidence in the place of an earlier one's:
`keepsEvidence_iff` says when it does not.
-/

namespace SeekTalent

namespace PiAgent

open Stateful (Run exec exec_bind exec_pure exec_throw exec_modify)

/-! ## 1. The data -/

structure SafeCardSummary where
  displayTitle : Option String := none
  currentOrRecentCompany : Option String := none
  currentOrRecentTitle : Option String := none
  workYears : Option Nat := none
  age : Option Nat := none
  city : Option String := none
  expectedCity : Option String := none
  educationLevel : Option String := none
  schoolNames : List String := []
  majorNames : List String := []
  skillTags : List String := []
  jobIntention : Option String := none
  recentExperienceText : Option String := none
  normalizedCardText : String

structure CardSummary extends SafeCardSummary where
  displayNameMasked : Bool

structure TraceEvent where
  actionKind : String
  routeKind : String := "search"
  chars : Option Nat := none
  ok : Option Bool := none

def jsonText (value : Option String) : Json := value.elim .null .string

def jsonNumber (value : Option Nat) : Json := value.elim .null fun n => .number n

def jsonTexts (values : List String) : Json := .array (values.map .string)

/-- The members are in the order of their keys, as `sort_keys` writes them. -/
def CardSummary.json (summary : CardSummary) : Json :=
  .object
    [("age", jsonNumber summary.age), ("city", jsonText summary.city),
      ("current_or_recent_company", jsonText summary.currentOrRecentCompany),
      ("current_or_recent_title", jsonText summary.currentOrRecentTitle),
      ("display_name_masked", .bool summary.displayNameMasked),
      ("display_title", jsonText summary.displayTitle),
      ("education_level", jsonText summary.educationLevel),
      ("expected_city", jsonText summary.expectedCity),
      ("job_intention", jsonText summary.jobIntention),
      ("major_names", jsonTexts summary.majorNames),
      ("normalized_card_text", .string summary.normalizedCardText),
      ("recent_experience_text", jsonText summary.recentExperienceText),
      ("school_names", jsonTexts summary.schoolNames), ("skill_tags", jsonTexts summary.skillTags),
      ("work_years", jsonNumber summary.workYears)]

def TraceEvent.json (event : TraceEvent) : Json :=
  .object
    ([("action_kind", .string event.actionKind)] ++
      (event.chars.map fun n => ("chars", .number n)).toList ++
      (event.ok.map fun ok => ("ok", .bool ok)).toList ++ [("route_kind", .string event.routeKind)])

/-- `json.dumps(payload, ensure_ascii=False, sort_keys=True)` -/
def dumped (payload : Json) : String := String.ofList (Json.write payload)

/-! ## 2. Files -/

/-- The files under the artifact root, by the parts of their paths. -/
abbrev Files := List (List Char) → Option String

def Files.write (files : Files) (path : List (List Char)) (text : String) : Files :=
  fun other => if other = path then some text else files other

/-- `Path(path).parts` of a relative path -/
def pathParts (path : List Char) : List (List Char) :=
  (path.splitOn '/').filter fun part => part ≠ [] ∧ part ≠ ['.']

/-- `_write_pi_artifact`, below a root that is configured -/
def writePiArtifact (scope relativePath text : String) : Run Files String String := do
  if scope ∉ ["protected", "public-summary"] then
    throw "liepin_opencli_malformed_state"
  let parts := pathParts relativePath.toList
  if Py.startsWith relativePath "/" || parts.contains ['.', '.'] || parts.isEmpty then
    throw "liepin_opencli_malformed_state"
  modify fun files => files.write (scope.toList :: parts) text
  return String.ofList ("artifact://".toList ++ ['/'].intercalate (scope.toList :: parts))

/-- `validate_public_artifact_ref`, where it does not raise -/
def validPublicArtifactRef (ref : String) : Bool :=
  let path := ref.toList.drop "artifact://".length
  (Py.startsWith ref "artifact://protected/" || Py.startsWith ref "artifact://public-summary/") &&
    !(ref.toList.splitOn '/').contains ['.', '.'] && !path.isEmpty &&
    path.all fun c => c.isAlphanum || c ∈ ['.', '_', '/', '-']

/-- `LocalPiArtifactRegistry.resolve_material`, with `none` for what it raises -/
def resolveMaterial (files : Files) (ref : String) : Option String :=
  if validPublicArtifactRef ref then files (pathParts (ref.toList.drop "artifact://".length)) else none

def isSegmentChar (c : Char) : Bool := c.isAlphanum || c ∈ ['.', '_', '-']

/-- `re.sub(r"[^A-Za-z0-9._-]+", "-", value)`, within a run of other characters or not -/
def dashRuns : Bool → List Char → List Char
  | _, [] => []
  | inRun, c :: cs =>
    if isSegmentChar c then c :: dashRuns false cs
    else if inRun then dashRuns true cs
    else '-' :: dashRuns true cs

def safeArtifactSegment (value : String) : String :=
  let segment := Py.trim (· ∈ ['-', '.', '_']) (dashRuns false value.toList)
  if (segment.take 80).isEmpty then "run" else String.ofList (segment.take 80)

/-! ## 3. The envelopes -/

structure CardsRequest where
  sourceRunId : String
  query : String

inductive PiLiepinResultStatus
  | succeeded
  | partially
  | blocked
  | failed
  deriving DecidableEq

inductive PiLiepinStopReason
  | completed
  | partialTimeout
  | blockedLoginRequired
  | blockedPermissionRequired
  | blockedBackendUnavailable
  | blockedBudgetExhausted
  | failedProviderError
  | failedMalformedOutput
  deriving DecidableEq

structure EnvelopeCard where
  providerRank : Nat
  providerCandidateKeyMaterialRef : String
  candidateResumeId : String
  displayNameMasked : Bool
  safeCardSummary : SafeCardSummary
  safeCardSummaryRef : String
  protectedSnapshotRef : String

/-- `seektalent.pi_liepin_cards.v1` -/
structure CardsEnvelope where
  status : PiLiepinResultStatus
  stopReason : Option PiLiepinStopReason
  safeReasonCode : Option String := none
  sourceRunId : String
  query : String
  cardsSeen : Nat
  cardsReturned : Nat
  pagesVisited : Nat
  actionTraceRef : String
  safeSummaryRefs : List String
  protectedSnapshotRefs : List String
  cards : List EnvelopeCard

/-- How a search has ended in the browser. -/
inductive CardsOutcome
  | blocked (safeReasonCode : String) (pagesVisited : Nat) (events : List TraceEvent)
  | cards (pagesVisited : Nat) (events : List TraceEvent) (stateText : String)
      (summaries : List CardSummary)

def blockedTrace (safeReasonCode : String) (events : List TraceEvent) : String :=
  dumped (.object
    [("events", .array (events.map TraceEvent.json)), ("mode", .string "card"),
      ("safe_reason_code", .string safeReasonCode),
      ("schema_version", .string "seektalent.opencli_action_trace.v1"),
      ("source", .string "liepin")])

def cardsTrace (events : List TraceEvent) (cardsSeen : Nat) : String :=
  dumped (.object
    [("cards_seen", .number cardsSeen), ("events", .array (events.map TraceEvent.json)),
      ("mode", .string "card"), ("schema_version", .string "seektalent.opencli_action_trace.v1"),
      ("source", .string "liepin")])

def pageSnapshot (stateText : String) : String :=
  dumped (.object
    [("chars", .number stateText.length),
      ("schema_version", .string "seektalent.opencli_state_snapshot.v1")])

def cardSnapshot (rank : Nat) (summary : CardSummary) : String :=
  dumped (.object
    [("rank", .number rank), ("schema_version", .string "seektalent.opencli_card_snapshot.v1"),
      ("summary", summary.json)])

def blockedCardsEnvelope (request : CardsRequest) (safeReasonCode : String) (pagesVisited : Nat)
    (events : List TraceEvent) : Run Files String CardsEnvelope := do
  let safeRunId := safeArtifactSegment request.sourceRunId
  let actionTraceRef ← writePiArtifact "protected" ("pi-trace/" ++ safeRunId ++ "/action-trace.json")
    (blockedTrace safeReasonCode events)
  return {
    status := .blocked
    stopReason := some .blockedBackendUnavailable
    safeReasonCode := some safeReasonCode
    sourceRunId := request.sourceRunId
    query := request.query
    cardsSeen := 0
    cardsReturned := 0
    pagesVisited
    actionTraceRef
    safeSummaryRefs := []
    protectedSnapshotRefs := []
    cards := [] }

section Cards

variable (sha256 : HashFunction)

def summaryDigest (summary : CardSummary) : String :=
  String.ofList ((sha256.hexdigest (dumped summary.json)).toList.take 12)

def keyMaterial (safeRunId : String) (rank : Nat) (summary : CardSummary) : String :=
  "liepin-opencli:" ++ safeRunId ++ ":" ++ toString rank ++ ":" ++ summaryDigest sha256 summary

def envelopeCard (safeRunId : String) (rank : Nat) (summary : CardSummary) :
    Run Files String EnvelopeCard := do
  let providerMaterialRef ← writePiArtifact "protected"
    ("pi-provider-key/" ++ safeRunId ++ "/" ++ (toString rank ++ ".txt"))
    (keyMaterial sha256 safeRunId rank summary)
  let safeSummaryRef ← writePiArtifact "public-summary"
    ("pi-card/" ++ safeRunId ++ "/" ++ (toString rank ++ ".json")) (dumped summary.json)
  let protectedSnapshotRef ← writePiArtifact "protected"
    ("pi-card/" ++ safeRunId ++ "/" ++ (toString rank ++ ".json")) (cardSnapshot rank summary)
  return {
    providerRank := rank
    providerCandidateKeyMaterialRef := providerMaterialRef
    candidateResumeId := "liepin-opencli-" ++ safeRunId ++ "-" ++ toString rank ++ "-" ++
      summaryDigest sha256 summary
    displayNameMasked := summary.displayNameMasked
    safeCardSummary := summary.toSafeCardSummary
    safeCardSummaryRef := safeSummaryRef
    protectedSnapshotRef }

/-- The cards, with their ranks from `rank` on. -/
def envelopeCards (safeRunId : String) : Nat → List CardSummary → Run Files String (List EnvelopeCard)
  | _, [] => return []
  | rank, summary :: summaries => do
    let card ← envelopeCard sha256 safeRunId rank summary
    let cards ← envelopeCards safeRunId (rank + 1) summaries
    return card :: cards

def cardsEnvelope (request : CardsRequest) (pagesVisited : Nat) (events : List TraceEvent)
    (stateText : String) (summaries : List CardSummary) : Run Files String CardsEnvelope := do
  let safeRunId := safeArtifactSegment request.sourceRunId
  let actionTraceRef ← writePiArtifact "protected" ("pi-trace/" ++ safeRunId ++ "/action-trace.json")
    (cardsTrace events summaries.length)
  let pageSnapshotRef ← writePiArtifact "protected" ("pi-page/" ++ safeRunId ++ "/search-state.json")
    (pageSnapshot stateText)
  let cards ← envelopeCards sha256 safeRunId 1 summaries
  return {
    status := .succeeded
    stopReason := some .completed
    sourceRunId := request.sourceRunId
    query := request.query
    cardsSeen := cards.length
    cardsReturned := cards.length
    pagesVisited
    actionTraceRef
    safeSummaryRefs := cards.map EnvelopeCard.safeCardSummaryRef
    protectedSnapshotRefs := pageSnapshotRef :: cards.map EnvelopeCard.protectedSnapshotRef
    cards }

/-- The end of `search_liepin_cards`: the envelope of what has happened. -/
def searchEnvelope (request : CardsRequest) : CardsOutcome → Run Files String CardsEnvelope
  | .blocked safeReasonCode pagesVisited events =>
    blockedCardsEnvelope request safeReasonCode pagesVisited events
  | .cards pagesVisited events stateText summaries =>
    cardsEnvelope sha256 request pagesVisited events stateText summaries

end Cards

/-! ## 4. Paths -/

section Paths

variable {cs part : List Char} {parts : List (List Char)} {scope text : String} {files : Files}

structure PathPart (part : List Char) : Prop where
  nonempty : part ≠ []
  chars : ∀ c ∈ part, isSegmentChar c = true
  notHere : part ≠ ['.']
  notParent : part ≠ ['.', '.']

theorem slash_not_mem (h : PathPart part) : '/' ∉ part := by
  intro hmem
  cases h.chars '/' hmem

theorem pathParts_intercalate (h : ∀ part ∈ parts, PathPart part) (hne : parts ≠ []) :
    pathParts (['/'].intercalate parts) = parts := by
  have hslash : ∀ part ∈ parts, '/' ∉ part := fun part hpart => slash_not_mem (h part hpart)
  rw [pathParts, List.splitOn_intercalate '/' hslash hne, List.filter_eq_self]
  intro part hpart
  simp [(h part hpart).nonempty, (h part hpart).notHere]

theorem mem_intercalate_slash {c : Char} (h : c ∈ ['/'].intercalate parts) :
    c = '/' ∨ ∃ part ∈ parts, c ∈ part := by
  induction parts with
  | nil => cases h
  | cons part parts ih =>
    cases parts with
    | nil =>
      rw [List.intercalate_singleton] at h
      exact .inr ⟨part, List.mem_cons_self, h⟩
    | cons next parts =>
      rw [List.intercalate_cons_cons, List.mem_append, List.mem_append, List.mem_singleton] at h
      rcases h with (h | h) | h
      · exact .inr ⟨part, List.mem_cons_self, h⟩
      · exact .inl h
      · rcases ih h with h | ⟨other, hother, hc⟩
        · exact .inl h
        · exact .inr ⟨other, List.mem_cons_of_mem part hother, hc⟩

def artifactRef (path : List (List Char)) : String :=
  String.ofList ("artifact://".toList ++ ['/'].intercalate path)

theorem not_startsWith_slash (h : ∀ part ∈ parts, PathPart part) (hne : parts ≠ []) :
    ¬['/'] <+: ['/'].intercalate parts := by
  cases parts with
  | nil => exact absurd rfl hne
  | cons part parts =>
    have hpart := h part List.mem_cons_self
    cases part with
    | nil => exact absurd rfl hpart.nonempty
    | cons c cs =>
      rw [List.intercalate_cons_cons_left, List.cons_prefix_cons]
      intro hpre
      have hslash := slash_not_mem hpart
      rw [hpre.1] at hslash
      exact hslash List.mem_cons_self

/-- **Writing an artifact** whose path is in order. -/
theorem exec_writePiArtifact (hscope : scope ∈ ["protected", "public-summary"])
    (h : ∀ part ∈ parts, PathPart part) (hne : parts ≠ []) :
    exec (writePiArtifact scope (String.ofList (['/'].intercalate parts)) text) files =
      (.ok (artifactRef (scope.toList :: parts)), files.write (scope.toList :: parts) text) := by
  have hparent : parts.contains ['.', '.'] = false := by
    rw [List.contains_eq_mem, decide_eq_false_iff_not]
    intro hmem
    exact (h _ hmem).notParent rfl
  have habsolute : Py.startsWith (String.ofList (['/'].intercalate parts)) "/" = false := by
    rw [Py.startsWith, decide_eq_false_iff_not, String.toList_ofList, String.toList_ofList]
    exact not_startsWith_slash h hne
  have hempty : parts.isEmpty = false := by
    rw [List.isEmpty_eq_false_iff]
    exact hne
  unfold writePiArtifact
  simp only [hscope, not_true_eq_false, if_false, String.toList_ofList,
    pathParts_intercalate h hne, habsolute, hparent, hempty, Bool.or_self, Bool.false_eq_true,
    exec_bind, exec_pure, exec_modify]
  rfl

theorem isSegmentChar_scope (hscope : scope ∈ ["protected", "public-summary"]) :
    ∀ c ∈ scope.toList, isSegmentChar c = true := by
  have hall : ∀ scope ∈ ["protected", "public-summary"],
      scope.toList.all isSegmentChar = true := by decide
  exact List.all_eq_true.mp (hall scope hscope)

theorem pathPart_scope (hscope : scope ∈ ["protected", "public-summary"]) : PathPart scope.toList where
  nonempty := by
    have hall : ∀ scope ∈ ["protected", "public-summary"], scope.toList ≠ [] := by decide
    exact hall scope hscope
  chars := isSegmentChar_scope hscope
  notHere := by
    have hall : ∀ scope ∈ ["protected", "public-summary"], scope.toList ≠ ['.'] := by decide
    exact hall scope hscope
  notParent := by
    have hall : ∀ scope ∈ ["protected", "public-summary"], scope.toList ≠ ['.', '.'] := by decide
    exact hall scope hscope

theorem toList_artifactRef (path : List (List Char)) :
    (artifactRef path).toList = "artifact://".toList ++ ['/'].intercalate path :=
  String.toList_ofList

theorem pathPart_path (hscope : scope ∈ ["protected", "public-summary"])
    (h : ∀ part ∈ parts, PathPart part) : ∀ part ∈ scope.toList :: parts, PathPart part := by
  intro part hpart
  rcases List.mem_cons.mp hpart with rfl | hpart
  · exact pathPart_scope hscope
  · exact h part hpart

theorem drop_artifactRef (path : List (List Char)) :
    (artifactRef path).toList.drop "artifact://".length = ['/'].intercalate path := by
  rw [toList_artifactRef]
  rfl

theorem validPublicArtifactRef_artifactRef (hscope : scope ∈ ["protected", "public-summary"])
    (h : ∀ part ∈ parts, PathPart part) (hne : parts ≠ []) :
    validPublicArtifactRef (artifactRef (scope.toList :: parts)) = true := by
  have hpath := pathPart_path hscope h
  have hstart : (Py.startsWith (artifactRef (scope.toList :: parts)) "artifact://protected/" ||
      Py.startsWith (artifactRef (scope.toList :: parts)) "artifact://public-summary/") = true := by
    rw [Py.startsWith, Py.startsWith, toList_artifactRef, List.intercalate_cons_of_ne_nil hne,
      Bool.or_eq_true, decide_eq_true_eq, decide_eq_true_eq]
    rcases List.mem_cons.mp hscope with rfl | hscope
    · exact .inl ⟨['/'].intercalate parts, rfl⟩
    · rw [List.mem_singleton.mp hscope]
      exact .inr ⟨['/'].intercalate parts, rfl⟩
  have hparent : ((artifactRef (scope.toList :: parts)).toList.splitOn '/').contains ['.', '.'] =
      false := by
    have hlist : (artifactRef (scope.toList :: parts)).toList =
        ['/'].intercalate ("artifact:".toList :: [] :: scope.toList :: parts) := by
      rw [toList_artifactRef, List.intercalate_cons_cons, List.intercalate_cons_cons]
      rfl
    have hslash : ∀ part ∈ "artifact:".toList :: [] :: scope.toList :: parts, '/' ∉ part := by
      intro part hpart
      rcases List.mem_cons.mp hpart with rfl | hpart
      · decide
      rcases List.mem_cons.mp hpart with rfl | hpart
      · simp
      exact slash_not_mem (hpath part hpart)
    rw [hlist, List.splitOn_intercalate '/' hslash (List.cons_ne_nil _ _), List.contains_eq_mem,
      decide_eq_false_iff_not]
    intro hmem
    rcases List.mem_cons.mp hmem with hmem | hmem
    · revert hmem
      decide
    rcases List.mem_cons.mp hmem with hmem | hmem
    · cases hmem
    exact (hpath _ hmem).notParent rfl
  unfold validPublicArtifactRef
  simp only [drop_artifactRef, hstart, hparent, Bool.not_false, Bool.and_true, Bool.true_and, Bool.and_eq_true,
    Bool.not_eq_true', List.isEmpty_eq_false_iff, List.all_eq_true]
  constructor
  · intro hnil
    have hparts := pathParts_intercalate hpath (List.cons_ne_nil _ _)
    rw [hnil] at hparts
    cases hparts
  · intro c hc
    rcases mem_intercalate_slash hc with rfl | ⟨part, hpart, hc⟩
    · rfl
    · have hchar := (hpath part hpart).chars c hc
      simp only [isSegmentChar, List.mem_cons, List.not_mem_nil, or_false, Bool.or_eq_true,
        decide_eq_true_eq] at hchar ⊢
      grind

/-- **Resolving an artifact** reads its file. -/
theorem resolveMaterial_artifactRef (hscope : scope ∈ ["protected", "public-summary"])
    (h : ∀ part ∈ parts, PathPart part) (hne : parts ≠ []) :
    resolveMaterial files (artifactRef (scope.toList :: parts)) = files (scope.toList :: parts) := by
  rw [resolveMaterial, if_pos (validPublicArtifactRef_artifactRef hscope h hne), drop_artifactRef,
    pathParts_intercalate (pathPart_path hscope h) (List.cons_ne_nil _ _)]

/-! ### The segment of a run id -/

theorem isSegmentChar_of_mem_dashRuns {inRun : Bool} {c : Char} (h : c ∈ dashRuns inRun cs) :
    isSegmentChar c = true := by
  induction cs generalizing inRun with
  | nil => cases h
  | cons d cs ih =>
    unfold dashRuns at h
    split at h
    · rename_i hd
      rcases List.mem_cons.mp h with rfl | h
      · exact hd
      · exact ih h
    · split at h
      · exact ih h
      · rcases List.mem_cons.mp h with rfl | h
        · rfl
        · exact ih h

theorem pathPart_segment (value : String) : PathPart (safeArtifactSegment value).toList := by
  obtain ⟨pre, post, hsplit, hhead, -⟩ :=
    Py.trim_spec (· ∈ ['-', '.', '_']) (dashRuns false value.toList)
  have hchars : ∀ c ∈ Py.trim (· ∈ ['-', '.', '_']) (dashRuns false value.toList),
      isSegmentChar c = true := by
    intro c hc
    have hmem : c ∈ dashRuns false value.toList := by
      rw [hsplit]
      exact List.mem_append_right _ (List.mem_append_left _ hc)
    exact isSegmentChar_of_mem_dashRuns hmem
  unfold safeArtifactSegment
  dsimp only
  split
  · exact ⟨by decide, List.all_eq_true.mp (by decide), by decide, by decide⟩
  · rename_i hne
    rw [String.toList_ofList]
    generalize Py.trim (· ∈ ['-', '.', '_']) (dashRuns false value.toList) = segment at *
    cases segment with
    | nil => simp at hne
    | cons c cs =>
      -- it does not begin with a point
      have hpoint : c ≠ '.' := by
        rintro rfl
        have hdropped := hhead '.' rfl
        simp at hdropped
      refine ⟨by simp, fun d hd => hchars d (List.mem_of_mem_take hd), ?_, ?_⟩
      · intro h
        exact hpoint (List.cons.inj h).1
      · intro h
        exact hpoint (List.cons.inj h).1

theorem pathPart_numbered (rank : Nat) {suffix : String} (hlength : 2 < suffix.toList.length)
    (hchars : suffix.toList.all isSegmentChar = true) :
    PathPart (toString rank ++ suffix).toList := by
  rw [String.toList_append]
  refine ⟨?_, ?_, ?_, ?_⟩
  · intro h
    have hcount := congrArg List.length h
    rw [List.length_append, List.length_nil] at hcount
    omega
  · intro c hc
    rcases List.mem_append.mp hc with hc | hc
    · have hdigit := Py.isDigit_of_mem_repr hc
      simp [isSegmentChar, Char.isAlphanum, hdigit]
    · exact List.all_eq_true.mp hchars c hc
  · intro h
    have hcount := congrArg List.length h
    rw [List.length_append, List.length_singleton] at hcount
    omega
  · intro h
    have hcount := congrArg List.length h
    rw [List.length_append, List.length_cons, List.length_singleton] at hcount
    omega

end Paths

/-! ## 5. The artifacts of one search -/

/-- The files of a search. -/
inductive PiArtifact
  | actionTrace
  | searchState
  | providerKey (rank : Nat)
  | cardSummary (rank : Nat)
  | cardSnapshot (rank : Nat)
  deriving DecidableEq

namespace PiArtifact

def scope : PiArtifact → String
  | cardSummary _ => "public-summary"
  | _ => "protected"

def parts (safeRunId : String) : PiArtifact → List (List Char)
  | actionTrace => ["pi-trace".toList, safeRunId.toList, "action-trace.json".toList]
  | searchState => ["pi-page".toList, safeRunId.toList, "search-state.json".toList]
  | providerKey rank => ["pi-provider-key".toList, safeRunId.toList, (toString rank ++ ".txt").toList]
  | cardSummary rank => ["pi-card".toList, safeRunId.toList, (toString rank ++ ".json").toList]
  | cardSnapshot rank => ["pi-card".toList, safeRunId.toList, (toString rank ++ ".json").toList]

def path (safeRunId : String) (artifact : PiArtifact) : List (List Char) :=
  artifact.scope.toList :: artifact.parts safeRunId

def ref (safeRunId : String) (artifact : PiArtifact) : String :=
  artifactRef (artifact.path safeRunId)

variable {artifact artifact' : PiArtifact} {value value' safeRunId safeRunId' : String}

theorem scope_mem (artifact : PiArtifact) : artifact.scope ∈ ["protected", "public-summary"] := by
  cases artifact <;> simp [scope]

theorem parts_ne_nil : artifact.parts safeRunId ≠ [] := by
  cases artifact <;> simp [parts]

theorem pathPart_parts (artifact : PiArtifact) (value : String) :
    ∀ part ∈ artifact.parts (safeArtifactSegment value), PathPart part := by
  have hliteral : ∀ name ∈ ["pi-trace", "pi-page", "pi-provider-key", "pi-card",
      "action-trace.json", "search-state.json"], PathPart name.toList := by
    intro name hname
    have hall : ∀ name ∈ ["pi-trace", "pi-page", "pi-provider-key", "pi-card",
        "action-trace.json", "search-state.json"], name.toList ≠ [] ∧
          name.toList.all isSegmentChar = true ∧ name.toList ≠ ['.'] ∧ name.toList ≠ ['.', '.'] := by
      decide
    obtain ⟨hnonempty, hchars, hhere, hparent⟩ := hall name hname
    exact ⟨hnonempty, List.all_eq_true.mp hchars, hhere, hparent⟩
  have hsegment := pathPart_segment value
  have htext (rank : Nat) : PathPart (toString rank ++ ".txt").toList :=
    pathPart_numbered rank (by decide) (by decide)
  have hjson (rank : Nat) : PathPart (toString rank ++ ".json").toList :=
    pathPart_numbered rank (by decide) (by decide)
  cases artifact <;>
    simp only [parts, List.mem_cons, List.not_mem_nil, or_false, forall_eq_or_imp, forall_eq]
  · exact ⟨hliteral _ (by simp), hsegment, hliteral _ (by simp)⟩
  · exact ⟨hliteral _ (by simp), hsegment, hliteral _ (by simp)⟩
  · exact ⟨hliteral _ (by simp), hsegment, htext _⟩
  · exact ⟨hliteral _ (by simp), hsegment, hjson _⟩
  · exact ⟨hliteral _ (by simp), hsegment, hjson _⟩

theorem path_inj (h : artifact.path safeRunId = artifact'.path safeRunId') :
    safeRunId = safeRunId' ∧ artifact = artifact' := by
  simp only [path, List.cons.injEq, String.toList_inj] at h
  obtain ⟨hscope, hparts⟩ := h
  cases artifact <;> cases artifact' <;>
    simp [scope, parts, String.toList_inj] at hscope hparts
  · exact ⟨hparts, rfl⟩
  · exact ⟨hparts, rfl⟩
  · exact ⟨hparts.1, congrArg providerKey (Py.toDigits_inj hparts.2)⟩
  · exact ⟨hparts.1, congrArg cardSummary (Py.toDigits_inj hparts.2)⟩
  · exact ⟨hparts.1, congrArg cardSnapshot (Py.toDigits_inj hparts.2)⟩

theorem resolveMaterial_ref {files : Files} :
    resolveMaterial files (artifact.ref (safeArtifactSegment value)) =
      files (artifact.path (safeArtifactSegment value)) :=
  resolveMaterial_artifactRef (scope_mem artifact) (pathPart_parts artifact value) parts_ne_nil

def relativePath (safeRunId : String) (artifact : PiArtifact) : String :=
  String.ofList (['/'].intercalate (artifact.parts safeRunId))

theorem relativePath_trace :
    "pi-trace/" ++ safeRunId ++ "/action-trace.json" = actionTrace.relativePath safeRunId := by
  rw [relativePath, ← String.toList_inj]
  simp [parts]

theorem relativePath_state :
    "pi-page/" ++ safeRunId ++ "/search-state.json" = searchState.relativePath safeRunId := by
  rw [relativePath, ← String.toList_inj]
  simp [parts]

theorem relativePath_key (rank : Nat) :
    "pi-provider-key/" ++ safeRunId ++ "/" ++ (toString rank ++ ".txt") =
      (providerKey rank).relativePath safeRunId := by
  rw [relativePath, ← String.toList_inj]
  simp [parts]

theorem relativePath_summary (rank : Nat) :
    "pi-card/" ++ safeRunId ++ "/" ++ (toString rank ++ ".json") =
      (cardSummary rank).relativePath safeRunId := by
  rw [relativePath, ← String.toList_inj]
  simp [parts]

theorem relativePath_snapshot (rank : Nat) :
    "pi-card/" ++ safeRunId ++ "/" ++ (toString rank ++ ".json") =
      (cardSnapshot rank).relativePath safeRunId :=
  relativePath_summary rank

/-- **Writing an artifact.** -/
theorem exec_write (artifact : PiArtifact) (value : String) {files : Files} {text relative : String}
    (h : relative = artifact.relativePath (safeArtifactSegment value)) :
    exec (writePiArtifact artifact.scope relative text) files =
      (.ok (artifact.ref (safeArtifactSegment value)),
        files.write (artifact.path (safeArtifactSegment value)) text) := by
  rw [h]
  exact exec_writePiArtifact (scope_mem artifact) (pathPart_parts artifact value) parts_ne_nil

section Writes

variable {rank : Nat} {text : String} {files : Files}

theorem exec_write_trace :
    exec (writePiArtifact "protected"
      ("pi-trace/" ++ safeArtifactSegment value ++ "/action-trace.json") text) files =
      (.ok (ref (safeArtifactSegment value) actionTrace),
        files.write (path (safeArtifactSegment value) actionTrace) text) :=
  exec_write actionTrace value relativePath_trace

theorem exec_write_state :
    exec (writePiArtifact "protected"
      ("pi-page/" ++ safeArtifactSegment value ++ "/search-state.json") text) files =
      (.ok (ref (safeArtifactSegment value) searchState),
        files.write (path (safeArtifactSegment value) searchState) text) :=
  exec_write searchState value relativePath_state

theorem exec_write_key :
    exec (writePiArtifact "protected"
      ("pi-provider-key/" ++ safeArtifactSegment value ++ "/" ++ (toString rank ++ ".txt")) text)
        files =
      (.ok (ref (safeArtifactSegment value) (providerKey rank)),
        files.write (path (safeArtifactSegment value) (providerKey rank)) text) :=
  exec_write (providerKey rank) value (relativePath_key rank)

theorem exec_write_summary :
    exec (writePiArtifact "public-summary"
      ("pi-card/" ++ safeArtifactSegment value ++ "/" ++ (toString rank ++ ".json")) text) files =
      (.ok (ref (safeArtifactSegment value) (cardSummary rank)),
        files.write (path (safeArtifactSegment value) (cardSummary rank)) text) :=
  exec_write (cardSummary rank) value (relativePath_summary rank)

theorem exec_write_snapshot :
    exec (writePiArtifact "protected"
      ("pi-card/" ++ safeArtifactSegment value ++ "/" ++ (toString rank ++ ".json")) text) files =
      (.ok (ref (safeArtifactSegment value) (cardSnapshot rank)),
        files.write (path (safeArtifactSegment value) (cardSnapshot rank)) text) :=
  exec_write (cardSnapshot rank) value (relativePath_snapshot rank)

end Writes

end PiArtifact

/-! ### What a search writes -/

section Texts

variable (sha256 : HashFunction) (safeRunId : String)

def cardText (rank : Nat) (summary : CardSummary) : PiArtifact → Option String
  | .providerKey r => if r = rank then some (keyMaterial sha256 safeRunId rank summary) else none
  | .cardSummary r => if r = rank then some (dumped summary.json) else none
  | .cardSnapshot r => if r = rank then some (cardSnapshot rank summary) else none
  | _ => none

/-- The texts of the files of the cards, with their ranks from `rank` on. -/
def cardTexts : Nat → List CardSummary → PiArtifact → Option String
  | _, [], _ => none
  | rank, summary :: summaries, artifact =>
    (cardTexts (rank + 1) summaries artifact).or (cardText sha256 safeRunId rank summary artifact)

def CardsOutcome.text? : CardsOutcome → PiArtifact → Option String
  | .blocked safeReasonCode _ events, .actionTrace => some (blockedTrace safeReasonCode events)
  | .blocked _ _ _, _ => none
  | .cards _ events _ summaries, .actionTrace => some (cardsTrace events summaries.length)
  | .cards _ _ stateText _, .searchState => some (pageSnapshot stateText)
  | .cards _ _ _ summaries, artifact => cardTexts sha256 safeRunId 1 summaries artifact

end Texts

/-- The texts are in the files of a run, and all else is as before. -/
structure Wrote (safeRunId : String) (texts : PiArtifact → Option String) (files files' : Files) :
    Prop where
  written : ∀ artifact text, texts artifact = some text →
    files' (artifact.path safeRunId) = some text
  others : ∀ path, (∀ artifact, texts artifact ≠ none → path ≠ artifact.path safeRunId) →
    files' path = files path

section Wrote

variable {safeRunId text : String} {texts texts' : PiArtifact → Option String}
variable {files files' files'' : Files} {artifact : PiArtifact}

theorem wrote_nothing : Wrote safeRunId (fun _ => none) files files where
  written := by
    intro artifact text htext
    cases htext
  others := fun path _ => rfl

theorem wrote_write (artifact : PiArtifact) (text : String) : Wrote safeRunId (fun other => if other = artifact then some text else none) files
    (files.write (artifact.path safeRunId) text) where
  written := by
    intro other written hwritten
    split at hwritten
    · rename_i hother
      subst hother
      rw [← hwritten]
      exact if_pos rfl
    · cases hwritten
  others := by
    intro path hpath
    exact if_neg (hpath artifact (by simp))

theorem Wrote.trans (h : Wrote safeRunId texts files files')
    (h' : Wrote safeRunId texts' files' files'') :
    Wrote safeRunId (fun artifact => (texts' artifact).or (texts artifact)) files files'' where
  written := by
    intro artifact text htext
    cases hlater : texts' artifact with
    | some later =>
      rw [hlater, Option.some_or] at htext
      rw [← htext]
      exact h'.written artifact later hlater
    | none =>
      rw [hlater, Option.none_or] at htext
      rw [h'.others, h.written artifact text htext]
      intro other hother hpath
      obtain ⟨-, rfl⟩ := PiArtifact.path_inj hpath
      exact hother hlater
  others := by
    intro path hpath
    rw [h'.others, h.others]
    · intro artifact hartifact
      apply hpath artifact
      simp [Option.or_eq_none_iff, hartifact]
    · intro artifact hartifact
      apply hpath artifact
      simp [Option.or_eq_none_iff, hartifact]

theorem Wrote.congr (h : Wrote safeRunId texts files files')
    (htexts : ∀ artifact, texts' artifact = texts artifact) : Wrote safeRunId texts' files files' := by
  have heq : texts' = texts := funext htexts
  rw [heq]
  exact h

end Wrote

section Envelope

variable (sha256 : HashFunction)

def writtenCard (safeRunId : String) (rank : Nat) (summary : CardSummary) : EnvelopeCard where
  providerRank := rank
  providerCandidateKeyMaterialRef := PiArtifact.ref safeRunId (.providerKey rank)
  candidateResumeId := "liepin-opencli-" ++ safeRunId ++ "-" ++ toString rank ++ "-" ++
    summaryDigest sha256 summary
  displayNameMasked := summary.displayNameMasked
  safeCardSummary := summary.toSafeCardSummary
  safeCardSummaryRef := PiArtifact.ref safeRunId (.cardSummary rank)
  protectedSnapshotRef := PiArtifact.ref safeRunId (.cardSnapshot rank)

def writtenCards (safeRunId : String) : Nat → List CardSummary → List EnvelopeCard
  | _, [] => []
  | rank, summary :: summaries =>
    writtenCard sha256 safeRunId rank summary :: writtenCards safeRunId (rank + 1) summaries

def writtenEnvelope (request : CardsRequest) (outcome : CardsOutcome) : CardsEnvelope :=
  let safeRunId := safeArtifactSegment request.sourceRunId
  match outcome with
  | .blocked safeReasonCode pagesVisited _ =>
    { status := .blocked
      stopReason := some .blockedBackendUnavailable
      safeReasonCode := some safeReasonCode
      sourceRunId := request.sourceRunId
      query := request.query
      cardsSeen := 0
      cardsReturned := 0
      pagesVisited
      actionTraceRef := PiArtifact.ref safeRunId .actionTrace
      safeSummaryRefs := []
      protectedSnapshotRefs := []
      cards := [] }
  | .cards pagesVisited _ _ summaries =>
    let cards := writtenCards sha256 safeRunId 1 summaries
    { status := .succeeded
      stopReason := some .completed
      sourceRunId := request.sourceRunId
      query := request.query
      cardsSeen := cards.length
      cardsReturned := cards.length
      pagesVisited
      actionTraceRef := PiArtifact.ref safeRunId .actionTrace
      safeSummaryRefs := cards.map EnvelopeCard.safeCardSummaryRef
      protectedSnapshotRefs :=
        PiArtifact.ref safeRunId .searchState :: cards.map EnvelopeCard.protectedSnapshotRef
      cards }

variable {sha256} {value : String} {rank : Nat} {summary : CardSummary}
variable {summaries : List CardSummary} {files : Files} {request : CardsRequest}
variable {outcome : CardsOutcome}

theorem exec_envelopeCard (sha256 : HashFunction) (value : String) (rank : Nat)
    (summary : CardSummary) (files : Files) :
    ∃ files', exec (envelopeCard sha256 (safeArtifactSegment value) rank summary) files =
        (.ok (writtenCard sha256 (safeArtifactSegment value) rank summary), files') ∧
      Wrote (safeArtifactSegment value) (cardText sha256 (safeArtifactSegment value) rank summary)
        files files' := by
  refine ⟨_, ?_, (((wrote_write (.providerKey rank)
    (keyMaterial sha256 (safeArtifactSegment value) rank summary)).trans
      (wrote_write (.cardSummary rank) (dumped summary.json))).trans
        (wrote_write (.cardSnapshot rank) (cardSnapshot rank summary))).congr ?_⟩
  · unfold envelopeCard
    simp only [exec_bind, exec_pure, PiArtifact.exec_write_key, PiArtifact.exec_write_summary,
      PiArtifact.exec_write_snapshot]
    rfl
  · intro artifact
    cases artifact with
    | actionTrace => rfl
    | searchState => rfl
    | providerKey r =>
      simp only [cardText, PiArtifact.providerKey.injEq, reduceCtorEq, if_false, Option.none_or]
    | cardSummary r =>
      simp only [cardText, PiArtifact.cardSummary.injEq, reduceCtorEq, if_false, Option.none_or,
        Option.or_none]
    | cardSnapshot r =>
      simp only [cardText, PiArtifact.cardSnapshot.injEq, reduceCtorEq, if_false, Option.or_none]

theorem exec_envelopeCards (sha256 : HashFunction) (value : String) (summaries : List CardSummary) :
    ∀ (rank : Nat) (files : Files),
      ∃ files', exec (envelopeCards sha256 (safeArtifactSegment value) rank summaries) files =
          (.ok (writtenCards sha256 (safeArtifactSegment value) rank summaries), files') ∧
        Wrote (safeArtifactSegment value)
          (cardTexts sha256 (safeArtifactSegment value) rank summaries) files files' := by
  induction summaries with
  | nil =>
    intro rank files
    exact ⟨files, rfl, wrote_nothing⟩
  | cons summary summaries ih =>
    intro rank files
    obtain ⟨files₁, hcard, hwrote⟩ := exec_envelopeCard sha256 value rank summary files
    obtain ⟨files₂, hcards, hwrote'⟩ := ih (rank + 1) files₁
    refine ⟨files₂, ?_, hwrote.trans hwrote'⟩
    unfold envelopeCards
    simp only [exec_bind, exec_pure, hcard, hcards]
    rfl

theorem cardTexts_eq_none (sha256 : HashFunction) (safeRunId : String) {artifact : PiArtifact}
    (h : artifact = .actionTrace ∨ artifact = .searchState) (rank : Nat)
    (summaries : List CardSummary) : cardTexts sha256 safeRunId rank summaries artifact = none := by
  induction summaries generalizing rank with
  | nil => rfl
  | cons summary summaries ih =>
    rw [cardTexts, ih (rank + 1)]
    rcases h with rfl | rfl
    · rfl
    · rfl

/-- **A search** answers its envelope, and its texts are in the files. -/
theorem exec_searchEnvelope (sha256 : HashFunction) (request : CardsRequest) (outcome : CardsOutcome)
    (files : Files) :
    ∃ files', exec (searchEnvelope sha256 request outcome) files =
        (.ok (writtenEnvelope sha256 request outcome), files') ∧
      Wrote (safeArtifactSegment request.sourceRunId)
        (outcome.text? sha256 (safeArtifactSegment request.sourceRunId)) files files' := by
  cases outcome with
  | blocked safeReasonCode pagesVisited events =>
    refine ⟨_, ?_, (wrote_write .actionTrace (blockedTrace safeReasonCode events)).congr ?_⟩
    · unfold searchEnvelope blockedCardsEnvelope
      simp only [exec_bind, exec_pure, PiArtifact.exec_write_trace]
      rfl
    · intro artifact
      cases artifact <;> rfl
  | cards pagesVisited events stateText summaries =>
    obtain ⟨files', hcards, hwrote⟩ := exec_envelopeCards sha256 request.sourceRunId summaries 1
      ((files.write (PiArtifact.path (safeArtifactSegment request.sourceRunId) .actionTrace)
        (cardsTrace events summaries.length)).write
          (PiArtifact.path (safeArtifactSegment request.sourceRunId) .searchState)
          (pageSnapshot stateText))
    refine ⟨files', ?_, (((wrote_write .actionTrace (cardsTrace events summaries.length)).trans
      (wrote_write .searchState (pageSnapshot stateText))).trans hwrote).congr ?_⟩
    · unfold searchEnvelope cardsEnvelope
      simp only [exec_bind, exec_pure, PiArtifact.exec_write_trace, PiArtifact.exec_write_state,
        hcards]
      rfl
    · intro artifact
      cases artifact with
      | actionTrace =>
        rw [cardTexts_eq_none sha256 _ (.inl rfl)]
        rfl
      | searchState =>
        rw [cardTexts_eq_none sha256 _ (.inr rfl)]
        rfl
      | providerKey rank => simp [CardsOutcome.text?]
      | cardSummary rank => simp [CardsOutcome.text?]
      | cardSnapshot rank => simp [CardsOutcome.text?]

/-! ### The references of an envelope -/

def CardsEnvelope.refs (envelope : CardsEnvelope) : List String :=
  envelope.actionTraceRef :: (envelope.safeSummaryRefs ++ envelope.protectedSnapshotRefs ++
    envelope.cards.flatMap fun card =>
      [card.providerCandidateKeyMaterialRef, card.safeCardSummaryRef, card.protectedSnapshotRef])

theorem mem_cardRefs_iff {safeRunId ref : String} : ∀ {rank : Nat} {summaries : List CardSummary},
    (∃ card ∈ writtenCards sha256 safeRunId rank summaries,
      ref ∈ [card.providerCandidateKeyMaterialRef, card.safeCardSummaryRef,
        card.protectedSnapshotRef]) ↔
      ∃ artifact, cardTexts sha256 safeRunId rank summaries artifact ≠ none ∧
        ref = artifact.ref safeRunId
  | rank, [] => by simp [writtenCards, cardTexts]
  | rank, summary :: summaries => by
    have hcard : (∃ artifact, cardText sha256 safeRunId rank summary artifact ≠ none ∧
        ref = artifact.ref safeRunId) ↔ ref ∈ [PiArtifact.ref safeRunId (.providerKey rank),
          PiArtifact.ref safeRunId (.cardSummary rank),
          PiArtifact.ref safeRunId (.cardSnapshot rank)] := by
      simp only [List.mem_cons, List.not_mem_nil, or_false]
      constructor
      · intro h
        obtain ⟨artifact, htext, hartifact⟩ := h
        cases artifact with
        | actionTrace => exact absurd rfl htext
        | searchState => exact absurd rfl htext
        | providerKey r =>
          obtain rfl : r = rank := by simpa [cardText] using htext
          exact .inl hartifact
        | cardSummary r =>
          obtain rfl : r = rank := by simpa [cardText] using htext
          exact .inr (.inl hartifact)
        | cardSnapshot r =>
          obtain rfl : r = rank := by simpa [cardText] using htext
          exact .inr (.inr hartifact)
      · intro h
        rcases h with h | h | h
        · exact ⟨.providerKey rank, by simp [cardText], h⟩
        · exact ⟨.cardSummary rank, by simp [cardText], h⟩
        · exact ⟨.cardSnapshot rank, by simp [cardText], h⟩
    have hcards := @mem_cardRefs_iff safeRunId ref (rank + 1) summaries
    simp only [writtenCards, List.exists_mem_cons_iff, hcards]
    show ref ∈ [PiArtifact.ref safeRunId (.providerKey rank),
      PiArtifact.ref safeRunId (.cardSummary rank), PiArtifact.ref safeRunId (.cardSnapshot rank)] ∨
      _ ↔ _
    rw [← hcard]
    simp only [cardTexts, ne_eq, Option.or_eq_none_iff, not_and_or, or_and_right, exists_or]
    exact or_comm

theorem mem_refs_iff {ref : String} : ref ∈ (writtenEnvelope sha256 request outcome).refs ↔
    ∃ artifact, outcome.text? sha256 (safeArtifactSegment request.sourceRunId) artifact ≠ none ∧
      ref = artifact.ref (safeArtifactSegment request.sourceRunId) := by
  cases outcome with
  | blocked safeReasonCode pagesVisited events =>
    simp only [writtenEnvelope, CardsEnvelope.refs, List.append_nil, List.flatMap_nil,
      List.mem_singleton]
    constructor
    · intro h
      exact ⟨.actionTrace, by simp [CardsOutcome.text?], h⟩
    · intro h
      obtain ⟨artifact, htext, hartifact⟩ := h
      cases artifact with
      | actionTrace => exact hartifact
      | _ => exact absurd rfl htext
  | cards pagesVisited events stateText summaries =>
    have hrefs : ref ∈ (writtenEnvelope sha256 request
          (.cards pagesVisited events stateText summaries)).refs ↔
        ref = PiArtifact.ref (safeArtifactSegment request.sourceRunId) .actionTrace ∨
        ref = PiArtifact.ref (safeArtifactSegment request.sourceRunId) .searchState ∨
        ∃ card ∈ writtenCards sha256 (safeArtifactSegment request.sourceRunId) 1 summaries,
          ref ∈ [card.providerCandidateKeyMaterialRef, card.safeCardSummaryRef,
            card.protectedSnapshotRef] := by
      simp only [writtenEnvelope, CardsEnvelope.refs, List.mem_cons, List.mem_append, List.mem_map,
        List.mem_flatMap, List.not_mem_nil, or_false]
      grind
    rw [hrefs, mem_cardRefs_iff]
    constructor
    · intro h
      rcases h with h | h | h
      · exact ⟨.actionTrace, by simp [CardsOutcome.text?], h⟩
      · exact ⟨.searchState, by simp [CardsOutcome.text?], h⟩
      · obtain ⟨artifact, htext, hartifact⟩ := h
        refine ⟨artifact, ?_, hartifact⟩
        cases artifact with
        | actionTrace => simp [CardsOutcome.text?]
        | searchState => simp [CardsOutcome.text?]
        | _ => exact htext
    · intro h
      obtain ⟨artifact, htext, hartifact⟩ := h
      cases artifact with
      | actionTrace => exact .inl hartifact
      | searchState => exact .inr (.inl hartifact)
      | _ => exact .inr (.inr ⟨_, htext, hartifact⟩)

end Envelope

/-! ## 6. Searches under one root -/

structure CardsCall where
  request : CardsRequest
  outcome : CardsOutcome

section Calls

variable (sha256 : HashFunction)

def CardsCall.segment (call : CardsCall) : String := safeArtifactSegment call.request.sourceRunId

/-- What a call answers, and the files after it. -/
def CardsCall.run (call : CardsCall) (files : Files) : Except String CardsEnvelope × Files :=
  exec (searchEnvelope sha256 call.request call.outcome) files

def CardsCall.text? (call : CardsCall) (artifact : PiArtifact) : Option String :=
  call.outcome.text? sha256 call.segment artifact

def filesAfter (files : Files) (calls : List CardsCall) : Files :=
  calls.foldl (fun files call => (call.run sha256 files).2) files

/-- Every reference that a call has answered leads at the end to what it led to after the call. -/
def KeepsEvidence (files : Files) (calls : List CardsCall) : Prop :=
  ∀ before call after, calls = before ++ call :: after →
    ∀ envelope, (call.run sha256 (filesAfter sha256 files before)).1 = .ok envelope →
      ∀ ref ∈ envelope.refs, ∃ text,
        resolveMaterial (call.run sha256 (filesAfter sha256 files before)).2 ref = some text ∧
        resolveMaterial (filesAfter sha256 files calls) ref = some text

/-- Where a later call writes last to an artifact of the same segment, it writes the same text. -/
def AgreesLater (calls : List CardsCall) : Prop :=
  ∀ before call after, calls = before ++ call :: after →
    ∀ artifact text, call.text? sha256 artifact = some text →
      ∀ between later rest text', after = between ++ later :: rest →
        later.segment = call.segment → later.text? sha256 artifact = some text' →
        (∀ other ∈ rest, other.segment = call.segment → other.text? sha256 artifact = none) →
        text' = text

variable {sha256} {files : Files} {call : CardsCall} {calls : List CardsCall}
variable {segment text : String} {artifact : PiArtifact}

theorem run_spec (sha256 : HashFunction) (call : CardsCall) (files : Files) :
    (call.run sha256 files).1 = .ok (writtenEnvelope sha256 call.request call.outcome) ∧
      Wrote call.segment (call.text? sha256) files (call.run sha256 files).2 := by
  obtain ⟨files', hrun, hwrote⟩ := exec_searchEnvelope sha256 call.request call.outcome files
  unfold CardsCall.run
  rw [hrun]
  exact ⟨rfl, hwrote⟩

theorem run_path (call : CardsCall) (files : Files) (segment : String) (artifact : PiArtifact) :
    (call.run sha256 files).2 (artifact.path segment) =
      if call.segment = segment then (call.text? sha256 artifact).or (files (artifact.path segment))
      else files (artifact.path segment) := by
  obtain ⟨-, hwrote⟩ := run_spec sha256 call files
  split
  · rename_i hsegment
    subst hsegment
    cases htext : call.text? sha256 artifact with
    | some text => exact hwrote.written artifact text htext
    | none =>
      apply hwrote.others
      intro other hother hpath
      obtain ⟨-, rfl⟩ := PiArtifact.path_inj hpath
      exact hother htext
  · rename_i hsegment
    apply hwrote.others
    intro other hother hpath
    exact hsegment (PiArtifact.path_inj hpath).1.symm

def lastText (sha256 : HashFunction) (segment : String) (artifact : PiArtifact) :
    List CardsCall → Option String
  | [] => none
  | call :: calls => (lastText sha256 segment artifact calls).or
      (if call.segment = segment then call.text? sha256 artifact else none)

/-- **A run of calls** leaves the text of the last call that writes a file. -/
theorem filesAfter_path (calls : List CardsCall) (files : Files) :
    filesAfter sha256 files calls (artifact.path segment) =
      (lastText sha256 segment artifact calls).or (files (artifact.path segment)) := by
  induction calls generalizing files with
  | nil => rfl
  | cons call calls ih =>
    show filesAfter sha256 (call.run sha256 files).2 calls (artifact.path segment) = _
    rw [ih, run_path, lastText, Option.or_assoc]
    split
    · rfl
    · rfl

theorem lastText_eq_none_iff : lastText sha256 segment artifact calls = none ↔
    ∀ call ∈ calls, call.segment = segment → call.text? sha256 artifact = none := by
  induction calls with
  | nil => simp [lastText]
  | cons call calls ih => simp [lastText, Option.or_eq_none_iff, ih, and_comm]

theorem lastText_eq_some_iff : lastText sha256 segment artifact calls = some text ↔
    ∃ between later rest, calls = between ++ later :: rest ∧ later.segment = segment ∧
      later.text? sha256 artifact = some text ∧
      ∀ other ∈ rest, other.segment = segment → other.text? sha256 artifact = none := by
  induction calls with
  | nil => simp [lastText]
  | cons call calls ih =>
    rw [lastText]
    constructor
    · intro h
      cases hlast : lastText sha256 segment artifact calls with
      | some last =>
        rw [hlast, Option.some_or] at h
        obtain ⟨between, later, rest, rfl, hlater⟩ := ih.mp (hlast.trans h)
        exact ⟨call :: between, later, rest, rfl, hlater⟩
      | none =>
        rw [hlast, Option.none_or] at h
        split at h
        · rename_i hsegment
          exact ⟨[], call, calls, rfl, hsegment, h, lastText_eq_none_iff.mp hlast⟩
        · cases h
    · intro h
      obtain ⟨between, later, rest, hcalls, hlater, htext, hrest⟩ := h
      cases between with
      | nil =>
        obtain ⟨rfl, rfl⟩ := List.cons.inj hcalls
        rw [lastText_eq_none_iff.mpr hrest, Option.none_or, if_pos hlater, htext]
      | cons first between =>
        obtain ⟨rfl, htail⟩ := List.cons.inj hcalls
        rw [ih.mpr ⟨between, later, rest, htail, hlater, htext, hrest⟩, Option.some_or]

theorem filesAfter_of_call (files : Files) {before after : List CardsCall} (hcalls : calls = before ++ call :: after)
    (htext : call.text? sha256 artifact = some text) :
    filesAfter sha256 files calls (artifact.path call.segment) =
      (lastText sha256 call.segment artifact after).or (some text) := by
  rw [hcalls]
  unfold filesAfter
  rw [List.foldl_append, List.foldl_cons]
  show filesAfter sha256 (call.run sha256 (filesAfter sha256 files before)).2 after _ = _
  rw [filesAfter_path, run_path, if_pos rfl, htext, Option.some_or]

theorem keepsEvidence_iff_agreesLater :
    KeepsEvidence sha256 files calls ↔ AgreesLater sha256 calls := by
  constructor
  · intro h before call after hcalls artifact text htext between later rest text' hafter hsegment
      hlater hrest
    obtain ⟨henvelope, hwrote⟩ :=
      run_spec sha256 call (filesAfter sha256 files before)
    have hwrites : call.text? sha256 artifact ≠ none := by simp [htext]
    have hmem : artifact.ref (safeArtifactSegment call.request.sourceRunId) ∈
        (writtenEnvelope sha256 call.request call.outcome).refs :=
      mem_refs_iff.mpr ⟨artifact, hwrites, rfl⟩
    obtain ⟨kept, hafterCall, hend⟩ := h before call after hcalls _ henvelope _ hmem
    rw [PiArtifact.resolveMaterial_ref] at hafterCall hend
    have hlast : lastText sha256 call.segment artifact after = some text' :=
      lastText_eq_some_iff.mpr ⟨between, later, rest, hafter, hsegment, hlater, hrest⟩
    have hpath := filesAfter_of_call files hcalls htext
    rw [hlast, Option.some_or] at hpath
    have hwritten := hwrote.written artifact text htext
    obtain rfl := Option.some.inj (hwritten.symm.trans hafterCall)
    exact Option.some.inj (hpath.symm.trans hend)
  · intro h before call after hcalls envelope henvelope ref href
    obtain ⟨hrun, hwrote⟩ := run_spec sha256 call (filesAfter sha256 files before)
    obtain rfl := Except.ok.inj (hrun.symm.trans henvelope)
    obtain ⟨artifact, htext, rfl⟩ := mem_refs_iff.mp href
    obtain ⟨text, htext⟩ := Option.ne_none_iff_exists'.mp htext
    refine ⟨text, ?_, ?_⟩
    · rw [PiArtifact.resolveMaterial_ref]
      exact hwrote.written artifact text htext
    · rw [PiArtifact.resolveMaterial_ref]
      have hpath := filesAfter_of_call files hcalls htext
      cases hlast : lastText sha256 call.segment artifact after with
      | none =>
        rw [hlast, Option.none_or] at hpath
        exact hpath
      | some text' =>
        obtain ⟨between, later, rest, hafter, hsegment, hlater, hrest⟩ :=
          lastText_eq_some_iff.mp hlast
        rw [hlast, Option.some_or, h before call after hcalls artifact text htext between later rest
          text' hafter hsegment hlater hrest] at hpath
        exact hpath

theorem agreesLater_of_pairwise (h : calls.Pairwise fun call later => call.segment ≠ later.segment) :
    AgreesLater sha256 calls := by
  intro before call after hcalls artifact text htext between later rest text' hafter hsegment
  rw [hcalls, hafter] at h
  have hcall := (List.pairwise_append.mp h).2.1
  exact absurd hsegment.symm ((List.pairwise_cons.mp hcall).1 later (by simp))

/-- **Artifacts of earlier searches.** Every reference still leads to what its search has written
exactly when the last call to write a file of the same segment writes the same text. That is so
when no two run ids have the same segment. -/
theorem keepsEvidence_iff (sha256 : HashFunction) (files : Files) (calls : List CardsCall) :
    (KeepsEvidence sha256 files calls ↔ AgreesLater sha256 calls) ∧
      (calls.Pairwise (fun call later => call.segment ≠ later.segment) →
        KeepsEvidence sha256 files calls) := by
  constructor
  · exact keepsEvidence_iff_agreesLater
  · intro h
    exact keepsEvidence_iff_agreesLater.mpr (agreesLater_of_pairwise h)

end Calls

/-- A digest that does not look at the text. -/
def constantDigest : HashFunction where
  digest _ := List.replicate 32 0
  length_digest _ := List.length_replicate

def cardOf (text : String) : CardSummary :=
  { normalizedCardText := text, displayNameMasked := true }

def searchOf (sourceRunId text : String) : CardsCall where
  request := { sourceRunId, query := "java" }
  outcome := .cards 1 [{ actionKind := "open_search" }] text [cardOf text]

def twoSearches : List CardsCall := [searchOf "run/1" "Zhang 30", searchOf "run?1" "Li 41"]

theorem segment_twoSearches :
    (searchOf "run?1" "Li 41").segment = (searchOf "run/1" "Zhang 30").segment := by
  have hslash : "run/1".toList = ['r', 'u', 'n', '/', '1'] := String.toList_ofList
  have hmark : "run?1".toList = ['r', 'u', 'n', '?', '1'] := String.toList_ofList
  show safeArtifactSegment "run?1" = safeArtifactSegment "run/1"
  unfold safeArtifactSegment
  rw [hslash, hmark]
  rfl

theorem dumped_twoSearches : dumped (cardOf "Li 41").json ≠ dumped (cardOf "Zhang 30").json := by
  intro h
  have hlists := String.ofList_injective h
  have hli : "Li 41".toList = ['L', 'i', ' ', '4', '1'] := String.toList_ofList
  have hzhang : "Zhang 30".toList = ['Z', 'h', 'a', 'n', 'g', ' ', '3', '0'] := String.toList_ofList
  simp only [-String.reduceToList, cardOf, CardSummary.json, Json.write, Json.writeMembers,
    List.cons_append, List.append_assoc, List.cons.injEq, List.append_cancel_left_eq, true_and, hli,
    hzhang, List.flatMap_cons] at hlists
  exact absurd (List.cons.inj hlists).1 (by decide)

/-- The run ids differ and their segments do not: the evidence of the first candidate has become
that of the second one. -/
theorem not_keepsEvidence_twoSearches :
    (twoSearches.map fun call => call.request.sourceRunId).Nodup ∧
      ¬KeepsEvidence constantDigest (fun _ => none) twoSearches := by
  constructor
  · decide
  · intro h
    have hagrees := keepsEvidence_iff_agreesLater.mp h
    have htexts := hagrees [] (searchOf "run/1" "Zhang 30") [searchOf "run?1" "Li 41"] rfl
      (.cardSummary 1) _ rfl [] (searchOf "run?1" "Li 41") [] _ rfl segment_twoSearches rfl (by simp)
    exact dumped_twoSearches htexts

end PiAgent

end SeekTalent
