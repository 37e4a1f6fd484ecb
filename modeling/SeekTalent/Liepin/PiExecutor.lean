import SeekTalent.Base.JsText
import SeekTalent.Liepin.LaneEvidence
import SeekTalent.PiAgent.CardArtifacts
import SeekTalent.Workbench.Redaction

/-!
# The executor of card searches

The executor takes the envelope of a card search only if its counts fit, its references lead to
files and a firewall finds nothing in its texts that looks like contact data, a credential or
markup. Each card becomes a candidate whose keys are a keyed digest of the key material that the
browser helper has written for it.
-/

namespace SeekTalent

namespace PiAgent

open Redaction (wordEdge blank textIgnoreCase tokenChar)

/-! ## 1. The firewall -/

section Firewall

variable (tables : Py.UnicodeTables)

def FORBIDDEN_TEXT_PATTERNS : List Regex :=
  [.all [wordEdge tables, .atLeast 1 (.char fun c => c.isAlphanum || c ∈ ['.', '_', '%', '+', '-']),
      .text "@", .atLeast 1 (.char fun c => c.isAlphanum || c ∈ ['.', '-']), .text ".",
      .atLeast 2 (.char Char.isAlpha), wordEdge tables],
    .all [.opt (.all [.opt (.text "+"), .text "86", .opt (.char fun c => c == '-' || Py.isSpace c)]),
      .text "1", .char fun c => '3' ≤ c && c ≤ '9', .exactly 9 (.char tables.isDecimal),
      wordEdge tables],
    .all [wordEdge tables, .any (["wechat", "weixin", "wx"].map textIgnoreCase),
      .opt (.char fun c => c ∈ ['-', '_', ':'] || Py.isSpace c), .atLeast 4 (tokenChar ['_']),
      wordEdge tables],
    .all [wordEdge tables, textIgnoreCase "bearer", .atLeast 1 blank,
      .atLeast 1 (tokenChar ['.', '_', '-'])],
    .any [.all [wordEdge tables, textIgnoreCase "cookie", wordEdge tables],
      .all [wordEdge tables, textIgnoreCase "session", .text "="]],
    .any [.all [wordEdge tables, textIgnoreCase "localStorage", wordEdge tables],
      .all [wordEdge tables, textIgnoreCase "sessionStorage", wordEdge tables]],
    .all [.text "<", .atLeast 1 (.char (· != '>')), .text ">"]]

/-- `assert_safe_text`, where it does not raise -/
def safeText (text : String) : Bool :=
  (FORBIDDEN_TEXT_PATTERNS tables).all (fun pattern => !pattern.search text) &&
    text.length ≤ 2000

/-- `assert_safe_mapping` of a text -/
def safeValue (text : String) : Bool :=
  if Py.startsWith text "artifact://protected/" || Py.startsWith text "artifact://public-summary/" then
    validPublicArtifactRef text
  else safeText tables text

def SafeCardSummary.texts (summary : SafeCardSummary) : List String :=
  [summary.displayTitle, summary.currentOrRecentCompany, summary.currentOrRecentTitle, summary.city,
      summary.expectedCity, summary.educationLevel, summary.jobIntention,
      summary.recentExperienceText].filterMap id ++
    summary.schoolNames ++ summary.majorNames ++ summary.skillTags ++ [summary.normalizedCardText]

end Firewall

/-! ## 2. What an envelope must be -/

def OPENCLI_SAFE_REASON_CODES : List String :=
  ["liepin_opencli_backend_disabled", "liepin_opencli_command_missing",
    "liepin_opencli_extension_disconnected", "liepin_opencli_status_unavailable",
    "liepin_opencli_forbidden_command", "liepin_opencli_forbidden_text",
    "liepin_opencli_host_blocked", "liepin_opencli_start_url_blocked",
    "liepin_opencli_window_policy_blocked", "liepin_opencli_budget_exhausted",
    "liepin_opencli_timeout", "liepin_opencli_login_required", "liepin_opencli_identity_intercept",
    "liepin_opencli_risk_page", "liepin_opencli_unknown_modal",
    "liepin_opencli_source_policy_missing", "liepin_opencli_malformed_state"]

def stopReasonFits (status : PiLiepinResultStatus) (stopReason : Option PiLiepinStopReason) : Bool :=
  match status with
  | .succeeded => stopReason ∈ [none, some .completed]
  | .partially => stopReason ∈ [some .partialTimeout, some .blockedBudgetExhausted]
  | .blocked =>
    stopReason ∈ [some .blockedLoginRequired, some .blockedPermissionRequired,
      some .blockedBackendUnavailable, some .blockedBudgetExhausted]
  | .failed => stopReason ∈ [some .failedProviderError, some .failedMalformedOutput]

/-- `_PiLiepinCardsEnvelope.model_validate` of fields that have their types -/
def modelValidates (envelope : CardsEnvelope) : Bool :=
  envelope.cards.all (fun card => 1 ≤ card.providerRank) &&
    envelope.cardsReturned == envelope.cards.length && envelope.cardsReturned ≤ envelope.cardsSeen &&
    decide (envelope.cards.map EnvelopeCard.providerRank).Nodup &&
    stopReasonFits envelope.status envelope.stopReason &&
    (envelope.status ∉ [.blocked, .failed] || envelope.cardsReturned == 0) &&
    envelope.safeReasonCode.all (· ∈ OPENCLI_SAFE_REASON_CODES)

structure SearchCardsRequest where
  sourceRunId : String
  keywordQuery : String
  maxPages : Nat
  maxCards : Nat

section Trace

/-- `str(value).lower()`. Of a value that is no text only words are looked for, which its JSON has
as well. -/
def loweredText : Option Json → String
  | none => ""
  | some (.string text) => Js.toLowerCase text
  | some value => if value.truthy then Js.toLowerCase (dumped value) else ""

def forbiddenMapping (members : JsonObject) : Bool :=
  let routeKind := loweredText (members.getOr "route_kind" "routeKind")
  let actionKind := loweredText (members.getOr "action_kind" "actionKind")
  let url := loweredText (members.getOr "url" "href")
  routeKind == "detail" || actionKind ∈ ["contact", "download", "open_detail"] ||
    ["/resume", "/candidate/detail", "/detail", "contact"].any (Py.contains url)

mutual

def containsForbiddenDetailTrace : Json → Bool
  | .object members => forbiddenMapping members || membersForbidden members
  | .array items => itemsForbidden items
  | .string text =>
    ["candidate detail", "contact button", "/candidate/detail"].any
      (Py.contains (Js.toLowerCase text))
  | _ => false

def itemsForbidden : List Json → Bool
  | [] => false
  | item :: items => containsForbiddenDetailTrace item || itemsForbidden items

def membersForbidden : List (String × Json) → Bool
  | [] => false
  | (_, value) :: members => containsForbiddenDetailTrace value || membersForbidden members

end

/-- `_validate_card_mode_trace_ref`: what is no JSON is looked at as a text. -/
def cardModeTrace (files : Files) (ref : String) : Bool :=
  match resolveMaterial files ref with
  | none => false
  | some material =>
    !containsForbiddenDetailTrace ((Json.parse material).getD (.string material))

end Trace

/-- `validate_public_artifact_ref` with the registry: the reference leads to a file. -/
def registeredRef (files : Files) (ref : String) : Bool := (resolveMaterial files ref).isSome

def validCard (tables : Py.UnicodeTables) (files : Files) (card : EnvelopeCard) : Bool :=
  safeText tables card.candidateResumeId && card.safeCardSummary.texts.all (safeValue tables) &&
    registeredRef files card.providerCandidateKeyMaterialRef &&
    registeredRef files card.safeCardSummaryRef && registeredRef files card.protectedSnapshotRef

def validateCardEnvelope (tables : Py.UnicodeTables) (files : Files) (request : SearchCardsRequest)
    (envelope : CardsEnvelope) : Bool :=
  envelope.sourceRunId == request.sourceRunId && envelope.query == request.keywordQuery &&
    envelope.pagesVisited ≤ request.maxPages && envelope.cardsReturned ≤ request.maxCards &&
    registeredRef files envelope.actionTraceRef && cardModeTrace files envelope.actionTraceRef &&
    (envelope.safeSummaryRefs ++ envelope.protectedSnapshotRefs).all (registeredRef files) &&
    envelope.cards.all (validCard tables files)

/-! ## 3. The search -/

structure PiLiepinExecutor where
  tables : Py.UnicodeTables
  /-- HMAC with SHA-256 under the secret of the deployment -/
  hmac : HashFunction
  sha256 : HashFunction
  /-- `sha256_json` of a payload -/
  sha256Json : Json → String

structure LiepinCardSearchResponse where
  cards : List LiepinWorkerCandidateCard
  exhausted : Bool
  rawCandidateCount : Nat

structure LiepinPiCardSearchResult where
  status : PiLiepinResultStatus
  stopReason : PiLiepinStopReason
  safeReasonCode : String
  actionTraceRef : Option String := none
  cardSearch : Option LiepinCardSearchResponse := none

def safeReasonForStop : PiLiepinStopReason → String
  | .blockedBackendUnavailable => "blocked_backend_unavailable"
  | .blockedPermissionRequired => "blocked_permission_required"
  | .blockedLoginRequired => "blocked_login_required"
  | .partialTimeout => "partial_timeout"
  | .blockedBudgetExhausted => "blocked_budget_exhausted"
  | .failedMalformedOutput => "failed_provider_error"
  | .failedProviderError => "failed_provider_error"
  | .completed => "completed"

/-- The answer to an envelope that is not accepted. -/
def rejectedEnvelope : LiepinPiCardSearchResult where
  status := .failed
  stopReason := .failedProviderError
  safeReasonCode := "failed_provider_error"

namespace PiLiepinExecutor

variable (executor : PiLiepinExecutor)

def keyMessage (material : String) : String := "candidate\x1fliepin\x1f" ++ material

def providerCandidateHash (files : Files) (materialRef : String) : Option String :=
  (resolveMaterial files materialRef).map fun material =>
    executor.hmac.hexdigest (keyMessage material)

def cardPayload (providerCandidateKeyHash sourceRunId actionTraceRef : String)
    (card : EnvelopeCard) : Json :=
  .object
    [("providerCandidateKeyHash", .string providerCandidateKeyHash),
      ("providerRank", .number card.providerRank), ("sourceRunId", .string sourceRunId),
      ("safeSummaryRef", .string card.safeCardSummaryRef),
      ("protectedSnapshotRef", .string card.protectedSnapshotRef),
      ("actionTraceRef", .string actionTraceRef)]

def mapCard (files : Files) (sourceRunId actionTraceRef : String) (card : EnvelopeCard) :
    Option LiepinWorkerCandidateCard :=
  (executor.providerCandidateHash files card.providerCandidateKeyMaterialRef).map
    fun providerCandidateHash =>
      { payload :=
          { providerCandidateKeyHash := some providerCandidateHash
            safeSummaryRef := some card.safeCardSummaryRef
            protectedSnapshotRef := some card.protectedSnapshotRef }
        syntheticCandidateFingerprint :=
          executor.sha256.hexdigest ("liepin:" ++ providerCandidateHash)
        payloadSha256 :=
          executor.sha256Json (cardPayload providerCandidateHash sourceRunId actionTraceRef card) }

def mapCardSearch (files : Files) (envelope : CardsEnvelope) : Option LiepinCardSearchResponse :=
  (envelope.cards.mapM (executor.mapCard files envelope.sourceRunId envelope.actionTraceRef)).map
    fun cards =>
      { cards
        exhausted := envelope.status == .succeeded && envelope.stopReason == some .completed
        rawCandidateCount := envelope.cardsSeen }

/-- `search_cards`, from the envelope on -/
def searchCards (files : Files) (request : SearchCardsRequest) (envelope : CardsEnvelope) :
    LiepinPiCardSearchResult :=
  if modelValidates envelope && validateCardEnvelope executor.tables files request envelope then
    match executor.mapCardSearch files envelope with
    | none => rejectedEnvelope
    | some cardSearch =>
      let stopReason := envelope.stopReason.getD .completed
      { status := envelope.status
        stopReason
        safeReasonCode := envelope.safeReasonCode.getD (safeReasonForStop stopReason)
        actionTraceRef := some envelope.actionTraceRef
        cardSearch := some cardSearch }
  else rejectedEnvelope

end PiLiepinExecutor

end PiAgent

end SeekTalent
