import SeekTalent.Base.Digest
import SeekTalent.Base.Table
import SeekTalent.Requirements.TriageSearch

/-!
# The requirement cache

A run of the workbench is not told the requirements that were approved: the draft of the triage is
put into the cache of model answers, and the requirement stage finds it there, under a key that it
computes again. The file of the cache is shared by all the processes of a workspace. Whoever writes
the same key meanwhile takes the row, and a command line run deletes the file; the stage then asks
the model, as if nothing had been approved.
-/

namespace SeekTalent

/-! ## 1. Drafts as payloads -/

namespace Json

def texts (values : List String) : Json := .array (values.map .string)

def optionalText (value : Option String) : Json := (value.map .string).getD .null

def texts? : Json → Option (List String)
  | .array items => items.mapM text?
  | _ => none

@[simp] theorem texts?_texts (values : List String) : texts? (texts values) = some values := by
  show (values.map Json.string).mapM text? = some values
  induction values with
  | nil => rfl
  | cons value values ih =>
    rw [List.map_cons, List.mapM_cons, ih]
    rfl

end Json

namespace RequirementExtractionDraft

/-- `model_dump(mode="json")` -/
def modelDump (draft : RequirementExtractionDraft) : JsonObject :=
  [("role_title", .string draft.roleTitle),
    ("title_anchor_terms", .texts draft.titleAnchorTerms),
    ("title_anchor_rationale", .string draft.titleAnchorRationale),
    ("jd_query_terms", .texts draft.jdQueryTerms),
    ("notes_query_terms", .texts draft.notesQueryTerms),
    ("role_summary", .string draft.roleSummary),
    ("must_have_capabilities", .texts draft.mustHaveCapabilities),
    ("preferred_capabilities", .texts draft.preferredCapabilities),
    ("exclusion_signals", .texts draft.exclusionSignals),
    ("locations", .texts draft.locations),
    ("school_names", .texts draft.schoolNames),
    ("degree_requirement", .optionalText draft.degreeRequirement),
    ("school_type_requirement", .texts draft.schoolTypeRequirement),
    ("experience_requirement", .optionalText draft.experienceRequirement),
    ("gender_requirement", .optionalText draft.genderRequirement),
    ("age_requirement", .optionalText draft.ageRequirement),
    ("company_names", .texts draft.companyNames),
    ("preferred_locations", .texts draft.preferredLocations),
    ("preferred_companies", .texts draft.preferredCompanies),
    ("preferred_domains", .texts draft.preferredDomains),
    ("preferred_backgrounds", .texts draft.preferredBackgrounds),
    ("preferred_query_terms", .texts draft.preferredQueryTerms),
    ("scoring_rationale", .string draft.scoringRationale)]

def fieldNames : List String :=
  ["role_title", "title_anchor_terms", "title_anchor_rationale", "jd_query_terms",
    "notes_query_terms", "role_summary", "must_have_capabilities", "preferred_capabilities",
    "exclusion_signals", "locations", "school_names", "degree_requirement",
    "school_type_requirement", "experience_requirement", "gender_requirement", "age_requirement",
    "company_names", "preferred_locations", "preferred_companies", "preferred_domains",
    "preferred_backgrounds", "preferred_query_terms", "scoring_rationale"]

def textField (payload : JsonObject) (name : String) : Except RequirementError String :=
  match (payload.get name).bind Json.text? with
  | some value => .ok value
  | none => .error (.validationError name)

def textsField (payload : JsonObject) (name : String) (default : Option (List String)) :
    Except RequirementError (List String) :=
  match ((payload.get name).elim default Json.texts?) with
  | some values => .ok values
  | none => .error (.validationError name)

/-- A field that may be `None`, or missing. -/
def optionalTextField (payload : JsonObject) (name : String) :
    Except RequirementError (Option String) :=
  match payload.get name with
  | none => .ok none
  | some .null => .ok none
  | some (.string value) => .ok (some value)
  | some _ => .error (.validationError name)

def fillTitleAnchorCompatibility (payload : JsonObject) : JsonObject :=
  let legacyAnchor := (payload.get "title_anchor_term").getD .null
  let payload : JsonObject := payload.filter fun member => member.1 ≠ "title_anchor_term"
  let payload : JsonObject :=
    match payload.get "title_anchor_terms", legacyAnchor with
    | none, .null => payload
    | none, anchor => payload.set "title_anchor_terms" (.array [anchor])
    | some _, _ => payload
  if (payload.get "title_anchor_rationale").isNone ∧
      ((payload.get "title_anchor_terms").any Json.truthy) then
    payload.set "title_anchor_rationale"
      (.string "Primary title anchor carried forward from the legacy title_anchor_term field.")
  else payload

def ofPayload (payload : JsonObject) : Except RequirementError RequirementExtractionDraft := do
  let payload := fillTitleAnchorCompatibility payload
  match payload.find? fun member => member.1 ∉ fieldNames with
  | some extra => .error (.validationError extra.1)
  | none =>
    return {
      roleTitle := ← textField payload "role_title"
      titleAnchorTerms := ← textsField payload "title_anchor_terms" none
      titleAnchorRationale := ← textField payload "title_anchor_rationale"
      jdQueryTerms := ← textsField payload "jd_query_terms" (some [])
      notesQueryTerms := ← textsField payload "notes_query_terms" (some [])
      roleSummary := ← textField payload "role_summary"
      mustHaveCapabilities := ← textsField payload "must_have_capabilities" (some [])
      preferredCapabilities := ← textsField payload "preferred_capabilities" (some [])
      exclusionSignals := ← textsField payload "exclusion_signals" (some [])
      locations := ← textsField payload "locations" (some [])
      schoolNames := ← textsField payload "school_names" (some [])
      degreeRequirement := ← optionalTextField payload "degree_requirement"
      schoolTypeRequirement := ← textsField payload "school_type_requirement" (some [])
      experienceRequirement := ← optionalTextField payload "experience_requirement"
      genderRequirement := ← optionalTextField payload "gender_requirement"
      ageRequirement := ← optionalTextField payload "age_requirement"
      companyNames := ← textsField payload "company_names" (some [])
      preferredLocations := ← textsField payload "preferred_locations" (some [])
      preferredCompanies := ← textsField payload "preferred_companies" (some [])
      preferredDomains := ← textsField payload "preferred_domains" (some [])
      preferredBackgrounds := ← textsField payload "preferred_backgrounds" (some [])
      preferredQueryTerms := ← textsField payload "preferred_query_terms" (some [])
      scoringRationale := ← textField payload "scoring_rationale" }

def modelValidate (payload : JsonObject) : Except RequirementError RequirementExtractionDraft := do
  (← ofPayload payload).validate

variable (draft : RequirementExtractionDraft)

theorem keys_modelDump : draft.modelDump.map (·.1) = fieldNames := rfl

theorem fillTitleAnchorCompatibility_modelDump :
    fillTitleAnchorCompatibility draft.modelDump = draft.modelDump := by
  have hkept : (draft.modelDump.filter fun member => member.1 ≠ "title_anchor_term") =
      draft.modelDump := by
    apply List.filter_eq_self.mpr
    intro member hmember
    have hname := List.mem_map_of_mem (f := (·.1)) hmember
    rw [keys_modelDump] at hname
    apply decide_eq_true
    intro heq
    rw [heq] at hname
    exact absurd hname (by decide)
  unfold fillTitleAnchorCompatibility
  dsimp only
  rw [hkept]
  simp [modelDump, JsonObject.get]

section Fields

variable {payload : JsonObject} (name : String)

theorem textField_eq {value : String} (h : payload.get name = some (.string value)) :
    textField payload name = .ok value := by
  unfold textField
  rw [h]
  rfl

theorem textsField_eq {values : List String} {default : Option (List String)}
    (h : payload.get name = some (.texts values)) :
    textsField payload name default = .ok values := by
  unfold textsField
  rw [h, Option.elim_some, Json.texts?_texts]

theorem optionalTextField_eq {value : Option String}
    (h : payload.get name = some (.optionalText value)) :
    optionalTextField payload name = .ok value := by
  unfold optionalTextField
  rw [h]
  cases value with
  | none => rfl
  | some value => rfl

end Fields

/-- **What is dumped is read back.** -/
theorem ofPayload_modelDump : ofPayload draft.modelDump = .ok draft := by
  have hknown : (draft.modelDump.find? fun member => member.1 ∉ fieldNames) = none := by
    apply List.find?_eq_none.mpr
    intro member hmember
    have hname := List.mem_map_of_mem (f := (·.1)) hmember
    rw [keys_modelDump] at hname
    simpa using hname
  unfold ofPayload
  dsimp only
  rw [fillTitleAnchorCompatibility_modelDump, hknown]
  dsimp only
  rw [textField_eq "role_title" rfl, textsField_eq "title_anchor_terms" rfl,
    textField_eq "title_anchor_rationale" rfl, textsField_eq "jd_query_terms" rfl,
    textsField_eq "notes_query_terms" rfl, textField_eq "role_summary" rfl,
    textsField_eq "must_have_capabilities" rfl, textsField_eq "preferred_capabilities" rfl,
    textsField_eq "exclusion_signals" rfl, textsField_eq "locations" rfl,
    textsField_eq "school_names" rfl, optionalTextField_eq "degree_requirement" rfl,
    textsField_eq "school_type_requirement" rfl, optionalTextField_eq "experience_requirement" rfl,
    optionalTextField_eq "gender_requirement" rfl, optionalTextField_eq "age_requirement" rfl,
    textsField_eq "company_names" rfl, textsField_eq "preferred_locations" rfl,
    textsField_eq "preferred_companies" rfl, textsField_eq "preferred_domains" rfl,
    textsField_eq "preferred_backgrounds" rfl, textsField_eq "preferred_query_terms" rfl,
    textField_eq "scoring_rationale" rfl]
  rfl

theorem modelDump_inj {draft draft' : RequirementExtractionDraft}
    (h : draft.modelDump = draft'.modelDump) : draft = draft' := by
  have hread := ofPayload_modelDump draft
  rw [h, ofPayload_modelDump] at hread
  exact (Except.ok.inj hread).symm

theorem modelValidate_modelDump (hvalid : draft.validate = .ok draft) :
    modelValidate draft.modelDump = .ok draft := by
  unfold modelValidate
  rw [ofPayload_modelDump]
  exact hvalid

end RequirementExtractionDraft

open TriageDraft

/-! ## 2. The cache -/

/-- A row of `exact_llm_cache`. -/
structure CacheRow where
  nameSpace : String
  key : String
  payload : JsonObject

def CacheRow.id (row : CacheRow) : String × String := (row.nameSpace, row.key)

/-- The file of the cache; without a row it may be missing. -/
abbrev ExactLlmCache := Keyed CacheRow.id

def getCachedJson (cache : ExactLlmCache) (nameSpace key : String) : Option JsonObject :=
  (cache.lookup (nameSpace, key)).map (·.payload)

def putCachedJson (cache : ExactLlmCache) (nameSpace key : String) (payload : JsonObject) :
    ExactLlmCache := cache.put { nameSpace, key, payload }

def clearExactLlmCache (_ : ExactLlmCache) : ExactLlmCache := {}

theorem getCachedJson_put {cache : ExactLlmCache} {nameSpace nameSpace' key key' : String}
    {payload : JsonObject} :
    getCachedJson (putCachedJson cache nameSpace' key' payload) nameSpace key =
      if nameSpace' = nameSpace ∧ key' = key then some payload
      else getCachedJson cache nameSpace key := by
  unfold getCachedJson putCachedJson
  rw [Keyed.lookup_put]
  simp only [CacheRow.id, Prod.mk.injEq]
  split
  · rfl
  · rfl

/-! ## 3. Keys -/

/-- What a process has of the settings, and the prompt that it has loaded. -/
structure RequirementSettings where
  requirementsModelId : String
  requirementsEnableThinking : Bool
  structuredRepairModelId : String
  structuredRepairReasoningEffort : String
  promptSha256 : String

/-- What is outside: the tables of the interpreter, and SHA-256. -/
structure CacheLibrary where
  tables : NumberTables
  hash : HashFunction

structure InputTruth where
  jobTitle : String
  jd : String
  notes : String
  jobTitleSha256 : String
  jdSha256 : String
  notesSha256 : String

def buildInputTruth (hash : HashFunction) (jobTitle jd notes : String) : InputTruth where
  jobTitle
  jd
  notes
  jobTitleSha256 := hash.hexdigest jobTitle
  jdSha256 := hash.hexdigest jd
  notesSha256 := hash.hexdigest notes

/-- `stable_cache_key` of a list of scalars. -/
def stableCacheKey (hash : HashFunction) (parts : List Json) : String :=
  hash.hexdigest
    (String.ofList ('[' :: List.intercalate [','] (parts.map Json.write) ++ [']']))

def requirementCacheKey (hash : HashFunction) (settings : RequirementSettings) (input : InputTruth)
    (cacheScope : Option String) : String :=
  let parts : List Json :=
    [.string "requirement_extraction_draft.v2", .string settings.requirementsModelId,
      .string (if settings.requirementsEnableThinking then "high" else "off"),
      .bool settings.requirementsEnableThinking, .string settings.structuredRepairModelId,
      .string settings.structuredRepairReasoningEffort, .string settings.promptSha256,
      .string input.jobTitleSha256, .string input.jdSha256, .string input.notesSha256]
  stableCacheKey hash
    (parts ++ (cacheScope.map fun scope => [.string "cache_scope.v1", .string scope]).getD [])

def boundedJoin (values : List String) : String :=
  let text := Py.join "; " (values.take 12)
  if text.length ≤ 800 then text else cutText 800 text ++ "..."

def notesWithTriage (context : WorkbenchSourceRunJobContext) : String :=
  let criteria := context.triage.criteria
  let sections :=
    [Py.strip context.session.notes,
      "Approved requirement triage:",
      "must_haves: " ++ boundedJoin criteria.mustHaves,
      "nice_to_haves: " ++ boundedJoin criteria.niceToHaves,
      "synonyms: " ++ boundedJoin criteria.synonyms,
      "seniority_filters: " ++ boundedJoin criteria.seniorityFilters,
      "exclusions: " ++ boundedJoin criteria.exclusions,
      "generated_query_hints: " ++ boundedJoin criteria.generatedQueryHints]
  Py.join "\n" (sections.filter (· ≠ ""))

structure RunRequest where
  jobTitle : String
  jd : String
  notes : String
  requirementCacheScope : Option String

/-- What `run_cts_source_run` asks the runtime for. -/
def ctsRunRequest (context : WorkbenchSourceRunJobContext) : RunRequest where
  jobTitle := context.session.jobTitle
  jd := context.session.jdText
  notes := notesWithTriage context
  requirementCacheScope := some context.session.sessionId

section Seed

variable (lib : CacheLibrary) (settings : RequirementSettings)
  (context : WorkbenchSourceRunJobContext)

/-- The key that `_seed_approved_requirement_cache` writes to. -/
def approvedKey : String :=
  requirementCacheKey lib.hash settings
    (buildInputTruth lib.hash context.session.jobTitle context.session.jdText
      (notesWithTriage context)) (some context.session.sessionId)

def seedApprovedRequirementCache (cache : ExactLlmCache) : Except RequirementError ExactLlmCache := do
  let draft ← requirementDraftFromApprovedTriage lib.tables context
  return putCachedJson cache "requirements" (approvedKey lib settings context) draft.modelDump

end Seed

/-! ## 4. The requirement stage -/

/-- What `extract_with_draft` does after its lookup. -/
inductive Extraction where
  /-- a hit -/
  | cached (draft : RequirementExtractionDraft)
  /-- a hit that `model_validate` refuses -/
  | refused (e : RequirementError)
  /-- a miss: the model is asked -/
  | live

section Stage

variable (lib : CacheLibrary) (settings : RequirementSettings)

/-- The key that a requirement stage looks for, or keeps the model's draft under. -/
def RunRequest.cacheKey (request : RunRequest) : String :=
  requirementCacheKey lib.hash settings
    (buildInputTruth lib.hash request.jobTitle request.jd request.notes)
    request.requirementCacheScope

/-- The lookup of `RequirementExtractor.extract_with_draft`. -/
def extractWithDraft (request : RunRequest) (cache : ExactLlmCache) : Extraction :=
  match getCachedJson cache "requirements" (request.cacheKey lib settings) with
  | none => .live
  | some payload =>
    match RequirementExtractionDraft.modelValidate payload with
    | .ok draft => .cached draft
    | .error e => .refused e

/-- **The stage goes by what was approved**: it finds the draft of the job's own triage. -/
def UsesApproved (context : WorkbenchSourceRunJobContext) (cache : ExactLlmCache) : Prop :=
  getCachedJson cache "requirements" ((ctsRunRequest context).cacheKey lib settings) =
      some (triageDraft lib.tables context).modelDump ∧
    extractWithDraft lib settings (ctsRunRequest context) cache =
      .cached (triageDraft lib.tables context)

theorem cacheKey_ctsRunRequest (context : WorkbenchSourceRunJobContext) :
    (ctsRunRequest context).cacheKey lib settings = approvedKey lib settings context := rfl

end Stage

/-! ## 5. Steps -/

inductive CacheStep where
  /-- a job of the workbench seeds the cache -/
  | seed (settings : RequirementSettings) (context : WorkbenchSourceRunJobContext)
  /-- a run or an extraction starts, or looks something up -/
  | quiet
  /-- a requirement stage has asked the model, and keeps its draft -/
  | extracted (settings : RequirementSettings) (request : RunRequest)
    (draft : RequirementExtractionDraft)
  /-- the scorer keeps an answer -/
  | scored (key : String) (payload : JsonObject)
  /-- `cleanup_runtime_artifacts`, of a command line run -/
  | cleanup

namespace CacheStep

variable (lib : CacheLibrary)

/-- What is left of the cache; a job whose draft is refused does not write. -/
def apply (cache : ExactLlmCache) : CacheStep → ExactLlmCache
  | seed settings context => (seedApprovedRequirementCache lib settings context cache).toOption.getD cache
  | quiet => cache
  | extracted settings request draft =>
    putCachedJson cache "requirements" (request.cacheKey lib settings) draft.modelDump
  | scored key payload => putCachedJson cache "scoring" key payload
  | cleanup => clearExactLlmCache cache

/-- What a step writes to the row of a key, if it touches it: `some none` where the row is gone. -/
def touch (key : String) : CacheStep → Option (Option RequirementExtractionDraft)
  | seed settings context =>
    if approvedKey lib settings context = key then
      (requirementDraftFromApprovedTriage lib.tables context).toOption.map some
    else none
  | quiet => none
  | extracted settings request draft =>
    if request.cacheKey lib settings = key then some (some draft) else none
  | scored _ _ => none
  | cleanup => some none

end CacheStep

section Run

variable (lib : CacheLibrary)

/-- Steps, in the order in which they are taken. -/
def cacheAfter (cache : ExactLlmCache) (steps : List CacheStep) : ExactLlmCache :=
  steps.foldl (CacheStep.apply lib) cache

def lastTouch (key : String) (steps : List CacheStep) : Option (Option RequirementExtractionDraft) :=
  (steps.filterMap (CacheStep.touch lib key)).getLast?

/-- Of these steps none touches the row of the job, or the last that does writes what the job has
    written: neither a cleanup nor another draft under the same key comes last. -/
def Undisturbed (settings : RequirementSettings) (context : WorkbenchSourceRunJobContext)
    (steps : List CacheStep) : Prop :=
  ∀ left, lastTouch lib (approvedKey lib settings context) steps = some left →
    left = some (triageDraft lib.tables context)

end Run

/-! ## 6. What the stage finds -/

variable {lib : CacheLibrary} {cache : ExactLlmCache} {key : String}

/-- **One step**: the row is as it was, or what the step leaves. -/
theorem getCachedJson_apply (step : CacheStep) :
    getCachedJson (step.apply lib cache) "requirements" key =
      (step.touch lib key).elim (getCachedJson cache "requirements" key)
        (·.map RequirementExtractionDraft.modelDump) := by
  cases step with
  | seed settings context =>
    simp only [CacheStep.apply, CacheStep.touch, seedApprovedRequirementCache]
    cases requirementDraftFromApprovedTriage lib.tables context with
    | error e =>
      show getCachedJson cache "requirements" key = _
      split
      · rfl
      · rfl
    | ok draft =>
      show getCachedJson (putCachedJson cache _ _ _) "requirements" key = _
      rw [getCachedJson_put]
      simp only [true_and]
      split
      · rfl
      · rfl
  | quiet => rfl
  | extracted settings request draft =>
    simp only [CacheStep.apply, CacheStep.touch]
    rw [getCachedJson_put]
    simp only [true_and]
    split
    · rfl
    · rfl
  | scored key' payload =>
    simp only [CacheStep.apply, CacheStep.touch]
    rw [getCachedJson_put, if_neg (by simp)]
    rfl
  | cleanup => rfl

/-- **A run**: the row is as it was, or what the last step that touches it leaves. -/
theorem getCachedJson_cacheAfter (steps : List CacheStep) :
    getCachedJson (cacheAfter lib cache steps) "requirements" key =
      (lastTouch lib key steps).elim (getCachedJson cache "requirements" key)
        (·.map RequirementExtractionDraft.modelDump) := by
  induction steps using List.reverseRecOn with
  | nil => rfl
  | append_singleton steps step ih =>
    have hstep : cacheAfter lib cache (steps ++ [step]) =
        step.apply lib (cacheAfter lib cache steps) := by
      unfold cacheAfter
      rw [List.foldl_append]
      rfl
    rw [hstep, getCachedJson_apply, ih]
    unfold lastTouch
    rw [List.filterMap_append, List.filterMap_cons, List.filterMap_nil]
    cases CacheStep.touch lib key step with
    | none => simp
    | some left => simp

variable {settings : RequirementSettings} {context : WorkbenchSourceRunJobContext}

theorem usesApproved_iff_row (htitle : ¬Py.Blank context.session.jobTitle.toList) :
    UsesApproved lib settings context cache ↔
      getCachedJson cache "requirements" (approvedKey lib settings context) =
        some (triageDraft lib.tables context).modelDump := by
  constructor
  · exact fun h => h.1
  · intro hrow
    refine ⟨hrow, ?_⟩
    unfold extractWithDraft
    rw [cacheKey_ctsRunRequest, hrow]
    dsimp only
    rw [RequirementExtractionDraft.modelValidate_modelDump _ (validate_triageDraft htitle)]

theorem getCachedJson_seed (htitle : ¬Py.Blank context.session.jobTitle.toList) :
    getCachedJson ((CacheStep.seed settings context).apply lib cache) "requirements"
        (approvedKey lib settings context) =
      some (triageDraft lib.tables context).modelDump := by
  rw [getCachedJson_apply]
  unfold CacheStep.touch requirementDraftFromApprovedTriage
  dsimp only
  rw [if_pos rfl, validate_triageDraft htitle]
  rfl

/-- **What a run goes by.** Whatever the others have done before the job seeds the cache, while its
run starts and until its requirement stage looks: it finds the job's own draft exactly where the last
of them that has touched the row meanwhile, if any, has written that draft. -/
theorem usesApproved_iff (lib : CacheLibrary) (settings : RequirementSettings)
    (context : WorkbenchSourceRunJobContext) (htitle : ¬Py.Blank context.session.jobTitle.toList)
    (cache : ExactLlmCache) (before whileStarting beforeLookup : List CacheStep) :
    UsesApproved lib settings context
        (cacheAfter lib cache
          (before ++ .seed settings context :: (whileStarting ++ .quiet :: beforeLookup))) ↔
      Undisturbed lib settings context (whileStarting ++ .quiet :: beforeLookup) := by
  rw [usesApproved_iff_row htitle]
  generalize whileStarting ++ CacheStep.quiet :: beforeLookup = meanwhile
  have hsplit : cacheAfter lib cache (before ++ .seed settings context :: meanwhile) =
      cacheAfter lib ((CacheStep.seed settings context).apply lib (cacheAfter lib cache before))
        meanwhile := by
    unfold cacheAfter
    rw [List.foldl_append, List.foldl_cons]
  rw [hsplit, getCachedJson_cacheAfter, getCachedJson_seed htitle]
  unfold Undisturbed
  cases lastTouch lib (approvedKey lib settings context) meanwhile with
  | none => simp
  | some left =>
    rw [Option.elim_some]
    constructor
    · intro hrow left' hleft
      obtain rfl := Option.some.inj hleft
      obtain ⟨draft, rfl, hdump⟩ := Option.map_eq_some_iff.mp hrow
      rw [RequirementExtractionDraft.modelDump_inj hdump]
    · intro hown
      rw [hown left rfl]
      rfl

def checksumHash : HashFunction where
  digest text :=
    List.replicate 32 (text.toList.foldl (fun (n : Nat) (c : Char) => 31 * n + c.toNat) 7).toUInt8
  length_digest _ := List.length_replicate

def sampleCacheLibrary : CacheLibrary := ⟨.ascii, checksumHash⟩

def sampleCacheSettings : RequirementSettings := ⟨"model", false, "repair", "low", "prompt"⟩

/-- A job runs while the scorer of another run keeps its answers. -/
theorem usesApproved_whileScored :
    UsesApproved sampleCacheLibrary sampleCacheSettings sampleContext
      (cacheAfter sampleCacheLibrary {}
        ([.cleanup] ++ .seed sampleCacheSettings sampleContext ::
          ([.scored "answer" []] ++ .quiet :: [.scored "other" []]))) := by
  refine (usesApproved_iff sampleCacheLibrary sampleCacheSettings sampleContext not_blank_sampleTitle
    {} [.cleanup] [.scored "answer" []] [.scored "other" []]).mpr ?_
  intro left hleft
  cases hleft

/-- A command line run starts before the stage looks: nothing is found. -/
theorem not_usesApproved :
    ¬∀ (lib : CacheLibrary) (settings : RequirementSettings)
      (context : WorkbenchSourceRunJobContext), ¬Py.Blank context.session.jobTitle.toList →
        ∀ (cache : ExactLlmCache) (before whileStarting beforeLookup : List CacheStep),
          UsesApproved lib settings context (cacheAfter lib cache
            (before ++ .seed settings context :: (whileStarting ++ .quiet :: beforeLookup))) := by
  intro h
  obtain ⟨hrow, -⟩ := h sampleCacheLibrary sampleCacheSettings sampleContext not_blank_sampleTitle {}
    [] [.cleanup] []
  rw [getCachedJson_cacheAfter] at hrow
  have htouch : lastTouch sampleCacheLibrary
      ((ctsRunRequest sampleContext).cacheKey sampleCacheLibrary sampleCacheSettings)
      ([] ++ CacheStep.seed sampleCacheSettings sampleContext :: ([.cleanup] ++ .quiet :: [])) =
        some none := by
    unfold lastTouch
    rw [List.nil_append, List.filterMap_cons]
    cases CacheStep.touch sampleCacheLibrary
        ((ctsRunRequest sampleContext).cacheKey sampleCacheLibrary sampleCacheSettings)
        (.seed sampleCacheSettings sampleContext) with
    | none => rfl
    | some left => rfl
  rw [htouch] at hrow
  cases hrow

end SeekTalent
