import SeekTalent.PiAgent.CardArtifacts

/-!
# The registry of logical artifacts

A logical artifact has a name, and a descriptor that says at which path below the root of its run
it is kept. The descriptors of fixed names are a table; those of prompts and of rounds are made
from the name.
-/

namespace SeekTalent

namespace Artifacts

structure LogicalArtifactEntry where
  path : String
  contentType : String
  schemaVersion : Option String := none
  collection : Bool := false

/-- What a call raises. -/
inductive ArtifactError
  | keyError (logicalName : String)
  | valueError (message : String)

def jsonEntry (path : String) : LogicalArtifactEntry :=
  { path, contentType := "application/json", schemaVersion := some "v1" }

def jsonlEntry (path : String) : LogicalArtifactEntry :=
  { path, contentType := "application/jsonl", schemaVersion := some "v1" }

def collectionEntry (path : String) : LogicalArtifactEntry :=
  { path, contentType := "application/json", schemaVersion := some "v1", collection := true }

def STATIC_ENTRIES : List (String × LogicalArtifactEntry) :=
  [("runtime.trace_log", { path := "runtime/trace.log", contentType := "text/plain" }),
    ("runtime.events", { path := "runtime/events.jsonl", contentType := "application/jsonl" }),
    ("runtime.liepin_connection_events", jsonlEntry "runtime/liepin_connection_events.jsonl"),
    ("runtime.run_config", jsonEntry "runtime/run_config.json"),
    ("runtime.source_plan",
      { path := "runtime/source_plan.json", contentType := "application/json"
        schemaVersion := some "runtime_source_plan_v1" }),
    ("runtime.sent_query_history", jsonEntry "runtime/sent_query_history.json"),
    ("runtime.search_diagnostics", jsonEntry "runtime/search_diagnostics.json"),
    ("runtime.term_surface_audit", jsonEntry "runtime/term_surface_audit.json"),
    ("input.input_snapshot", jsonEntry "input/input_snapshot.json"),
    ("input.input_truth", jsonEntry "input/input_truth.json"),
    ("output.final_candidates", jsonEntry "output/final_candidates.json"),
    ("output.run_summary", { path := "output/run_summary.md", contentType := "text/markdown" }),
    ("output.judge_packet", jsonEntry "output/judge_packet.json"),
    ("output.summary", jsonEntry "output/summary.json"),
    ("evaluation.evaluation", jsonEntry "evaluation/evaluation.json"),
    ("evaluation.replay_rows", jsonlEntry "evaluation/replay_rows.jsonl"),
    ("flywheel.query_outcomes", jsonlEntry "flywheel/query_outcomes.jsonl"),
    ("flywheel.query_judge_outcomes", jsonlEntry "flywheel/query_judge_outcomes.jsonl"),
    ("flywheel.term_events", jsonlEntry "flywheel/term_events.jsonl"),
    ("flywheel.term_outcomes", jsonlEntry "flywheel/term_outcomes.jsonl"),
    ("flywheel.query_rewrite_samples", jsonlEntry "flywheel/query_rewrite_samples.jsonl"),
    ("flywheel.dataset_export_manifest", jsonEntry "flywheel/dataset_export_manifest.json"),
    ("corpus.ingest_manifest", jsonEntry "corpus/ingest_manifest.json"),
    ("corpus.jd_documents", jsonlEntry "corpus/jd_documents.jsonl"),
    ("corpus.resume_subjects", jsonlEntry "corpus/resume_subjects.jsonl"),
    ("corpus.resume_documents", jsonlEntry "corpus/resume_documents.jsonl"),
    ("corpus.resume_observations", jsonlEntry "corpus/resume_observations.jsonl"),
    ("corpus.run_corpus_links", jsonlEntry "corpus/run_corpus_links.jsonl"),
    ("corpus.corpus_collections", jsonlEntry "corpus/corpus_collections.jsonl"),
    ("corpus.corpus_memberships", jsonlEntry "corpus/corpus_memberships.jsonl"),
    ("corpus.corpus_exports", jsonlEntry "corpus/corpus_exports.jsonl"),
    ("corpus.export_manifest", jsonEntry "corpus/export_manifest.json"),
    ("corpus.raw_payloads", collectionEntry "raw_payloads"),
    ("assets.provider_snapshots.liepin.cards",
      collectionEntry "assets/provider_snapshots/liepin/cards"),
    ("assets.provider_snapshots.liepin.details",
      collectionEntry "assets/provider_snapshots/liepin/details")]

def ROUND_JSONL : List String :=
  ["liepin_search_requests", "liepin_card_extraction", "liepin_detail_open_results",
    "scoring_calls", "scoring_input_refs", "scorecards"]

def ROUND_JSON : List String :=
  ["candidate_feedback_decision", "candidate_feedback_expression_evidence",
    "candidate_feedback_input", "candidate_feedback_terms", "controller_call", "controller_context",
    "query_resume_hits", "replay_snapshot", "llm_prf_call", "llm_prf_candidates",
    "llm_prf_grounding", "llm_prf_input", "liepin_connection_status", "liepin_detail_open_plan",
    "liepin_connector_metrics", "prf_policy_decision", "reflection_advice", "reflection_call",
    "reflection_context", "repair_controller_call", "repair_reflection_call", "rescue_decision",
    "retrieval_plan", "search_attempts", "search_observation", "second_lane_decision",
    "top_pool_snapshot", "tui_summary", "tui_summary_call", "controller_decision"]

def LEGACY_ROUND_CONTENT_TYPES : List String :=
  ["company_discovery_plan_call", "company_discovery_extract_call", "company_discovery_reduce_call"]

section Descriptor

-- the value of a digit of any script
variable (decimal : Char → Option Nat)

/-- The digits of a whole number, where one `_` may stand between two of them; `n` is what was read. -/
def readInt (n : Nat) : List Char → Option Nat
  | [] => some n
  | '_' :: c :: cs => (decimal c).bind fun digit => readInt (10 * n + digit) cs
  | c :: cs => (decimal c).bind fun digit => readInt (10 * n + digit) cs

/-- `int(text)` -/
def pyInt (text : String) : Option Int :=
  let unsigned (cs : List Char) : Option Nat :=
    match cs with
    | [] => none
    | c :: cs => (decimal c).bind fun digit => readInt decimal digit cs
  match (Py.strip text).toList with
  | '-' :: cs => (unsigned cs).map fun n => -n
  | '+' :: cs => (unsigned cs).map fun n => n
  | cs => (unsigned cs).map fun n => n

/-- `f"{round_no:02d}"` -/
def twoDigits (n : Int) : String := if 0 ≤ n ∧ n < 10 then "0" ++ toString n else toString n

def roundEntry (roundNo : Int) (stage filename contentType : String) : LogicalArtifactEntry :=
  { path := "rounds/" ++ twoDigits roundNo ++ "/" ++ stage ++ "/" ++ filename
    contentType, schemaVersion := some "v1" }

def roundLeaf (leaf : String) : Option (String × String) :=
  if leaf = "round_review" then some ("round_review.md", "text/markdown")
  else if leaf ∈ ROUND_JSONL then some (leaf ++ ".jsonl", "application/jsonl")
  else if leaf ∈ ROUND_JSON ∨ leaf ∈ LEGACY_ROUND_CONTENT_TYPES then
    some (leaf ++ ".json", "application/json")
  else none

def roundLeafEntry (logicalName roundText stage leaf : String) :
    Except ArtifactError LogicalArtifactEntry :=
  match roundLeaf leaf with
  | none => .error (.keyError logicalName)
  | some (filename, contentType) =>
    match pyInt decimal roundText with
    | none => .error (.valueError "invalid literal for int() with base 10")
    | some roundNo => .ok (roundEntry roundNo stage filename contentType)

def resolveDescriptor (logicalName : String) : Except ArtifactError LogicalArtifactEntry :=
  match STATIC_ENTRIES.lookup logicalName with
  | some entry => .ok entry
  | none =>
    if Py.startsWith logicalName "assets.prompts." then
      let promptName := String.ofList (logicalName.toList.drop "assets.prompts.".length)
      .ok { path := "assets/prompts/" ++ promptName, contentType := "text/plain" }
    else if Py.startsWith logicalName "round." then
      match logicalName.toList.splitOn '.' with
      | _ :: roundText :: stage :: leaf :: rest =>
        roundLeafEntry decimal logicalName (String.ofList roundText) (String.ofList stage)
          (String.ofList (['.'].intercalate (leaf :: rest)))
      | _ => .error (.valueError "not enough values to unpack")
    else .error (.keyError logicalName)

end Descriptor

end Artifacts

end SeekTalent
