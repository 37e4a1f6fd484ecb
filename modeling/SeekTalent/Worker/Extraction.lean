import SeekTalent.Base.JsText

/-!
# What the worker reads from a candidate's page

The page is searched for an article of a candidate's detail, and the article for its attributes
and for the text of some classes. The article whose candidate id is the one asked for is taken,
and where there is none the first one.

`extractDetailFromDomFallback` also returns a redacted copy of the page and the health of its
selectors, which the opening of details does not use.
-/

namespace SeekTalent

namespace LiepinWorker

open Js

inductive ExtractionSource where
  | network
  | domFallback

def EXTRACTOR_VERSION : String := "liepin-passive-extractor-v1"

structure PrivacyMetadata where
  redactionPolicyVersion : String
  containsDirectContact : Bool

/-- The `rawPayload` of a detail. -/
structure RawDetailPayload where
  providerCandidateId : String
  providerDetailId : String
  title : String
  company : String
  summary : String
  skills : List String

/-- What a card is built from; a field may be missing. -/
structure CandidatePayload where
  candidateId : Option String := none
  title : Option String := none
  company : Option String := none
  location : Option String := none
  skills : List String := []
  summary : Option String := none
  experience : Option String := none
  education : Option String := none

structure WorkerCandidateDetail where
  providerCandidateId : String
  extractionSource : ExtractionSource
  extractorVersion : String
  rawPayload : RawDetailPayload
  searchableText : String
  privacy : PrivacyMetadata
  missingFields : List String
  providerDetailId : String

/-! ## 1. Patterns -/

/-- `["']` -/
def quote : Regex := oneOf ['"', '\'']

/-- `[^"']` -/
def unquoted : Regex := noneOf ['"', '\'']

/-- `[^>]*class=["'][^"']*\bname\b[^"']*["'][^>]*>`: the rest of a tag with the class -/
def restOfTagWithClass (name : String) : Regex :=
  .all [.star (noneOf ['>']), textIgnoreCase "class=", quote, .star unquoted, wordEdge,
    textIgnoreCase name, wordEdge, .star unquoted, quote, .star (noneOf ['>']), .text ">"]

def articlePattern : Regex :=
  .all [textIgnoreCase "<article", wordEdge, restOfTagWithClass "candidate-detail",
    .lazyStar anything, textIgnoreCase "</article>"]

/-- `<li[^>]*>([\s\S]*?)<\/li>` -/
def itemPattern : List Regex :=
  [.all [textIgnoreCase "<li", .star (noneOf ['>']), .text ">"], .lazyStar anything,
    textIgnoreCase "</li>"]

/-- `name=["']([^"']+)["']` -/
def attrPattern (name : String) : List Regex :=
  [.seq (textIgnoreCase (name ++ "=")) quote, .atLeast 1 unquoted, quote]

/-- `<[^>]*class=["'][^"']*\bname\b[^"']*["'][^>]*>([\s\S]*?)<\/[^>]+>` -/
def classPattern (className : String) : List Regex :=
  [.seq (.text "<") (restOfTagWithClass className), .lazyStar anything,
    .all [.text "</", .atLeast 1 (noneOf ['>']), .text ">"]]

def CONTACT_PATTERN : Regex :=
  .alt
    (.all [.atLeast 1 (.char fun c => c.isAlphanum || c ∈ ['.', '_', '%', '+', '-']), .text "@",
      .atLeast 1 (.char fun c => c.isAlphanum || c ∈ ['.', '-']), .text ".",
      .atLeast 2 (.char Char.isAlpha)])
    (.all [.look fun before _ => !before.any Char.isDigit, .text "1",
      .char fun c => '3' ≤ c && c ≤ '9', .exactly 9 (.char Char.isDigit),
      .look fun _ after => !after.any Char.isDigit])

/-! ## 2. Reading -/

def cleanText (value : String) : String :=
  trim (Regex.sub (.atLeast 1 space) " "
    (Regex.sub (.all [.text "<", .atLeast 1 (noneOf ['>']), .text ">"]) " " value))

/-- `match?.[1] ?? ""` for a pattern whose second part is its group. -/
def firstGroup (pattern : List Regex) (value : String) : String :=
  ((Regex.searchGroups pattern value).bind (·[1]?)).getD ""

def attrValue (fragment name : String) : String :=
  cleanText (firstGroup (attrPattern name) fragment)

def textForClass (fragment className : String) : String :=
  cleanText (firstGroup (classPattern className) fragment)

def stringValue (value : Option String) : String := (value.map trim).getD ""

def normalizeSearchableText (parts : List String) : String :=
  trim (Regex.sub (.atLeast 1 space) " " (Py.join " " (parts.filter (· ≠ ""))))

def missingWhenEmpty (value field : String) : List String := if value = "" then [field] else []

def detailFragments (html : String) : List String := articlePattern.findAll html

def chosenFragment (html candidateId : String) : String :=
  ((detailFragments html).find? fun entry =>
    candidateId = "" || attrValue entry "data-candidate-id" = candidateId).getD
    ((detailFragments html).head?.getD "")

/-- `buildCard`, with the detail's id: a detail misses one more field where that is empty. -/
def buildDetail (payload : CandidatePayload) (extractionSource : ExtractionSource)
    (privacy : PrivacyMetadata) (rawPayload : RawDetailPayload) (providerDetailId : String) :
    WorkerCandidateDetail :=
  let providerCandidateId := stringValue payload.candidateId
  let title := stringValue payload.title
  { providerCandidateId
    extractionSource
    extractorVersion := EXTRACTOR_VERSION
    rawPayload
    searchableText := normalizeSearchableText
      ([title, stringValue payload.company, stringValue payload.location] ++ payload.skills ++
        [stringValue payload.summary, stringValue payload.experience,
          stringValue payload.education])
    privacy
    missingFields := missingWhenEmpty providerCandidateId "candidateId" ++
      missingWhenEmpty title "title" ++ missingWhenEmpty providerDetailId "detailId"
    providerDetailId }

def extractDetailFromDomFallback (html candidateId : String) : WorkerCandidateDetail :=
  let fragment := chosenFragment html candidateId
  let providerCandidateId := attrValue fragment "data-candidate-id"
  let detailId := attrValue fragment "data-detail-id"
  let providerDetailId := if detailId = "" then providerCandidateId else detailId
  let title := textForClass fragment "candidate-title"
  let company := textForClass fragment "candidate-company"
  let summary := textForClass fragment "candidate-summary"
  let skills := (Regex.findAllGroups itemPattern fragment).map fun groups =>
    cleanText (groups[1]?.getD "")
  buildDetail
    { candidateId := some providerCandidateId, title := some title, company := some company,
      summary := some summary, skills }
    .domFallback
    { redactionPolicyVersion := "liepin-fixture-redaction-v1"
      containsDirectContact := CONTACT_PATTERN.search html }
    { providerCandidateId, providerDetailId, title, company, summary, skills }
    providerDetailId

/-! ## 3. What a detail lacks -/

@[simp] theorem trim_cleanText (value : String) : trim (cleanText value) = cleanText value :=
  trim_trim _

section

variable {html candidateId : String}

theorem stringValue_attrValue (fragment name : String) :
    stringValue (some (attrValue fragment name)) = attrValue fragment name := by
  simp [stringValue, attrValue]

theorem stringValue_textForClass (fragment className : String) :
    stringValue (some (textForClass fragment className)) = textForClass fragment className := by
  simp [stringValue, textForClass]

theorem missingWhenEmpty_eq_nil_iff {value field : String} :
    missingWhenEmpty value field = [] ↔ value ≠ "" := by
  unfold missingWhenEmpty
  split <;> simp [*]

@[simp] theorem providerCandidateId_extract :
    (extractDetailFromDomFallback html candidateId).providerCandidateId =
      attrValue (chosenFragment html candidateId) "data-candidate-id" :=
  stringValue_attrValue _ _

theorem missingFields_extract :
    (extractDetailFromDomFallback html candidateId).missingFields = [] ↔
      attrValue (chosenFragment html candidateId) "data-candidate-id" ≠ "" ∧
        textForClass (chosenFragment html candidateId) "candidate-title" ≠ "" := by
  unfold extractDetailFromDomFallback buildDetail
  dsimp only
  rw [stringValue_attrValue, stringValue_textForClass, List.append_eq_nil_iff,
    List.append_eq_nil_iff]
  simp only [missingWhenEmpty_eq_nil_iff]
  constructor
  · intro h
    exact h.1
  · intro h
    refine ⟨h, ?_⟩
    split
    · exact h.1
    · assumption

end

end LiepinWorker

end SeekTalent
