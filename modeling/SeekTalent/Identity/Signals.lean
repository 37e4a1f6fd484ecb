import SeekTalent.Base.PyText
import SeekTalent.Models

/-!
# Identity signals and keys

What the runtime knows about the person behind a resume (`RuntimeIdentitySignals`), and the
keys it derives from that: two upserts with a common key are taken for one person. The
first key, by strength, is the primary one; a new identity gets its id from it.

`sha256` is the hex digest of the text in UTF-8.
-/

namespace SeekTalent

structure RuntimeIdentitySignals where
  normalizedName : Option String := none
  isMaskedName : Bool := false
  currentCompanyNorm : Option String := none
  currentTitleNorm : Option String := none
  schoolNorms : List String := []
  workChronologyFingerprints : List String := []
  providerCandidateKeyHash : Option String := none
  protectedContactHashes : List String := []

/-- What `if text:` leaves of a text: it is there, and not empty. -/
def present (text : Option String) : Option String := text.filter (· ≠ "")

section Keys

variable (sha256 : String → String)

/-- The key from the name and what else tells people apart. A name alone is not enough. -/
def identityFieldsKey (signals : RuntimeIdentitySignals) : Option String :=
  (present signals.normalizedName).bind fun name =>
    let distinctiveParts :=
      [signals.currentCompanyNorm.getD "", signals.currentTitleNorm.getD "",
        Py.join "|" signals.schoolNorms, Py.join "|" signals.workChronologyFingerprints]
    if distinctiveParts.any (· ≠ "") then
      some ("identity-fields:" ++ sha256 (Py.join "||" (name :: distinctiveParts)))
    else none

def contactKeys (signals : RuntimeIdentitySignals) : List String :=
  (Py.sorted signals.protectedContactHashes).map ("contact:" ++ ·)

def providerKey (signals : RuntimeIdentitySignals) : Option String :=
  (present signals.providerCandidateKeyHash).map ("provider:" ++ ·)

def identityKeys (signals : RuntimeIdentitySignals) (evidenceId : String) : List String :=
  match contactKeys signals ++ (providerKey signals).toList with
  | [] =>
    match if signals.isMaskedName then none else identityFieldsKey sha256 signals with
    | some key => [key]
    | none => ["evidence:" ++ evidenceId]
  | keys => keys

theorem identityKeys_ne_nil (signals : RuntimeIdentitySignals) (evidenceId : String) :
    identityKeys sha256 signals evidenceId ≠ [] := by
  unfold identityKeys
  split
  · split <;> simp
  · rename_i hne
    exact hne

def primaryIdentityKey (signals : RuntimeIdentitySignals) (evidenceId : String) : String :=
  match contactKeys signals, providerKey signals with
  | contact :: _, _ => contact
  | [], some provider => provider
  | [], none => (identityKeys sha256 signals evidenceId).head (identityKeys_ne_nil sha256 signals evidenceId)

theorem primaryIdentityKey_mem (signals : RuntimeIdentitySignals) (evidenceId : String) :
    primaryIdentityKey sha256 signals evidenceId ∈ identityKeys sha256 signals evidenceId := by
  unfold primaryIdentityKey
  split
  · rename_i contact rest hcontact
    simp [identityKeys, hcontact]
  · rename_i provider hcontact hprovider
    simp [identityKeys, hcontact, hprovider]
  · exact List.head_mem _

/-- `_stable_identity_id`: sixteen hex digits of the key's digest. -/
def stableIdentityId (identityKey : String) : String :=
  "identity-" ++ String.ofList ((sha256 identityKey).toList.take 16)

end Keys

inductive StrongestSignal where
  | protectedContactHash
  | providerCandidateKeyHash
  | maskedNameOnly
  | normalizedIdentityFields
  deriving DecidableEq

def strongestSignalCode (signals : RuntimeIdentitySignals) : StrongestSignal :=
  if signals.protectedContactHashes ≠ [] then .protectedContactHash
  else if (present signals.providerCandidateKeyHash).isSome then .providerCandidateKeyHash
  else if signals.isMaskedName then .maskedNameOnly
  else .normalizedIdentityFields

section Candidate

variable (tables : Py.UnicodeTables)

def normalizeIdentityText (value : String) : String :=
  Py.join " " (Py.split (Py.casefold tables (Py.strip value)))

/-- `re.fullmatch(r"候选人\d+", text)` -/
def isNumberedCandidate (text : String) : Bool :=
  match text.toList with
  | '候' :: '选' :: '人' :: d :: digits => (d :: digits).all tables.isDecimal
  | _ => false

def isMaskedIdentityName : Option String → Bool
  | none => false
  | some value =>
    let text := Py.strip value
    text = "" || Py.casefold tables text ∈ ["匿名", "候选人", "candidate", "-", "--"] ||
      Py.contains text "*" || Py.contains text "某" || Py.contains text "女士" ||
      Py.contains text "先生" || isNumberedCandidate tables text

/-- One recent job: company, title and duration, those that are known. -/
def chronologyFingerprint (item : NormalizedExperience) : String :=
  Py.join ":" ([normalizeIdentityText tables item.company, normalizeIdentityText tables item.title,
    normalizeIdentityText tables item.duration].filter (· ≠ ""))

/-- The jobs of the normalized resume, or else of the candidate's own summaries. -/
def chronology (candidate : ResumeCandidate) (normalized : Option NormalizedResume) :
    List String :=
  match (((normalized.map (·.recentExperiences)).getD []).map
      (chronologyFingerprint tables)).filter (· ≠ "") with
  | [] =>
    (candidate.workExperienceSummaries.map (normalizeIdentityText tables)).filter (· ≠ "")
  | fingerprints => fingerprints

def identitySignalsForCandidate (candidate : ResumeCandidate)
    (normalized : Option NormalizedResume) (evidence : Option RuntimeSourceEvidence) :
    RuntimeIdentitySignals :=
  let stripped (field : NormalizedResume → String) : Option String :=
    (present (normalized.map field)).map Py.strip
  let name := stripped (·.candidateName)
  { normalizedName := (present name).map (normalizeIdentityText tables)
    isMaskedName := isMaskedIdentityName tables name
    currentCompanyNorm :=
      (present (stripped (·.currentCompany))).map (normalizeIdentityText tables)
    currentTitleNorm := (present (stripped (·.currentTitle))).map (normalizeIdentityText tables)
    schoolNorms :=
      ((normalized.map (·.educationSummary)).toList.filter (Py.strip · ≠ "")).map
        (normalizeIdentityText tables)
    workChronologyFingerprints := Py.sortedSet (chronology tables candidate normalized)
    providerCandidateKeyHash := evidence.map (·.providerCandidateKeyHash)
    protectedContactHashes := (evidence.map (·.protectedContactHashes)).getD [] }

end Candidate

end SeekTalent
