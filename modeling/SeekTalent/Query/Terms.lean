import SeekTalent.Base.PyText

/-!
# Query terms

The terms a search may be made of, as `models.py` has them. A term is compared by its key:
white space normalized and case folded (`queryTermKey`).
-/

namespace SeekTalent

inductive QueryTermSource where
  | jobTitle
  | jd
  | notes
  | reflection
  | candidateFeedback
  deriving DecidableEq

inductive QueryTermCategory where
  | roleAnchor
  | domain
  | tooling
  | expansion
  | company
  deriving DecidableEq

inductive QueryRetrievalRole where
  | roleAnchor
  | coreSkill
  | primaryRoleAnchor
  | secondaryTitleAnchor
  | domainContext
  | frameworkTool
  | filterOnly
  | scoreOnly
  deriving DecidableEq

inductive Queryability where
  | admitted
  | scoreOnly
  | filterOnly
  | blocked
  deriving DecidableEq

structure QueryTermCandidate where
  term : String
  source : QueryTermSource
  category : QueryTermCategory
  priority : Int
  evidence : String
  firstAddedRound : Int
  active : Bool := true
  retrievalRole : QueryRetrievalRole := .domainContext
  queryability : Queryability := .admitted
  family : String := "domain.unknown"
  deriving DecidableEq

def isPrimaryAnchorRole (role : QueryRetrievalRole) : Bool :=
  role ∈ [.primaryRoleAnchor, .roleAnchor]

def isTitleAnchorRole (role : QueryRetrievalRole) : Bool :=
  role ∈ [.primaryRoleAnchor, .secondaryTitleAnchor, .roleAnchor]

namespace QueryTermCandidate

/-- `_is_primary_anchor_candidate` -/
def IsPrimaryAnchor (item : QueryTermCandidate) : Prop :=
  item.queryability = .admitted ∧ isPrimaryAnchorRole item.retrievalRole = true

/-- `_is_title_anchor_candidate` -/
def IsTitleAnchor (item : QueryTermCandidate) : Prop :=
  item.queryability = .admitted ∧
    (isPrimaryAnchorRole item.retrievalRole = true ∨ item.retrievalRole = .secondaryTitleAnchor)

instance (item : QueryTermCandidate) : Decidable item.IsPrimaryAnchor :=
  inferInstanceAs (Decidable (_ ∧ _))

instance (item : QueryTermCandidate) : Decidable item.IsTitleAnchor :=
  inferInstanceAs (Decidable (_ ∧ _))

theorem IsPrimaryAnchor.isTitleAnchor {item : QueryTermCandidate} (h : item.IsPrimaryAnchor) :
    item.IsTitleAnchor :=
  ⟨h.1, .inl h.2⟩

end QueryTermCandidate

def normalizeTerm (term : String) : String := Py.join " " (Py.split (Py.strip term))

def queryTermKey (tables : Py.UnicodeTables) (term : String) : String :=
  Py.casefold tables (normalizeTerm term)

/-- The loop of `unique_strings`. -/
def uniqueStringsFrom (tables : Py.UnicodeTables) (seen : List String) :
    List String → List String
  | [] => []
  | value :: rest =>
    let clean := Py.strip value
    let key := Py.casefold tables clean
    if clean = "" ∨ key ∈ seen then uniqueStringsFrom tables seen rest
    else clean :: uniqueStringsFrom tables (key :: seen) rest

def uniqueStrings (tables : Py.UnicodeTables) (values : List String) : List String :=
  uniqueStringsFrom tables [] values

variable {tables : Py.UnicodeTables} {term : String} {terms seen : List String}

theorem normalizeTerm_eq (h : Py.Tidy term) : normalizeTerm term = term := by
  rw [normalizeTerm, h.strip_eq, Py.join_split h]

theorem queryTermKey_eq (h : Py.Tidy term) : queryTermKey tables term = Py.casefold tables term := by
  rw [queryTermKey, normalizeTerm_eq h]

theorem uniqueStringsFrom_eq (htidy : ∀ t ∈ terms, Py.Tidy t ∧ t ≠ "")
    (hkeys : (terms.map (Py.casefold tables)).Nodup)
    (hseen : ∀ t ∈ terms, Py.casefold tables t ∉ seen) :
    uniqueStringsFrom tables seen terms = terms := by
  induction terms generalizing seen with
  | nil => rfl
  | cons t rest ih =>
    obtain ⟨htidyT, hne⟩ := htidy t (List.mem_cons_self ..)
    have hnew := hseen t (List.mem_cons_self ..)
    rw [List.map_cons, List.nodup_cons] at hkeys
    simp only [uniqueStringsFrom, htidyT.strip_eq, hne, hnew, or_self, if_false]
    congr 1
    apply ih (fun u hu => htidy u (List.mem_cons_of_mem t hu)) hkeys.2
    intro u hu hmem
    rcases List.mem_cons.mp hmem with heq | hmem
    · exact hkeys.1 (heq ▸ List.mem_map_of_mem hu)
    · exact hseen u (List.mem_cons_of_mem t hu) hmem

theorem uniqueStrings_eq (htidy : ∀ t ∈ terms, Py.Tidy t ∧ t ≠ "")
    (hkeys : (terms.map (Py.casefold tables)).Nodup) : uniqueStrings tables terms = terms :=
  uniqueStringsFrom_eq htidy hkeys fun _ _ h => absurd h List.not_mem_nil

/-! ## Requirements -/

structure DegreeRequirement where
  canonicalDegree : String
  rawText : String
  deriving DecidableEq

structure SchoolTypeRequirement where
  canonicalTypes : List String := []
  rawText : String
  deriving DecidableEq

structure ExperienceRequirement where
  minYears : Option Int := none
  maxYears : Option Int := none
  rawText : String
  deriving DecidableEq

structure GenderRequirement where
  canonicalGender : String
  rawText : String
  deriving DecidableEq

structure AgeRequirement where
  minAge : Option Int := none
  maxAge : Option Int := none
  rawText : String
  deriving DecidableEq

structure HardConstraintSlots where
  locations : List String := []
  schoolNames : List String := []
  degreeRequirement : Option DegreeRequirement := none
  schoolTypeRequirement : Option SchoolTypeRequirement := none
  experienceRequirement : Option ExperienceRequirement := none
  genderRequirement : Option GenderRequirement := none
  ageRequirement : Option AgeRequirement := none
  companyNames : List String := []
  deriving DecidableEq

structure PreferenceSlots where
  preferredLocations : List String := []
  preferredCompanies : List String := []
  deriving DecidableEq

end SeekTalent
