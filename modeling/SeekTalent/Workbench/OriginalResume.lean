import SeekTalent.Base.JsonMask
import SeekTalent.Workbench.Redaction

/-!
# The original resume

A candidate's raw payload is shown in sections. A field whose key looks like a secret or like an id
of the provider is left out: at the top of the payload, and in the entries of the two lists. The
value of any other field is shown as it is, mappings and lists as their JSON, unless the text has a
word that is refused.
-/

namespace SeekTalent

/-- What is outside: the tables of the interpreter, `str.lower`, and the text of a number. -/
structure ResumeLibrary extends WordTables where
  /-- `str.lower` letter by letter -/
  lower : Char → List Char
  numberText : ℚ → String
  lower_ascii : ∀ c, c.toNat < 0x80 → lower c = [c.toLower]

structure OriginalResumeField where
  key : String
  label : String
  value : String
  deriving DecidableEq

structure OriginalResumeItem where
  title : String
  fields : List OriginalResumeField
  deriving DecidableEq

structure OriginalResumeSection where
  title : String
  items : List OriginalResumeItem
  deriving DecidableEq

namespace OriginalResume

def BASIC_FIELD_KEYS : List String :=
  ["candidateName", "candidate_name", "name", "age", "gender", "nowLocation", "location",
    "activeStatus", "jobState", "workYear"]

def EXPECTATION_FIELD_KEYS : List String :=
  ["expectedJobCategory", "expectedIndustry", "expectedLocation", "expectedSalary"]

def PROJECT_TEXT_FIELD_KEYS : List String := ["projectNameAll", "workSummariesAll"]

def STRUCTURED_SECTION_KEYS : List String :=
  BASIC_FIELD_KEYS ++ EXPECTATION_FIELD_KEYS ++ PROJECT_TEXT_FIELD_KEYS ++
    ["workExperienceList", "educationList"]

def FIELD_LABELS : List (String × String) :=
  [("candidateName", "姓名"), ("candidate_name", "姓名"), ("name", "姓名"), ("age", "年龄"),
    ("gender", "性别"), ("nowLocation", "当前地点"), ("location", "地点"),
    ("activeStatus", "活跃状态"), ("jobState", "求职状态"), ("workYear", "工作年限"),
    ("expectedJobCategory", "期望岗位"), ("expectedIndustry", "期望行业"),
    ("expectedLocation", "期望地点"), ("expectedSalary", "期望薪资"), ("company", "公司"),
    ("title", "职位"), ("startTime", "开始时间"), ("endTime", "结束时间"), ("summary", "经历描述"),
    ("school", "学校"), ("degree", "学历"), ("major", "专业"), ("projectNameAll", "项目名称"),
    ("workSummariesAll", "经历文本")]

def SENSITIVE_KEY_TOKENS : List String :=
  ["authorization", "authheader", "bearer", "cookie", "debug", "stack", "storage", "token",
    "websocket", "wsendpoint"]

def SENSITIVE_KEY_EXACT : List String :=
  ["artifact", "artifactpath", "artifactref", "artifactrefid", "artifactroot",
    "rawpayloadartifactrefid", "run_dir"]

def PROVIDER_METADATA_KEY_EXACT : List String :=
  ["createtime", "createdtime", "createdat", "updatetime", "updatedtime", "updatedat"]

def PROVIDER_METADATA_KEY_TOKENS : List String :=
  ["categoryid", "categoryids", "companyid", "companyids", "groupcompanyid", "groupcompanyids",
    "industryid", "industryids", "locationid", "locationids", "providerid", "resumeid", "schoolid",
    "schoolids", "sourceid", "uuid"]

/-- The words of `_safe_text` that refuse a text. -/
def FORBIDDEN : List String :=
  ["cookie", "authorization", "bearer ", "set-cookie", "authheader", "storagestate",
    "localstorage", "sessionstorage", "cdp", "websocket", "websocketdebuggerurl", "wsendpoint",
    "run_dir", "artifact", "provider_account_hash", "provider-secret", "source-secret", "token=",
    "ticket="]

section Fields

variable (lib : ResumeLibrary)

/-! ## 1. Keys -/

def isProviderMetadataKey (compactKey : String) : Bool :=
  compactKey ∈ PROVIDER_METADATA_KEY_EXACT || Py.endsWith compactKey "id" ||
    Py.endsWith compactKey "ids" || PROVIDER_METADATA_KEY_TOKENS.any (Py.contains compactKey ·)

def compactKey (key : String) : String :=
  String.ofList ((Py.casefold lib.toUnicodeTables key).toList.filter lib.isAlnum)

/-- What `_is_sensitive_resume_key` says of a compact key. -/
def isSensitiveCompact (compact : String) : Bool :=
  compact ∈ SENSITIVE_KEY_EXACT || SENSITIVE_KEY_TOKENS.any (Py.contains compact ·) ||
    isProviderMetadataKey compact

def isSensitiveResumeKey (key : String) : Bool := isSensitiveCompact (compactKey lib key)

/-! ## 2. Values -/

/-- `text.lower()`. The one letter for which its neighbours matter becomes no letter of ASCII. -/
def lowered (text : List Char) : List Char := text.flatMap lib.lower

/-- `needle in text.lower()` -/
def found (needle : String) (text : List Char) : Bool :=
  decide (needle.toList <:+: lowered lib text)

/-- `_safe_text` refuses the text, for a word or for an address. -/
def refused (text : List Char) : Bool :=
  FORBIDDEN.any (found lib · text) ||
    (found lib "://" text &&
      ["http://", "https://", "ws://", "wss://"].any (found lib · text))

/-- `_safe_text` of a text -/
def safeText (text : String) (maxLength : Nat) : Option String :=
  let text := Py.strip text
  if text = "" then none
  else if refused lib text.toList then none
  else some (String.ofList (text.toList.take maxLength))

def jsonText (value : Json) : String := String.ofList (Json.dumped lib.numberText value.sortKeys)

def resumeValueText (value : Json) : Option String :=
  match value with
  | .null => none
  | .string text => safeText lib (Py.strip text) 2000
  | .bool value => safeText lib (if value then "True" else "False") 2000
  | .number value => safeText lib (lib.numberText value) 2000
  | .array items => safeText lib (jsonText lib (.array items)) 2000
  | .object members => safeText lib (jsonText lib (.object members)) 2000

def fieldResponse (key : String) (value : Json) : Option OriginalResumeField :=
  if isSensitiveResumeKey lib key then none
  else
    ((resumeValueText lib value).filter (· ≠ "")).map fun text =>
      { key, label := (FIELD_LABELS.lookup key).getD key, value := text }

/-! ## 3. Sections -/

def visibleSection (title : String) (items : List OriginalResumeItem) :
    Option OriginalResumeSection := if items = [] then none else some { title, items }

def visibleItem (title : List OriginalResumeField → String) (fields : List OriginalResumeField) :
    List OriginalResumeItem := if fields = [] then [] else [{ title := title fields, fields }]

def fieldSection (title : String) (payload : JsonObject) (keys : List String) :
    Option OriginalResumeSection :=
  visibleSection title (visibleItem (fun _ => title)
    (keys.filterMap fun key => (payload.get key).bind (fieldResponse lib key)))

def joinedValues (fields : List OriginalResumeField) (keys : List String) : String :=
  Py.join " · " (keys.filterMap fun key =>
    ((fields.findRev? fun field => field.key = key).map (·.value)).filter (· ≠ ""))

def itemTitle (title : String) (index : Nat) (fields : List OriginalResumeField) : String :=
  let joined :=
    if title = "工作经历" then joinedValues fields ["title", "company"]
    else if title = "教育经历" then joinedValues fields ["school", "degree", "major"]
    else ""
  if joined ≠ "" then joined else title ++ " " ++ toString index

/-- What `_list_section` shows of one entry. -/
def listItem (title : String) (index : Nat) : Json → List OriginalResumeItem
  | .object members =>
    visibleItem (itemTitle title index)
      (members.filterMap fun member => fieldResponse lib member.1 member.2)
  | item =>
    visibleItem (fun _ => title ++ " " ++ toString index)
      (fieldResponse lib (title ++ "." ++ toString index) item).toList

def numberedItems (title : String) : Nat → List Json → List OriginalResumeItem
  | _, [] => []
  | index, item :: items => listItem lib title index item ++ numberedItems title (index + 1) items

def listSection (title : String) : Option Json → Option OriginalResumeSection
  | some (.array items) => visibleSection title (numberedItems lib title 1 items)
  | _ => none

def otherSection (payload : JsonObject) : Option OriginalResumeSection :=
  visibleSection "其他信息" (visibleItem (fun _ => "其他信息")
    ((payload.filter fun member => member.1 ∉ STRUCTURED_SECTION_KEYS).filterMap fun member =>
      fieldResponse lib member.1 member.2))

def visibleSections (payload : JsonObject) : List OriginalResumeSection :=
  [fieldSection lib "基本信息" payload BASIC_FIELD_KEYS,
    fieldSection lib "期望信息" payload EXPECTATION_FIELD_KEYS,
    listSection lib "工作经历" (payload.get "workExperienceList"),
    listSection lib "教育经历" (payload.get "educationList"),
    fieldSection lib "项目/经历文本" payload PROJECT_TEXT_FIELD_KEYS,
    otherSection lib payload].filterMap id

/-- `_project_original_resume`, of the payload that `_read_raw_payload` has found -/
def projectOriginalResume (providerName : String) (payload : Option JsonObject) :
    Option (List OriginalResumeSection) :=
  if Py.casefold lib.toUnicodeTables (Py.strip providerName) ≠ "cts" then none
  else
    match payload with
    | none => none
    | some payload =>
      let sections := visibleSections lib payload
      if sections = [] then none else some sections

end Fields

end OriginalResume

end SeekTalent
