import SeekTalent.Base.Loops
import SeekTalent.Query.FilterProjection

/-!
# Every field of a filter plan is accounted for

A field of the canonical plan ends as a filter of the provider, as a constraint of the runtime or
in a note that it was not sent, in one of them, and a field that was dropped ends nowhere. This is
so whenever the projection returns (`accounted`), and it returns unless a bound of a range cannot be
read: `int` raises on the controller's own words, and nothing catches it.
-/

namespace SeekTalent

open Stateful (bind_eq_ok map_eq_ok)

namespace FilterProjection

variable {tables : Py.UnicodeTables} {decimal : Char → Option Nat} {field other : FilterField}
variable {note start rest text : String} {value : ConstraintValue} {pinned merged : Filters}

/-! ## 1. What is wanted -/

def nativeName (field : FilterField) : String :=
  ((textNativeFields field).or (enumNativeFields field)).getD ""

def notSentNotes (field : FilterField) : List String :=
  [" was selected but empty after normalization.",
    " is explicitly unlimited and was not sent to CTS.",
    " does not match any supported CTS range and was not sent to CTS.",
    " spans 3 or more CTS ranges and was not sent to CTS."].map (field.name ++ ·)

def Begins (field : FilterField) (start note : String) : Prop :=
  (field.name ++ start).toList <+: note.toList

instance : Decidable (Begins field start note) := inferInstanceAs (Decidable (_ <+: _))

section Places

variable (result : ConstraintProjectionResult) (field : FilterField)

def Sent : Prop := ∃ value, (nativeName field, value) ∈ result.providerFilters

def RuntimeOnly : Prop := ∃ constraint ∈ result.runtimeOnlyConstraints, constraint.field = field

def NotedUnsent : Prop := ∃ note ∈ result.adapterNotes, note ∈ notSentNotes field

/-- The field is somewhere in the result, were it only in a note. -/
def Appears : Prop :=
  Sent result field ∨ RuntimeOnly result field ∨ ∃ note ∈ result.adapterNotes, Begins field " " note

end Places

def ExactlyOne (p q r : Prop) : Prop := (p ∧ ¬q ∧ ¬r) ∨ (¬p ∧ q ∧ ¬r) ∨ (¬p ∧ ¬q ∧ r)

/-- Every field of the plan is in one place, and what was dropped in none. -/
structure Accounted (canonical : ProposedFilterPlan) (dropped : List FilterField)
    (result : ConstraintProjectionResult) : Prop where
  one : ∀ field ∈ canonical.pinnedFilters.map (·.1) ++ canonical.optionalFilters.map (·.1),
    ExactlyOne (Sent result field) (RuntimeOnly result field) (NotedUnsent result field)
  blocking : ∀ constraint ∈ result.runtimeOnlyConstraints,
    (constraint.blocking = true ↔ constraint.field ∈ canonical.pinnedFilters.map (·.1))
  dropped : ∀ field ∈ dropped, ¬Appears result field

/-- The projection returns, and accounts for every field. -/
def ProjectionOk (tables : Py.UnicodeTables) (decimal : Char → Option Nat) (sheet : RequirementSheet)
    (plan : ProposedFilterPlan) : Prop :=
  ∃ result, projectConstraintsToCts tables decimal sheet plan = .ok result ∧
    Accounted (canonicalizeFilterPlan tables sheet plan) plan.droppedFilterFields result

/-! ## 2. Names and notes -/

theorem name_injective (h : field.name = other.name) : field = other := by
  cases field <;> cases other <;> first | rfl | exact absurd h (by decide)

theorem nativeName_injective (h : nativeName field = nativeName other) : field = other := by
  cases field <;> cases other <;> first | rfl | exact absurd h (by decide)

theorem Begins.append (h : Begins field start note) (rest : String) :
    Begins field start (note ++ rest) := by
  unfold Begins at h ⊢
  rw [String.toList_append (s := note)]
  exact h.trans (List.prefix_append _ _)

theorem begins_append (h : start.toList <+: text.toList) :
    Begins field start (field.name ++ text) := by
  unfold Begins
  rw [String.toList_append, String.toList_append]
  exact (List.prefix_append_right_inj _).mpr h

theorem Begins.mono (h : Begins field text note) (hstart : start.toList <+: text.toList) :
    Begins field start note := by
  have hlonger : (field.name ++ start).toList <+: (field.name ++ text).toList :=
    begins_append hstart
  unfold Begins at h ⊢
  exact hlonger.trans h

theorem eq_of_begins (h : Begins field " " note) (h' : Begins other " " note) : field = other := by
  have hletters : ∀ f : FilterField, f.name.toList.all (· ≠ ' ') = true := by
    intro f
    cases f <;> decide
  have hname : ∀ f : FilterField, ∀ c ∈ f.name.toList, decide (c ≠ ' ') = true :=
    fun f => List.all_eq_true.mp (hletters f)
  have hword : ∀ f : FilterField, Begins f " " note →
      note.toList.takeWhile (fun c => decide (c ≠ ' ')) = f.name.toList := by
    rintro f ⟨rest, hrest⟩
    rw [← hrest, String.toList_append, List.append_assoc, List.takeWhile_append_of_pos (hname f)]
    simp
  apply name_injective
  exact String.toList_inj.mp ((hword field h).symm.trans (hword other h'))

theorem begins_of_mem_notSentNotes (h : note ∈ notSentNotes field) : Begins field " " note := by
  obtain ⟨text, htext, rfl⟩ := List.mem_map.mp h
  have hblank : ∀ text ∈ [" was selected but empty after normalization.",
      " is explicitly unlimited and was not sent to CTS.",
      " does not match any supported CTS range and was not sent to CTS.",
      " spans 3 or more CTS ranges and was not sent to CTS."], " ".toList <+: text.toList := by
    decide
  exact begins_append (hblank text htext)

theorem notMem_notSentNotes (h : Begins field start note)
    (hstart : start = " mapped" ∨ start = " stayed") : note ∉ notSentNotes field := by
  intro hmem
  obtain ⟨text, htext, rfl⟩ := List.mem_map.mp hmem
  unfold Begins at h
  rw [String.toList_append, String.toList_append, List.prefix_append_right_inj] at h
  have hnone : ∀ start ∈ [" mapped", " stayed"], ∀ text ∈
      [" was selected but empty after normalization.",
        " is explicitly unlimited and was not sent to CTS.",
        " does not match any supported CTS range and was not sent to CTS.",
        " spans 3 or more CTS ranges and was not sent to CTS."], ¬start.toList <+: text.toList := by
    decide
  exact hnone start (by simpa using hstart) text htext h

/-! ## 3. A field with a code -/

/-- What is found out about a field with a code: the code, or a reason to keep it in the runtime,
or that it is not sent. -/
inductive EnumOk (field : FilterField) : EnumProjection → Prop
  | mapped (code : Int) {note : String} (h : Begins field " mapped" note) :
      EnumOk field (some code, note, false)
  | stayed {note : String} (h : Begins field " stayed" note) : EnumOk field (none, note, false)
  | unsent {note : String} (h : note ∈ notSentNotes field) : EnumOk field (none, note, true)

theorem begins_mappedNote (code : Int) (label : String) :
    Begins field " mapped" (mappedNote field code label) :=
  ((((begins_append (by decide)).append _).append _).append _).append _

theorem enumOk_direct (mapping : List (String × Int)) :
    EnumOk field (projectDirectEnum field value mapping) := by
  unfold projectDirectEnum
  split
  · exact .stayed (begins_append (by decide))
  · split
    · exact .stayed (((begins_append (by decide)).append _).append _)
    · exact .mapped _ (begins_mappedNote _ _)

theorem enumOk_schoolType : EnumOk .schoolTypeRequirement (projectSchoolTypeEnum tables value) := by
  unfold projectSchoolTypeEnum
  dsimp only
  split
  · exact .stayed (by decide)
  · exact .stayed (by decide)
  · split
    · exact .stayed (by decide)
    split
    · exact .stayed (by decide)
    split
    · exact .stayed (by decide +kernel)
    split
    · exact .mapped _ (by decide)
    split
    · exact .mapped _ (by decide)
    · exact .mapped _ (by decide)

/-! ## 4. Ranges that can be read -/

def boundTexts (start : String) (items : List String) : List String :=
  ((items.map Py.strip).filter (Py.startsWith · start)).map fun text =>
    String.ofList (text.toList.drop 4)

/-- The bounds are whole numbers, and a lower bound without an upper one is not too large for a
float. -/
structure Readable (decimal : Char → Option Nat) (items : List String) : Prop where
  ints : ∀ text ∈ boundTexts "min=" items ++ boundTexts "max=" items, ∃ n, int decimal text = .ok n
  small : boundTexts "max=" items = [] → ∀ text ∈ (boundTexts "min=" items).getLast?,
    ∀ n, int decimal text = .ok n → n < floatLimit

theorem boundTexts_append {items items' : List String} :
    boundTexts start (items ++ items') = boundTexts start items ++ boundTexts start items' := by
  unfold boundTexts
  rw [List.map_append, List.filter_append, List.map_append]

def LastBound (decimal : Char → Option Nat) (texts : List String) (bound : Option Int) : Prop :=
  (texts = [] ∧ bound = none) ∨
    ∃ text n, texts.getLast? = some text ∧ int decimal text = .ok n ∧ bound = some n

theorem readBound_cases (bounds : Option Int × Option Int) (item : String) :
    (∃ text, boundTexts "min=" [item] = [text] ∧ boundTexts "max=" [item] = [] ∧
      readBound decimal bounds item = (int decimal text).map fun lower => (some lower, bounds.2)) ∨
    (∃ text, boundTexts "min=" [item] = [] ∧ boundTexts "max=" [item] = [text] ∧
      readBound decimal bounds item = (int decimal text).map fun upper => (bounds.1, some upper)) ∨
    (boundTexts "min=" [item] = [] ∧ boundTexts "max=" [item] = [] ∧
      readBound decimal bounds item = .ok bounds) := by
  unfold readBound boundTexts
  dsimp only
  by_cases hmin : Py.startsWith (Py.strip item) "min=" = true
  · left
    have hmax : ¬Py.startsWith (Py.strip item) "max=" = true := by
      intro hmax
      have hmin := of_decide_eq_true hmin
      have hmax := of_decide_eq_true hmax
      have heq := (List.prefix_of_prefix_length_le hmin hmax (by decide)).eq_of_length (by decide)
      revert heq
      decide
    exact ⟨_, by simp [hmin]; rfl, by simp [hmax], by rw [if_pos hmin]⟩
  · by_cases hmax : Py.startsWith (Py.strip item) "max=" = true
    · right; left
      exact ⟨_, by simp [hmin], by simp [hmax]; rfl, by rw [if_neg hmin, if_pos hmax]⟩
    · right; right
      exact ⟨by simp [hmin], by simp [hmax], by rw [if_neg hmin, if_neg hmax]⟩

theorem foldlM_snoc (items : List String) (item : String) (bounds : Option Int × Option Int) :
    (items ++ [item]).foldlM (readBound decimal) bounds =
      (items.foldlM (readBound decimal) bounds >>= fun bounds => readBound decimal bounds item) := by
  rw [List.foldlM_append]
  simp

theorem lastBound_snoc {texts : List String} {n : Int} (h : int decimal text = .ok n) :
    LastBound decimal (texts ++ [text]) (some n) :=
  .inr ⟨text, n, List.getLast?_concat .., h, rfl⟩

theorem foldlM_readBound {items : List String} {result : Option Int × Option Int}
    (h : items.foldlM (readBound decimal) (none, none) = .ok result) :
    (∀ text ∈ boundTexts "min=" items ++ boundTexts "max=" items, ∃ n, int decimal text = .ok n) ∧
      LastBound decimal (boundTexts "min=" items) result.1 ∧
      LastBound decimal (boundTexts "max=" items) result.2 := by
  induction items using List.reverseRecOn generalizing result with
  | nil =>
    obtain rfl := Except.ok.inj h
    exact ⟨fun text hmem => absurd hmem List.not_mem_nil, .inl ⟨rfl, rfl⟩, .inl ⟨rfl, rfl⟩⟩
  | append_singleton items item ih =>
    rw [foldlM_snoc] at h
    obtain ⟨bounds, hbounds, hread⟩ := bind_eq_ok h
    obtain ⟨hints, hlower, hupper⟩ := ih hbounds
    rw [boundTexts_append, boundTexts_append]
    rcases readBound_cases bounds item with ⟨text, hmin, hmax, heq⟩ | ⟨text, hmin, hmax, heq⟩ |
      ⟨hmin, hmax, heq⟩
    · rw [heq] at hread
      obtain ⟨n, hn, rfl⟩ := map_eq_ok hread
      rw [hmin, hmax, List.append_nil]
      refine ⟨fun other hmem => ?_, lastBound_snoc hn, hupper⟩
      simp only [List.mem_append, List.mem_singleton] at hmem hints
      rcases hmem with (hmem | rfl) | hmem
      · exact hints other (.inl hmem)
      · exact ⟨n, hn⟩
      · exact hints other (.inr hmem)
    · rw [heq] at hread
      obtain ⟨n, hn, rfl⟩ := map_eq_ok hread
      rw [hmin, hmax, List.append_nil]
      refine ⟨fun other hmem => ?_, hlower, lastBound_snoc hn⟩
      simp only [List.mem_append, List.mem_singleton] at hmem hints
      rcases hmem with hmem | hmem | rfl
      · exact hints other (.inl hmem)
      · exact hints other (.inr hmem)
      · exact ⟨n, hn⟩
    · rw [heq] at hread
      obtain rfl := Except.ok.inj hread
      rw [hmin, hmax, List.append_nil, List.append_nil]
      exact ⟨hints, hlower, hupper⟩

theorem exists_foldlM {items : List String} (bounds : Option Int × Option Int)
    (h : ∀ text ∈ boundTexts "min=" items ++ boundTexts "max=" items,
      ∃ n, int decimal text = .ok n) :
    ∃ result, items.foldlM (readBound decimal) bounds = .ok result := by
  induction items generalizing bounds with
  | nil => exact ⟨bounds, rfl⟩
  | cons item items ih =>
    rw [← List.singleton_append, boundTexts_append, boundTexts_append] at h
    have hrest : ∀ text ∈ boundTexts "min=" items ++ boundTexts "max=" items,
        ∃ n, int decimal text = .ok n := by
      intro text hmem
      rcases List.mem_append.mp hmem with hmem | hmem
      · exact h text (List.mem_append_left _ (List.mem_append_right _ hmem))
      · exact h text (List.mem_append_right _ (List.mem_append_right _ hmem))
    rw [List.foldlM_cons]
    rcases readBound_cases bounds item with ⟨text, hmin, hmax, heq⟩ | ⟨text, hmin, hmax, heq⟩ |
      ⟨hmin, hmax, heq⟩
    · obtain ⟨n, hn⟩ := h text (by simp [hmin])
      rw [heq, hn]
      exact ih _ hrest
    · obtain ⟨n, hn⟩ := h text (by simp [hmax])
      rw [heq, hn]
      exact ih _ hrest
    · rw [heq]
      exact ih _ hrest

theorem LastBound.eq_none_iff {texts : List String} {bound : Option Int}
    (h : LastBound decimal texts bound) : bound = none ↔ texts = [] := by
  rcases h with ⟨rfl, rfl⟩ | ⟨text, n, hlast, -, rfl⟩
  · simp
  · refine iff_of_false (by simp) ?_
    rintro rfl
    cases hlast

/-! ## 5. Fields that can be projected -/

theorem rangeOverlap_eq {lower upper : Option Int} {bucket : Bucket}
    (h : upper = none → bucket.bucketMax = none →
      max (lower.getD 0) bucket.bucketMin < floatLimit) :
    ∃ overlap, rangeOverlap lower upper bucket = .ok overlap := by
  unfold rangeOverlap
  dsimp only
  split
  · next hmost => exact ⟨.infinite, if_neg (not_le.mpr (h rfl hmost))⟩
  · exact ⟨_, rfl⟩
  · exact ⟨_, rfl⟩
  · exact ⟨_, rfl⟩

section Range

variable {buckets : List Bucket} {tieOrder : List (String × Int)} {items : List String}

theorem enumOk_chooseRange (overlaps : List (Bucket × Overlap)) :
    EnumOk field (chooseRange field tieOrder overlaps) := by
  unfold chooseRange
  split
  · exact .unsent (List.mem_map_of_mem (by decide))
  · exact .mapped _ (begins_mappedNote _ _)
  · exact .mapped _ (begins_mappedNote _ _)
  · exact .unsent (List.mem_map_of_mem (by decide))

theorem enumOk_range {projection : EnumProjection}
    (h : projectRangeEnum decimal field value buckets tieOrder = .ok projection) :
    EnumOk field projection := by
  have hinvalid : EnumOk field (invalidRange field) := .stayed (begins_append (by decide))
  unfold projectRangeEnum at h
  split at h
  · obtain rfl := Except.ok.inj h
    exact hinvalid
  · obtain rfl := Except.ok.inj h
    exact hinvalid
  · obtain ⟨bounds, -, h⟩ := bind_eq_ok h
    split at h
    · obtain rfl := Except.ok.inj h
      exact hinvalid
    · obtain ⟨overlaps, -, h⟩ := bind_eq_ok h
      obtain rfl := Except.ok.inj h
      exact enumOk_chooseRange _

structure Open (buckets : List Bucket) : Prop where
  last : ∃ bucket ∈ buckets, bucket.bucketMax = none
  early : ∀ bucket ∈ buckets, bucket.bucketMin < floatLimit

theorem exists_range_iff (hopen : Open buckets) :
    (∃ projection, projectRangeEnum decimal field (.texts items) buckets tieOrder =
      .ok projection) ↔ Readable decimal items := by
  unfold projectRangeEnum parseNumericBounds
  dsimp only
  constructor
  · rintro ⟨projection, h⟩
    obtain ⟨parsed, hparsed, h⟩ := bind_eq_ok h
    obtain ⟨bounds, hbounds, hparsed⟩ := bind_eq_ok hparsed
    obtain ⟨hints, hlower, hupper⟩ := foldlM_readBound hbounds
    refine ⟨hints, fun hnone text htext n hn => ?_⟩
    have hmost : bounds.2 = none := hupper.eq_none_iff.mpr hnone
    have hleast : bounds.1 = some n := by
      rcases hlower with ⟨hempty, -⟩ | ⟨text', n', hlast, hn', hleast⟩
      · rw [hempty] at htext
        cases htext
      · rw [hlast] at htext
        obtain rfl := Option.some.inj htext
        rw [hn] at hn'
        rw [hleast, Except.ok.inj hn']
    obtain rfl : parsed = some bounds := by
      have h := Except.ok.inj hparsed
      rw [if_neg] at h
      · exact h.symm
      · intro heq
        rw [heq] at hleast
        cases hleast
    obtain ⟨overlaps, hoverlaps, -⟩ := bind_eq_ok h
    obtain ⟨bucket, hbucket, hend⟩ := hopen.last
    obtain ⟨overlap, -, hoverlap⟩ := Loops.exists_right (Loops.forall₂_of_ok hoverlaps) hbucket
    obtain ⟨width, hwidth, -⟩ := map_eq_ok hoverlap
    unfold rangeOverlap at hwidth
    rw [hmost, hleast, hend] at hwidth
    dsimp only at hwidth
    split at hwidth
    · cases hwidth
    · next hsmall => exact lt_of_le_of_lt (le_max_left ..) (not_le.mp hsmall)
  · intro hreadable
    obtain ⟨bounds, hbounds⟩ := exists_foldlM (none, none) hreadable.ints
    obtain ⟨-, hlower, hupper⟩ := foldlM_readBound hbounds
    rw [hbounds]
    by_cases hnone : bounds = (none, none)
    · refine ⟨invalidRange field, ?_⟩
      show (Except.bind (Except.ok (if bounds = (none, none) then none else some bounds)) _) = _
      rw [if_pos hnone]
      rfl
    · have hoverlaps : ∃ overlaps, buckets.mapM (fun bucket =>
          (rangeOverlap bounds.1 bounds.2 bucket).map fun overlap => (bucket, overlap)) =
            .ok overlaps := by
        apply Loops.exists_ok_iff.mpr
        intro bucket hbucket
        obtain ⟨overlap, hoverlap⟩ : ∃ overlap, rangeOverlap bounds.1 bounds.2 bucket = .ok overlap := by
          apply rangeOverlap_eq
          intro hmost _
          apply max_lt _ (hopen.early bucket hbucket)
          rcases hlower with ⟨-, hleast⟩ | ⟨text, n, hlast, hn, hleast⟩
          · rw [hleast]
            decide +kernel
          · rw [hleast]
            exact hreadable.small (hupper.eq_none_iff.mp hmost) text hlast n hn
        exact ⟨_, by rw [hoverlap]; rfl⟩
      obtain ⟨overlaps, hoverlaps⟩ := hoverlaps
      refine ⟨chooseRange field tieOrder (overlaps.filter fun overlap => overlap.2.positive), ?_⟩
      show (Except.bind (Except.ok (if bounds = (none, none) then none else some bounds)) _) = _
      rw [if_neg hnone]
      show Except.bind (buckets.mapM _) _ = _
      rw [hoverlaps]
      rfl

theorem open_experience : Open EXPERIENCE_BUCKETS := ⟨by decide, by decide +kernel⟩

theorem open_age : Open AGE_BUCKETS := ⟨by decide, by decide +kernel⟩

end Range

/-! ## 6. A field of the plan -/

theorem enumOk_projectEnumFilter {projection : EnumProjection}
    (h : projectEnumFilter tables decimal field value = .ok projection) :
    EnumOk field projection ∧ (isUnlimitedValue value = true → projection.2.2 = true) := by
  unfold projectEnumFilter at h
  split at h
  · obtain rfl := Except.ok.inj h
    exact ⟨.unsent (List.mem_map_of_mem (by decide)), fun _ => rfl⟩
  next hlimited =>
  refine ⟨?_, fun hunlimited => absurd hunlimited hlimited⟩
  split at h
  · obtain rfl := Except.ok.inj h
    exact enumOk_direct _
  · obtain rfl := Except.ok.inj h
    exact enumOk_schoolType
  · exact enumOk_range h
  · obtain rfl := Except.ok.inj h
    exact enumOk_direct _
  · exact enumOk_range h
  · obtain rfl := Except.ok.inj h
    exact .stayed (begins_append (by decide))

structure Placed (pinned : Filters) (field : FilterField) (out : Projected) : Prop where
  filter : ∀ entry ∈ out.filter, entry.1 = nativeName field
  constraint : ∀ constraint ∈ out.constraint,
    constraint.field = field ∧ (constraint.blocking = true ↔ field ∈ pinned.map (·.1))
  note : ∀ note ∈ out.note, Begins field " " note
  one : ExactlyOne (out.filter.isSome = true) (out.constraint.isSome = true)
    (∃ note ∈ out.note, note ∈ notSentNotes field)

theorem placed_projectField {out : Projected}
    (h : projectField tables decimal pinned (field, value) = .ok out) : Placed pinned field out := by
  unfold projectField at h
  dsimp only at h
  split at h
  next name hname =>
    have hnative : name = nativeName field := by
      unfold nativeName
      rw [hname]
      rfl
    split at h
    · obtain rfl := Except.ok.inj h
      have hunsent : field.name ++ " was selected but empty after normalization." ∈
          notSentNotes field := List.mem_map_of_mem (by decide)
      exact
        { filter := by simp
          constraint := by simp
          note := by simpa using begins_of_mem_notSentNotes hunsent
          one := .inr (.inr ⟨by simp, by simp, _, rfl, hunsent⟩) }
    · obtain rfl := Except.ok.inj h
      exact
        { filter := by simp [hnative]
          constraint := by simp
          note := by simp
          one := .inl ⟨by simp, by simp, by simp⟩ }
  next htext =>
    split at h
    · cases h
    next name hname =>
      have hnative : name = nativeName field := by
        unfold nativeName
        rw [htext, hname]
        rfl
      obtain ⟨projection, hprojection, h⟩ := bind_eq_ok h
      obtain ⟨hok, hunlimited⟩ := enumOk_projectEnumFilter hprojection
      cases hok with
      | mapped code hbegins =>
        obtain rfl := Except.ok.inj h
        have hsent := notMem_notSentNotes hbegins (.inl rfl)
        exact
          { filter := by simp [hnative]
            constraint := by simp
            note := by simpa using hbegins.mono (by decide)
            one := .inl ⟨by simp, by simp, by simpa using hsent⟩ }
      | stayed hbegins =>
        obtain rfl := Except.ok.inj h
        have hkept := notMem_notSentNotes hbegins (.inr rfl)
        have hlimited : ¬(false = true ∨ isUnlimitedValue value = true) := by
          rintro (hfalse | htrue)
          · cases hfalse
          · cases hunlimited htrue
        rw [if_neg hlimited]
        exact
          { filter := by simp
            constraint := by simp
            note := by simpa using hbegins.mono (by decide)
            one := .inr (.inl ⟨by simp, by simp, by simpa using hkept⟩) }
      | unsent hunsent =>
        obtain rfl := Except.ok.inj h
        rw [if_pos (.inl rfl)]
        exact
          { filter := by simp
            constraint := by simp
            note := by simpa using begins_of_mem_notSentNotes hunsent
            one := .inr (.inr ⟨by simp, by simp, _, rfl, hunsent⟩) }

def isRange : FilterField → Bool
  | .experienceRequirement | .ageRequirement => true
  | _ => false

theorem exists_enumFilter_iff :
    (∃ projection, projectEnumFilter tables decimal field value = .ok projection) ↔
      (isRange field = true → ∀ items, value = .texts items → Readable decimal items) := by
  unfold projectEnumFilter
  by_cases hunlimited : isUnlimitedValue value = true
  · rw [if_pos hunlimited]
    refine iff_of_true ⟨_, rfl⟩ ?_
    rintro - items rfl
    obtain rfl : items = [] := by simpa [isUnlimitedValue] using hunlimited
    exact ⟨fun text hmem => by simp [boundTexts] at hmem, fun _ text hmem => by
      simp [boundTexts] at hmem⟩
  · rw [if_neg hunlimited]
    have hrange : ∀ {buckets : List Bucket} {tieOrder : List (String × Int)}, Open buckets →
        ((∃ projection, projectRangeEnum decimal field value buckets tieOrder = .ok projection) ↔
          ∀ items, value = .texts items → Readable decimal items) := by
      intro buckets tieOrder hopen
      cases value with
      | text value => exact iff_of_true ⟨_, rfl⟩ (by simp)
      | number value => exact iff_of_true ⟨_, rfl⟩ (by simp)
      | texts items =>
        rw [exists_range_iff hopen]
        constructor
        · rintro hreadable _ ⟨⟩
          exact hreadable
        · exact fun hall => hall items rfl
    cases field with
    | experienceRequirement => simpa [isRange] using hrange open_experience
    | ageRequirement => simpa [isRange] using hrange open_age
    | _ => exact iff_of_true ⟨_, rfl⟩ (by simp [isRange])

theorem exists_projectField_iff :
    (∃ out, projectField tables decimal pinned (field, value) = .ok out) ↔
      (isRange field = true → ∀ items, value = .texts items → Readable decimal items) := by
  cases htext : textNativeFields field with
  | some name =>
    refine iff_of_true ?_ fun hrange => ?_
    · unfold projectField
      dsimp only
      rw [htext]
      cases projectTextFilter tables value with
      | none => exact ⟨_, rfl⟩
      | some projected => exact ⟨_, rfl⟩
    · cases field <;> first | (cases hrange; done) | cases htext
  | none =>
    obtain ⟨name, hname⟩ : ∃ name, enumNativeFields field = some name := by
      cases field <;> first | exact ⟨_, rfl⟩ | cases htext
    have henum := @exists_enumFilter_iff tables decimal field value
    rw [← henum]
    unfold projectField
    dsimp only
    rw [htext, hname]
    constructor
    · rintro ⟨out, h⟩
      obtain ⟨projection, hprojection, -⟩ := bind_eq_ok h
      exact ⟨projection, hprojection⟩
    · rintro ⟨⟨projected, note, skip⟩, hprojection⟩
      rw [hprojection]
      cases projected with
      | none => exact ⟨_, rfl⟩
      | some code => exact ⟨_, rfl⟩

/-! ## 7. All the fields -/

def RangesReadable (decimal : Char → Option Nat) (plan : ProposedFilterPlan) : Prop :=
  ∀ item ∈ mergedFilters plan, isRange item.1 = true → ∀ items, item.2 = .texts items →
    Readable decimal items

theorem nodup_mergedFilters (plan : ProposedFilterPlan) :
    ((mergedFilters plan).map (·.1)).Nodup := Table.nodup_keys_upsertAll List.nodup_nil

theorem mem_mergedFilters (plan : ProposedFilterPlan) :
    field ∈ (mergedFilters plan).map (·.1) ↔
      field ∈ plan.pinnedFilters.map (·.1) ++ plan.optionalFilters.map (·.1) := by
  unfold mergedFilters
  rw [Table.mem_map_key_upsertAll, List.map_append]
  simp

structure Outputs (pinned merged : Filters) (outputs : List Projected) : Prop where
  right : ∀ field ∈ merged.map (·.1), ∃ out ∈ outputs, Placed pinned field out ∧
    ∀ out' ∈ outputs, Placed pinned field out' → out' = out
  left : ∀ out ∈ outputs, ∃ field ∈ merged.map (·.1), Placed pinned field out

theorem Placed.eq_of_placed {out : Projected} (h : Placed pinned field out)
    (h' : Placed pinned other out) : field = other := by
  rcases h.one with ⟨hfilter, -⟩ | ⟨-, hconstraint, -⟩ | ⟨-, -, note, hnote, -⟩
  · obtain ⟨entry, hentry⟩ := Option.isSome_iff_exists.mp hfilter
    exact nativeName_injective ((h.filter entry hentry).symm.trans (h'.filter entry hentry))
  · obtain ⟨constraint, hconstraint⟩ := Option.isSome_iff_exists.mp hconstraint
    exact (h.constraint constraint hconstraint).1.symm.trans (h'.constraint constraint hconstraint).1
  · exact eq_of_begins (h.note note hnote) (h'.note note hnote)

theorem outputs_of_mapM {outputs : List Projected} (hnodup : (merged.map (·.1)).Nodup)
    (h : merged.mapM (projectField tables decimal pinned) = .ok outputs) :
    Outputs pinned merged outputs := by
  have hboth := Loops.forall₂_of_ok h
  refine ⟨fun field hfield => ?_, fun out hout => ?_⟩
  · obtain ⟨item, hitem, rfl⟩ := List.mem_map.mp hfield
    obtain ⟨out, hout, heq⟩ := Loops.exists_right hboth hitem
    refine ⟨out, hout, placed_projectField heq, fun out' hout' hplaced => ?_⟩
    obtain ⟨item', hitem', heq'⟩ := Loops.exists_left hboth hout'
    have hsame := hplaced.eq_of_placed (placed_projectField heq')
    obtain rfl := List.inj_on_of_nodup_map hnodup hitem hitem' hsame
    exact Except.ok.inj (heq'.symm.trans heq)
  · obtain ⟨item, hitem, heq⟩ := Loops.exists_left hboth hout
    exact ⟨item.1, List.mem_map_of_mem hitem, placed_projectField heq⟩

def resultOf (outputs : List Projected) : ConstraintProjectionResult :=
  { providerFilters := outputs.filterMap (·.filter)
    runtimeOnlyConstraints := outputs.filterMap (·.constraint)
    adapterNotes := outputs.filterMap (·.note) }

theorem Outputs.appears {outputs : List Projected} (h : Outputs pinned merged outputs)
    (happears : Appears (resultOf outputs) field) : field ∈ merged.map (·.1) := by
  obtain ⟨out, hout, hfield⟩ : ∃ out ∈ outputs, ∀ other, Placed pinned other out → field = other := by
    rcases happears with ⟨value, hmem⟩ | ⟨constraint, hmem, rfl⟩ | ⟨note, hmem, hbegins⟩
    · obtain ⟨out, hout, hfilter⟩ := List.mem_filterMap.mp hmem
      exact ⟨out, hout, fun other hplaced =>
        nativeName_injective (hplaced.filter _ hfilter)⟩
    · obtain ⟨out, hout, hconstraint⟩ := List.mem_filterMap.mp hmem
      exact ⟨out, hout, fun other hplaced => (hplaced.constraint _ hconstraint).1⟩
    · obtain ⟨out, hout, hnote⟩ := List.mem_filterMap.mp hmem
      exact ⟨out, hout, fun other hplaced => eq_of_begins hbegins (hplaced.note _ hnote)⟩
  obtain ⟨other, hother, hplaced⟩ := h.left out hout
  rw [hfield other hplaced]
  exact hother

theorem Outputs.one {outputs : List Projected} (h : Outputs pinned merged outputs)
    (hfield : field ∈ merged.map (·.1)) :
    ExactlyOne (Sent (resultOf outputs) field) (RuntimeOnly (resultOf outputs) field)
      (NotedUnsent (resultOf outputs) field) := by
  obtain ⟨out, hout, hplaced, hunique⟩ := h.right field hfield
  -- whatever names the field comes from its own turn
  have hown : ∀ out' ∈ outputs, (∀ other, Placed pinned other out' → field = other) → out' = out := by
    intro out' hout' hnames
    obtain ⟨other, -, hplaced'⟩ := h.left out' hout'
    obtain rfl := hnames other hplaced'
    exact hunique out' hout' hplaced'
  have hsent : Sent (resultOf outputs) field ↔ out.filter.isSome = true := by
    constructor
    · rintro ⟨value, hmem⟩
      obtain ⟨out', hout', hfilter⟩ := List.mem_filterMap.mp hmem
      obtain rfl := hown out' hout' fun other hplaced' =>
        nativeName_injective (hplaced'.filter _ hfilter)
      rw [hfilter]
      rfl
    · intro hsome
      obtain ⟨entry, hentry⟩ := Option.isSome_iff_exists.mp hsome
      refine ⟨entry.2, List.mem_filterMap.mpr ⟨out, hout, ?_⟩⟩
      rw [hentry, ← hplaced.filter entry hentry]
  have hruntime : RuntimeOnly (resultOf outputs) field ↔ out.constraint.isSome = true := by
    constructor
    · rintro ⟨constraint, hmem, rfl⟩
      obtain ⟨out', hout', hconstraint⟩ := List.mem_filterMap.mp hmem
      obtain rfl := hown out' hout' fun other hplaced' => (hplaced'.constraint _ hconstraint).1
      rw [hconstraint]
      rfl
    · intro hsome
      obtain ⟨constraint, hconstraint⟩ := Option.isSome_iff_exists.mp hsome
      exact ⟨constraint, List.mem_filterMap.mpr ⟨out, hout, hconstraint⟩,
        (hplaced.constraint constraint hconstraint).1⟩
  have hnoted : NotedUnsent (resultOf outputs) field ↔ ∃ note ∈ out.note, note ∈ notSentNotes field := by
    constructor
    · rintro ⟨note, hmem, hunsent⟩
      obtain ⟨out', hout', hnote⟩ := List.mem_filterMap.mp hmem
      obtain rfl := hown out' hout' fun other hplaced' =>
        eq_of_begins (begins_of_mem_notSentNotes hunsent) (hplaced'.note _ hnote)
      exact ⟨note, hnote, hunsent⟩
    · rintro ⟨note, hnote, hunsent⟩
      exact ⟨note, List.mem_filterMap.mpr ⟨out, hout, hnote⟩, hunsent⟩
  rw [hsent, hruntime, hnoted]
  exact hplaced.one

/-- **Accounting.** Whatever the projection returns accounts for every field. -/
theorem accounted {sheet : RequirementSheet} {plan : ProposedFilterPlan}
    {result : ConstraintProjectionResult}
    (h : projectConstraintsToCts tables decimal sheet plan = .ok result) :
    Accounted (canonicalizeFilterPlan tables sheet plan) plan.droppedFilterFields result := by
  obtain ⟨outputs, houtputs, hresult⟩ := bind_eq_ok h
  obtain rfl : resultOf outputs = result := Except.ok.inj hresult
  have hall := outputs_of_mapM (nodup_mergedFilters _) houtputs
  refine ⟨fun field hfield => hall.one ((mem_mergedFilters _).mpr hfield), ?_, ?_⟩
  · intro constraint hmem
    obtain ⟨out, hout, hconstraint⟩ := List.mem_filterMap.mp hmem
    obtain ⟨field, -, hplaced⟩ := hall.left out hout
    obtain ⟨rfl, hblocking⟩ := hplaced.constraint constraint hconstraint
    exact hblocking
  · intro field hdropped happears
    have hnone : field ∉ (canonicalizeFilterPlan tables sheet plan).pinnedFilters.map (·.1) ∧
        field ∉ (canonicalizeFilterPlan tables sheet plan).optionalFilters.map (·.1) :=
      dropped_notMem plan hdropped
    rcases List.mem_append.mp ((mem_mergedFilters _).mp (hall.appears happears)) with hmem | hmem
    · exact hnone.1 hmem
    · exact hnone.2 hmem

theorem exists_projection_iff {sheet : RequirementSheet} {plan : ProposedFilterPlan} :
    (∃ result, projectConstraintsToCts tables decimal sheet plan = .ok result) ↔
      RangesReadable decimal (canonicalizeFilterPlan tables sheet plan) := by
  constructor
  · rintro ⟨result, h⟩ item hitem
    obtain ⟨outputs, houtputs, -⟩ := bind_eq_ok h
    obtain ⟨out, -, hout⟩ := Loops.exists_right (Loops.forall₂_of_ok houtputs) hitem
    exact exists_projectField_iff.mp ⟨out, hout⟩
  · intro hreadable
    obtain ⟨outputs, houtputs⟩ := Loops.exists_ok_iff.mpr fun item hitem =>
      exists_projectField_iff.mpr (hreadable item hitem)
    unfold projectConstraintsToCts
    dsimp only
    rw [houtputs]
    exact ⟨_, rfl⟩

end FilterProjection

open FilterProjection

/-- **The projection returns and accounts for every field**, exactly when the bounds of its ranges
can be read. -/
theorem projectConstraintsToCts_spec (tables : Py.UnicodeTables) (decimal : Char → Option Nat)
    (sheet : RequirementSheet) (plan : ProposedFilterPlan) :
    ProjectionOk tables decimal sheet plan ↔
      RangesReadable decimal (canonicalizeFilterPlan tables sheet plan) := by
  rw [← exists_projection_iff]
  constructor
  · rintro ⟨result, h, -⟩
    exact ⟨result, h⟩
  · rintro ⟨result, h⟩
    exact ⟨result, h, accounted h⟩

/-! ### The controller's own words -/

def digitValue (c : Char) : Option Nat := if c.isDigit then some (c.toNat - '0'.toNat) else none

def experiencePlan : ProposedFilterPlan :=
  { optionalFilters := [(.experienceRequirement, .texts ["min=3年"])] }

theorem not_projectionOk : ¬∀ (tables : Py.UnicodeTables) (decimal : Char → Option Nat)
    (sheet : RequirementSheet) (plan : ProposedFilterPlan),
    ProjectionOk tables decimal sheet plan := by
  intro hall
  obtain ⟨result, hresult, -⟩ := hall .ascii digitValue { roleTitle := "Engineer" } experiencePlan
  have hraises : projectConstraintsToCts .ascii digitValue { roleTitle := "Engineer" } experiencePlan =
      .error (.valueError "invalid literal for int() with base 10") := by
    decide
  rw [hraises] at hresult
  cases hresult

end SeekTalent
