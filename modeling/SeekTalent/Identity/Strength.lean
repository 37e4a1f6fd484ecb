import SeekTalent.Identity.Aliases

/-!
# The strongest signal of an identity

An identity says by which signal its resumes were taken for one person, and what is shown of it
depends on how strong that signal is. An upsert writes the signal of its own call over what was
there, and a merge drops the signal of the identity that goes away. So `strongest_signal` is the
signal of the last upsert, and the strongest one as long as no upsert is weaker than what it meets
(`strongest_iff`).
-/

namespace SeekTalent

/-- How strong a signal is: a contact hash over a provider key hash, over identity fields, over
    a masked name. -/
def StrongestSignal.strength : StrongestSignal → Nat
  | .protectedContactHash => 3
  | .providerCandidateKeyHash => 2
  | .normalizedIdentityFields => 1
  | .maskedNameOnly => 0

def Upsert.strength (call : Upsert) : Nat := (strongestSignalCode call.signals).strength

open RuntimeCandidateIdentityIndex

/-- Every identity has the strongest of the signals of the calls that went into it. -/
def HasStrongest (calls : List Upsert) (index : RuntimeCandidateIdentityIndex) : Prop :=
  ∀ identity ∈ index.identities, ∃ signal, identity.strongestSignal = some signal ∧
    (∃ u ∈ calls, u.resumeId ∈ identity.resumeIds ∧ strongestSignalCode u.signals = signal) ∧
    ∀ u ∈ calls, u.resumeId ∈ identity.resumeIds → u.strength ≤ signal.strength

/-- A call is at least as strong as the signals of the identities it is going to merge. -/
def AsStrong (sha256 : String → String) (index : RuntimeCandidateIdentityIndex) (call : Upsert) :
    Prop :=
  ∀ identity ∈ index.identities,
    identity.identityId ∈ index.existingIdentityIds sha256 call ∨
        identity.identityId = index.targetIdentityId sha256 call →
      ∀ signal, identity.strongestSignal = some signal → signal.strength ≤ call.strength

section Step

variable {sha256 : String → String} {index : RuntimeCandidateIdentityIndex} {call u : Upsert}
variable {calls : List Upsert} {row : RuntimeCandidateIdentity} {id : String}

structure Met (calls : List Upsert) (index : RuntimeCandidateIdentityIndex) : Prop where
  functional : index.Functional
  live : index.LiveLabels
  aliased : index.Aliased
  resumes : ∀ u ∈ calls, ∃ id, index.Holds (.resume u.resumeId) id

theorem met_empty : Met [] {} := by
  have hinv : Consistent id [] {} := consistent_empty
  have hkept : AliasesKept id [] {} := aliasesKept_empty
  exact ⟨hinv.functional, hinv.live, hkept.aliased, by simp⟩

theorem Met.upsertCandidate (h : Met calls index) :
    Met (calls ++ [call]) (index.upsertCandidate sha256 call) := by
  have hHolds := (upsertCandidate_spec sha256 call h.live).1
  refine ⟨h.functional.upsertCandidate h.live, h.live.upsertCandidate h.functional,
    (alias_upsertCandidate sha256 call h.live h.aliased).1, ?_⟩
  intro u hu
  rcases List.mem_append.mp hu with hu | hu
  · obtain ⟨id, hid⟩ := h.resumes u hu
    exact ⟨_, (hHolds _ _).mpr (.inr ⟨id, hid, rfl⟩)⟩
  · rw [List.mem_singleton.mp hu]
    exact ⟨_, (hHolds _ _).mpr (.inl ⟨Upsert.resumeId_mem_tokens, rfl⟩)⟩

theorem mem_resumeIds_iff {r : String} (hrow : row ∈ index.identities) :
    r ∈ row.resumeIds ↔ index.Holds (.resume r) row.identityId :=
  (rowHolds_iff_of_mem index.nodup_ids hrow).symm

theorem exists_merged (h : Met calls index) (hu : u ∈ calls)
    (hr : (index.upsertCandidate sha256 call).Holds (.resume u.resumeId)
      (index.targetIdentityId sha256 call)) :
    ∃ row ∈ index.identities, u.resumeId ∈ row.resumeIds ∧
      (row.identityId ∈ index.existingIdentityIds sha256 call ∨
        row.identityId = index.targetIdentityId sha256 call) := by
  have hmerged : ∃ id, index.Holds (.resume u.resumeId) id ∧
      (id ∈ index.existingIdentityIds sha256 call ∨ id = index.targetIdentityId sha256 call) := by
    rcases ((upsertCandidate_spec sha256 call h.live).1 _ _).mp hr with ⟨htoken, -⟩ | ⟨id, hid, heq⟩
    · obtain ⟨id, hid⟩ := h.resumes u hu
      exact ⟨id, hid, .inl (mem_existingIdentityIds.mpr ⟨_, htoken, hid⟩)⟩
    · refine ⟨id, hid, ?_⟩
      split at heq
      · rename_i hex
        exact .inl hex
      · exact .inr heq.symm
  obtain ⟨id, hid, hex⟩ := hmerged
  obtain ⟨row, hrow, rfl⟩ := mem_ids_iff.mp (h.live _ _ hid)
  exact ⟨row, hrow, (mem_resumeIds_iff hrow).mpr hid, hex⟩

/-- **One upsert** leaves the strongest signals exactly if it is as strong as what it merges. -/
theorem hasStrongest_upsertCandidate (h : Met calls index) (hstrong : HasStrongest calls index) :
    HasStrongest (calls ++ [call]) (index.upsertCandidate sha256 call) ↔
      AsStrong sha256 index call := by
  obtain ⟨hHolds, hIds⟩ := upsertCandidate_spec sha256 call h.live
  have hRows := (alias_upsertCandidate sha256 call h.live h.aliased).2.2
  have hown : (index.upsertCandidate sha256 call).Holds (.resume call.resumeId)
      (index.targetIdentityId sha256 call) :=
    (hHolds _ _).mpr (.inl ⟨Upsert.resumeId_mem_tokens, rfl⟩)
  have hfun : (index.upsertCandidate sha256 call).Functional := h.functional.upsertCandidate h.live
  constructor
  · intro hafter row hrow hex signal hsignal
    -- the call that the signal is of goes to the target, whose signal is the call's own
    obtain ⟨signal', hsignal', ⟨u, hu, hr, hcode⟩, -⟩ := hstrong row hrow
    obtain rfl : signal' = signal := Option.some.inj (hsignal'.symm.trans hsignal)
    obtain ⟨target, htarget, hid⟩ := mem_ids_iff.mp ((hIds _).mpr (.inl rfl))
    have hr' : (index.upsertCandidate sha256 call).Holds (.resume u.resumeId)
        (index.targetIdentityId sha256 call) := by
      refine (hHolds _ _).mpr (.inr ⟨row.identityId, (mem_resumeIds_iff hrow).mp hr, ?_⟩)
      rcases hex with hex | hex
      · simp [hex]
      · simp [hex]
    obtain ⟨last, hlast, -, hmax⟩ := hafter target htarget
    have hle := hmax u (List.mem_append_left _ hu)
      ((mem_resumeIds_iff htarget).mpr (hid ▸ hr'))
    rcases hRows target htarget with ⟨hne, -⟩ | ⟨-, hcall, -⟩
    · exact absurd hid hne
    · obtain rfl := Option.some.inj (hlast.symm.trans hcall)
      rw [← hcode]
      exact hle
  · intro has row hrow
    rcases hRows row hrow with ⟨hne, hold⟩ | ⟨hid, hcall, -⟩
    · -- an identity that is left alone gets no call
      obtain ⟨signal, hsignal, ⟨u, hu, hr, hcode⟩, hmax⟩ := hstrong row hold
      refine ⟨signal, hsignal, ⟨u, List.mem_append_left _ hu, hr, hcode⟩, ?_⟩
      intro v hv hr
      rcases List.mem_append.mp hv with hv | hv
      · exact hmax v hv hr
      · rw [List.mem_singleton.mp hv] at hr
        exact absurd (hfun _ _ _ ((mem_resumeIds_iff hrow).mp hr) hown) hne
    · refine ⟨_, hcall, ⟨call, by simp, (mem_resumeIds_iff hrow).mpr (hid ▸ hown), rfl⟩, ?_⟩
      intro v hv hr
      rcases List.mem_append.mp hv with hv | hv
      · obtain ⟨old, hold, hrold, hex⟩ := exists_merged h hv
          (hid ▸ (mem_resumeIds_iff hrow).mp hr)
        obtain ⟨signal, hsignal, -, hmax⟩ := hstrong old hold
        exact (hmax v hv hrold).trans (has old hold hex signal hsignal)
      · rw [List.mem_singleton.mp hv]
        exact le_rfl

end Step

section Runs

variable {sha256 : String → String} {calls : List Upsert}

theorem met_upsertAll (sha256 : String → String) (calls : List Upsert) :
    Met calls (upsertAll sha256 calls) := by
  induction calls using List.reverseRecOn with
  | nil => exact met_empty
  | append_singleton calls call ih =>
    rw [upsertAll_concat]
    exact ih.upsertCandidate

/-- **The strongest signal** is right after every call of a run, exactly if every call is at least
as strong as the signals of the identities that it merges. -/
theorem strongest_iff (sha256 : String → String) (calls : List Upsert) :
    (∀ earlier, earlier <+: calls → HasStrongest earlier (upsertAll sha256 earlier)) ↔
      ∀ earlier call, earlier ++ [call] <+: calls →
        AsStrong sha256 (upsertAll sha256 earlier) call := by
  constructor
  · intro h earlier call hcalls
    have hbefore := h earlier ((List.prefix_append earlier [call]).trans hcalls)
    have hafter := h _ hcalls
    rw [upsertAll_concat] at hafter
    exact (hasStrongest_upsertCandidate (met_upsertAll sha256 earlier) hbefore).mp hafter
  · intro h earlier
    induction earlier using List.reverseRecOn with
    | nil =>
      intro _ identity hidentity
      cases hidentity
    | append_singleton earlier call ih =>
      intro hcalls
      have hbefore := ih ((List.prefix_append earlier [call]).trans hcalls)
      rw [upsertAll_concat]
      exact (hasStrongest_upsertCandidate (met_upsertAll sha256 earlier) hbefore).mpr
        (h earlier call hcalls)

/-- A resume with a contact hash, and then its card again, which has the provider's key only. -/
def weakerLater : List Upsert :=
  [⟨"r1", "e1", { protectedContactHashes := ["c1"], providerCandidateKeyHash := some "p1" }⟩,
    ⟨"r1", "e2", { providerCandidateKeyHash := some "p1" }⟩]

/-- The card's signal is written over the contact hash. -/
theorem not_hasStrongest_weakerLater :
    (upsertAll sampleSha256 weakerLater).identities.map (·.strongestSignal) =
        [some .providerCandidateKeyHash] ∧
      ¬HasStrongest weakerLater (upsertAll sampleSha256 weakerLater) := by
  refine ⟨by decide, fun h => ?_⟩
  have hall : ∀ identity ∈ (upsertAll sampleSha256 weakerLater).identities,
      identity.strongestSignal = some .providerCandidateKeyHash ∧ "r1" ∈ identity.resumeIds := by
    decide
  have hne : (upsertAll sampleSha256 weakerLater).identities ≠ [] := by decide
  obtain ⟨identity, hidentity⟩ := List.exists_mem_of_ne_nil _ hne
  obtain ⟨hsignal, hr⟩ := hall identity hidentity
  obtain ⟨signal, hsignal', -, hmax⟩ := h identity hidentity
  obtain rfl := Option.some.inj (hsignal'.symm.trans hsignal)
  have hle := hmax _ List.mem_cons_self hr
  exact absurd hle (by decide)

end Runs

end SeekTalent
