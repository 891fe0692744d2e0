import NetplayRelay.Protocol.Compatibility

/-!
# When two fingerprints agree

The comparison of two fingerprints walks through their fields and names the first difference.
What it decides is simpler: every fingerprint stands for a *contract*, the part of it that both
players have to share, and two fingerprints have no mismatch exactly when their contracts are equal
and the determinism profile that strict sessions need is there. So it does not matter which of the
two is taken as the baseline, and agreement is passed on along a chain.

The second half is about letter case: a digest is compared without regard to it, and a fingerprint
whose content hash is turned to lower case is as valid as before.
-/

namespace NetplayRelay.Proof

open Protocol

/-! ## Contracts -/

/-- What two determinism profiles have to share. The local artifact is not part of it, and digests
are compared in lower case. -/
structure ProfileContract where
  netplayCoreCompatibilityId : Text
  platformClass : Text
  coreOptionsDigest : Text
  controllerProfileIds : List Text
  input : Text × Nat × Text
  nominalFrameRate : Nat × Nat
  romSizeBytes : Nat
  contentTransformationDigest : Option Text
  startupStatePolicyId : Text
  replayOutputSuppressed : Bool
  digest : StateDigestMode × Option Text

def profileContract (p : DeterminismProfileV5) : ProfileContract where
  netplayCoreCompatibilityId := p.netplayCoreCompatibilityId
  platformClass := p.platformClass
  coreOptionsDigest := p.coreOptionsDigest.toAsciiLowercase
  controllerProfileIds := p.controllerProfileIds
  input := (p.inputCodecId, p.inputPayloadSize, p.predictorId)
  nominalFrameRate := (p.nominalFrameRateNumerator, p.nominalFrameRateDenominator)
  romSizeBytes := p.romSizeBytes
  contentTransformationDigest := p.contentTransformationDigest.map Text.toAsciiLowercase
  startupStatePolicyId := p.startupStatePolicyId
  replayOutputSuppressed := p.replayOutputSuppressed
  digest := (p.digestMode, p.digestAlgorithmId)

/-- What two fingerprints have to share. Older protocols ignore the profile. -/
structure Contract where
  protocolVersion : Nat
  systemId : Text
  coreId : Text
  stateFormat : Text
  contentHash : Text
  settingsHash : Text
  cheatsHash : Text
  systemDataHash : Option Text
  saveDataMode : Text
  profile : Option ProfileContract

def contract (fp : CompatibilityFingerprint) : Contract where
  protocolVersion := fp.protocolVersion
  systemId := fp.systemId
  coreId := fp.coreId
  stateFormat := fp.normalizedStateFormat
  contentHash := fp.contentHash
  settingsHash := fp.settingsHash
  cheatsHash := fp.cheatsHash
  systemDataHash := fp.systemDataHash
  saveDataMode := fp.saveDataMode
  profile := if fp.protocolVersion ≥ 5 then fp.determinismV5.map profileContract else none

/-- One link of the chain of comparisons. -/
theorem firstDifference_none {c : Prop} [Decidable c] {field : CompatibilityMismatch}
    {rest : Option CompatibilityMismatch} :
    (if c then some field else rest) = none ↔ ¬c ∧ rest = none := by
  split <;> simp_all

theorem digestMatches_iff (left right : Text) :
    digestMatches left right ↔ left.toAsciiLowercase = right.toAsciiLowercase := by
  rw [digestMatches, Text.eqIgnoreAsciiCase, beq_iff_eq]

theorem optionalDigestMatches_iff (left right : Option Text) :
    optionalDigestMatches left right
      ↔ left.map Text.toAsciiLowercase = right.map Text.toAsciiLowercase := by
  cases left <;> cases right <;> simp [optionalDigestMatches, digestMatches_iff]

theorem profile_firstMismatch_none (left right : DeterminismProfileV5) :
    left.firstMismatch right = none ↔ profileContract left = profileContract right := by
  simp only [DeterminismProfileV5.firstMismatch, firstDifference_none, profileContract,
    ProfileContract.mk.injEq, Prod.mk.injEq, Bool.not_eq_true', Bool.not_eq_false, not_or, not_not,
    digestMatches_iff, optionalDigestMatches_iff]
  tauto

/-- **Two fingerprints have no mismatch exactly when their contracts are equal**, and carry the
profile that their protocol asks for. -/
theorem firstMismatch_none (f g : CompatibilityFingerprint) :
    f.firstMismatch g = none
      ↔ contract f = contract g ∧ (f.protocolVersion ≥ 5 → f.determinismV5.isSome) := by
  simp only [CompatibilityFingerprint.firstMismatch, firstDifference_none, contract,
    Contract.mk.injEq, not_not]
  by_cases hversion : f.protocolVersion = g.protocolVersion
  · by_cases hstrict : g.protocolVersion ≥ 5
    · cases hf : f.determinismV5 <;> cases hg : g.determinismV5 <;>
        simp [hversion, hstrict, profile_firstMismatch_none]
    · simp [hversion, hstrict]
  · simp [hversion]

theorem firstMismatch_symm {f g : CompatibilityFingerprint} (h : f.firstMismatch g = none) :
    g.firstMismatch f = none := by
  obtain ⟨hcontract, hprofile⟩ := (firstMismatch_none f g).mp h
  refine (firstMismatch_none g f).mpr ⟨hcontract.symm, fun hstrict => ?_⟩
  have hversion : f.protocolVersion = g.protocolVersion :=
    congrArg (·.protocolVersion) hcontract
  have hshared : f.determinismV5.map profileContract = g.determinismV5.map profileContract := by
    have := congrArg (·.profile) hcontract
    simpa [contract, hversion, hstrict] using this
  have hf := hprofile (hversion ▸ hstrict)
  have := congrArg Option.isSome hshared
  simpa [hf] using this.symm

theorem firstMismatch_trans {f g h : CompatibilityFingerprint} (hfg : f.firstMismatch g = none)
    (hgh : g.firstMismatch h = none) : f.firstMismatch h = none := by
  obtain ⟨hleft, hprofile⟩ := (firstMismatch_none f g).mp hfg
  obtain ⟨hright, _⟩ := (firstMismatch_none g h).mp hgh
  exact (firstMismatch_none f h).mpr ⟨hleft.trans hright, hprofile⟩

/-! ## Letter case -/

/-- Letter case concerns the ASCII characters only, and those can be gone through. -/
theorem forall_char {P : Char → Prop} (hascii : ∀ n < 128, P (Char.ofNat n))
    (hother : ∀ c : Char, 128 ≤ c.toNat → P c) (c : Char) : P c := by
  by_cases h : c.toNat < 128
  · rw [← Char.ofNat_toNat c]
    exact hascii _ h
  · exact hother c (Nat.le_of_not_lt h)

theorem toLower_of_le {c : Char} (h : 128 ≤ c.toNat) : c.toLower = c := by
  have hval : c.val.toNat = c.toNat := rfl
  refine dif_neg ?_
  simp only [UInt32.le_iff_toNat_le, not_and]
  intro _ hle
  have hlast : ('Z' : Char).val.toNat = 90 := rfl
  omega

theorem toUpper_of_le {c : Char} (h : 128 ≤ c.toNat) : c.toUpper = c := by
  have hval : c.val.toNat = c.toNat := rfl
  refine dif_neg ?_
  simp only [UInt32.le_iff_toNat_le, not_and]
  intro _ hle
  have hlast : ('z' : Char).val.toNat = 122 := rfl
  omega

theorem toLower_idem (c : Char) : c.toLower.toLower = c.toLower := by
  revert c
  refine forall_char (by decide +kernel) fun c hc => ?_
  rw [toLower_of_le hc, toLower_of_le hc]

theorem toAsciiLowercase_idem (text : Text) :
    text.toAsciiLowercase.toAsciiLowercase = text.toAsciiLowercase := by
  rw [Text.toAsciiLowercase, Text.toAsciiLowercase, List.map_map]
  exact List.map_congr_left fun c _ => toLower_idem c

theorem eqIgnoreAsciiCase_lowered (left right : Text) :
    left.toAsciiLowercase.eqIgnoreAsciiCase right = left.eqIgnoreAsciiCase right := by
  rw [Text.eqIgnoreAsciiCase, Text.eqIgnoreAsciiCase, toAsciiLowercase_idem]

theorem isAsciiHexdigit_lower (c : Char) :
    Text.isAsciiHexdigit c.toLower = Text.isAsciiHexdigit c := by
  revert c
  refine forall_char (by decide +kernel) fun c hc => ?_
  rw [toLower_of_le hc]

theorem utf8Size_of_hexdigit {c : Char} (h : Text.isAsciiHexdigit c) : c.utf8Size = 1 := by
  revert c
  refine @forall_char _ (by decide +kernel) fun c hc h => ?_
  simp only [Text.isAsciiHexdigit, Char.isDigit, Bool.or_eq_true, Bool.and_eq_true,
    decide_eq_true_eq, Char.le_def, UInt32.le_iff_toNat_le] at h
  have hlast : ('f' : Char).val.toNat = 102 ∧ ('F' : Char).val.toNat = 70
      ∧ ('9' : Char).val.toNat = 57 := by decide
  have hval : c.val.toNat = c.toNat := rfl
  omega

/-- A text of hexadecimal digits is as long as it has characters. -/
theorem len_of_hexdigits {value : Text} (h : ∀ c ∈ value, Text.isAsciiHexdigit c) :
    value.len = value.length := by
  have hsizes : value.map Char.utf8Size = value.map fun _ => 1 :=
    List.map_congr_left fun c hc => utf8Size_of_hexdigit (h c hc)
  rw [Text.len, hsizes, List.map_const', List.sum_replicate_nat, Nat.mul_one]

theorem validateSha256_isOk_iff {field : String} {value : Text} :
    (validateSha256 field value).isOk
      ↔ value.length = sha256HexLen ∧ ∀ c ∈ value, Text.isAsciiHexdigit c := by
  have hcheck : (validateSha256 field value).isOk
      = (value.len == sha256HexLen && value.all Text.isAsciiHexdigit) := by
    rw [validateSha256]
    split <;> simp_all [Except.isOk, Except.toBool]
  rw [hcheck, Bool.and_eq_true, beq_iff_eq, List.all_eq_true]
  refine and_congr_left fun hdigits => ?_
  rw [len_of_hexdigits hdigits]

theorem validateSha256_lowered (field : String) (value : Text) :
    (validateSha256 field value.toAsciiLowercase).isOk = (validateSha256 field value).isOk := by
  rw [Bool.eq_iff_iff, validateSha256_isOk_iff, validateSha256_isOk_iff, Text.toAsciiLowercase,
    List.length_map, List.forall_mem_map]
  simp only [isAsciiHexdigit_lower]

theorem validateOptionalSha256_lowered (field : String) (value : Option Text) :
    (validateOptionalSha256 field (value.map Text.toAsciiLowercase)).isOk
      = (validateOptionalSha256 field value).isOk := by
  cases value with
  | none => rfl
  | some digest => exact validateSha256_lowered field digest

/-- The content hash may be turned to lower case: the profile stays valid. -/
theorem validDeterminismV5_lowered (fp : CompatibilityFingerprint) :
    { fp with contentHash := fp.contentHash.toAsciiLowercase }.validDeterminismV5
      = fp.validDeterminismV5 := by
  rw [CompatibilityFingerprint.validDeterminismV5, CompatibilityFingerprint.validDeterminismV5,
    validateSha256_lowered]

end NetplayRelay.Proof
