import NetplayRelay.Protocol.Text
import Mathlib.Data.Nat.GCD.Basic

/-!
# Compatibility fingerprints

What a client reports about its core, content and settings before a session starts, and
how two reports are compared. Protocol version 5 adds a determinism profile that every
strict session has to carry.
-/

namespace NetplayRelay.Protocol

/-- The size of a controller's state. -/
def v5RetropadInputBytes : Nat := 10
/-- The codec of the input. -/
def v5InputCodecId : Text := "shadowboy-retropad-v1-le".toList
/-- The predictor of the input. -/
def v5InputPredictorId : Text := "shadowboy-retropad-predictor-v1".toList

/-- What state digests are for. -/
inductive StateDigestMode
  | authoritative
  | diagnostic
  | disabled
deriving DecidableEq

/-- First field in which two fingerprints differ. -/
inductive CompatibilityMismatch
  | protocolVersion | system | core | stateFormat | content | settings | cheats | systemData
  | saveDataMode | determinismProfileMissing | netplayCoreCompatibility | platformClass
  | coreOptions | controllerProfile | inputContract | nominalFrameRate | romSize
  | contentTransformation | startupStatePolicy | replayOutputSuppression | digestContract
deriving DecidableEq

/-- What must be equal for two cores to run in step. -/
structure DeterminismProfileV5 where
  netplayCoreCompatibilityId : Text
  localArtifactId : Text
  platformClass : Text
  coreOptionsDigest : Text
  controllerProfileIds : List Text
  inputCodecId : Text
  inputPayloadSize : Nat
  predictorId : Text
  nominalFrameRateNumerator : Nat
  nominalFrameRateDenominator : Nat
  romSizeBytes : Nat
  contentTransformationDigest : Option Text
  startupStatePolicyId : Text
  replayOutputSuppressed : Bool
  digestMode : StateDigestMode
  digestAlgorithmId : Option Text
deriving DecidableEq

/-- Digests are hex texts. -/
def digestMatches (left right : Text) : Bool := left.eqIgnoreAsciiCase right

/-- Both have the digest or neither has. -/
def optionalDigestMatches : Option Text → Option Text → Bool
  | some left, some right => digestMatches left right
  | none, none => true
  | _, _ => false

/-- Euclid's loop: the source iterates `(left, right) := (right, left % right)`. -/
def greatestCommonDivisor (left right : Nat) : Nat := Nat.gcd left right

namespace DeterminismProfileV5

/-- The digest's fields fit its mode. -/
def digestContractIsValid (self : DeterminismProfileV5) : Bool :=
  match self.digestMode with
  | .disabled => self.digestAlgorithmId.isNone
  | .authoritative | .diagnostic =>
    match self.digestAlgorithmId with
    | some algorithm => (validateId "determinismV5.digestAlgorithmId" algorithm).isOk
    | none => false

/-- The checks on a profile. -/
def isValid (self : DeterminismProfileV5) : Bool :=
  (validateId "determinismV5.netplayCoreCompatibilityId" self.netplayCoreCompatibilityId).isOk
    && (validateId "determinismV5.localArtifactId" self.localArtifactId).isOk
    && (validateId "determinismV5.platformClass" self.platformClass).isOk
    && (validateSha256 "determinismV5.coreOptionsDigest" self.coreOptionsDigest).isOk
    && !self.controllerProfileIds.isEmpty
    && self.controllerProfileIds.length ≤ 8
    && self.controllerProfileIds.all
      (fun profile => (validateId "determinismV5.controllerProfileIds" profile).isOk)
    && self.inputCodecId == v5InputCodecId
    && self.inputPayloadSize == v5RetropadInputBytes
    && self.predictorId == v5InputPredictorId
    && self.nominalFrameRateNumerator > 0
    && self.nominalFrameRateDenominator > 0
    && greatestCommonDivisor self.nominalFrameRateNumerator self.nominalFrameRateDenominator == 1
    && self.romSizeBytes > 0
    && (validateOptionalSha256 "determinismV5.contentTransformationDigest"
      self.contentTransformationDigest).isOk
    && (validateId "determinismV5.startupStatePolicyId" self.startupStatePolicyId).isOk
    && self.replayOutputSuppressed
    && self.digestContractIsValid

/-- The first field in which two profiles differ. -/
def firstMismatch (self other : DeterminismProfileV5) : Option CompatibilityMismatch :=
  if self.netplayCoreCompatibilityId ≠ other.netplayCoreCompatibilityId then
    some .netplayCoreCompatibility
  else if self.platformClass ≠ other.platformClass then some .platformClass
  else if !digestMatches self.coreOptionsDigest other.coreOptionsDigest then some .coreOptions
  else if self.controllerProfileIds ≠ other.controllerProfileIds then some .controllerProfile
  else if self.inputCodecId ≠ other.inputCodecId ∨ self.inputPayloadSize ≠ other.inputPayloadSize
      ∨ self.predictorId ≠ other.predictorId then some .inputContract
  else if self.nominalFrameRateNumerator ≠ other.nominalFrameRateNumerator
      ∨ self.nominalFrameRateDenominator ≠ other.nominalFrameRateDenominator then
    some .nominalFrameRate
  else if self.romSizeBytes ≠ other.romSizeBytes then some .romSize
  else if !optionalDigestMatches self.contentTransformationDigest
      other.contentTransformationDigest then some .contentTransformation
  else if self.startupStatePolicyId ≠ other.startupStatePolicyId then some .startupStatePolicy
  else if self.replayOutputSuppressed ≠ other.replayOutputSuppressed then
    some .replayOutputSuppression
  else if self.digestMode ≠ other.digestMode ∨ self.digestAlgorithmId ≠ other.digestAlgorithmId then
    some .digestContract
  else none

end DeterminismProfileV5

/-- What a client runs. -/
structure CompatibilityFingerprint where
  protocolVersion : Nat
  systemId : Text
  coreId : Text
  coreBuild : Text
  stateFormat : Option Text
  contentHash : Text
  settingsHash : Text
  cheatsHash : Text
  systemDataHash : Option Text
  saveDataMode : Text
  determinismV5 : Option DeterminismProfileV5
deriving DecidableEq

namespace CompatibilityFingerprint

/-- The state format, or the build that stands for it. -/
def normalizedStateFormat (self : CompatibilityFingerprint) : Text :=
  self.stateFormat.getD self.coreBuild

/-- The first field in which two fingerprints differ. -/
def firstMismatch (self other : CompatibilityFingerprint) : Option CompatibilityMismatch :=
  if self.protocolVersion ≠ other.protocolVersion then some .protocolVersion
  else if self.systemId ≠ other.systemId then some .system
  else if self.coreId ≠ other.coreId then some .core
  else if self.normalizedStateFormat ≠ other.normalizedStateFormat then some .stateFormat
  else if self.contentHash ≠ other.contentHash then some .content
  else if self.settingsHash ≠ other.settingsHash then some .settings
  else if self.cheatsHash ≠ other.cheatsHash then some .cheats
  else if self.systemDataHash ≠ other.systemDataHash then some .systemData
  else if self.saveDataMode ≠ other.saveDataMode then some .saveDataMode
  else if self.protocolVersion ≥ 5 then
    match self.determinismV5, other.determinismV5 with
    | some left, some right => left.firstMismatch right
    | _, _ => some .determinismProfileMissing
  else none

/-- The determinism profile, when it and every hash of the fingerprint pass their checks. -/
def validDeterminismV5 (self : CompatibilityFingerprint) : Option DeterminismProfileV5 :=
  let hashesAreValid := (validateSha256 "contentHash" self.contentHash).isOk
    && (validateSha256 "settingsHash" self.settingsHash).isOk
    && (validateSha256 "cheatsHash" self.cheatsHash).isOk
    && (validateOptionalSha256 "systemDataHash" self.systemDataHash).isOk
  self.determinismV5.filter fun profile => hashesAreValid && profile.isValid

end CompatibilityFingerprint

end NetplayRelay.Protocol
