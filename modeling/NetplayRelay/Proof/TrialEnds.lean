import NetplayRelay.Proof.Denials

/-!
# The end of a trial

An answer may give the end of a trial as a plain number and does not say in which unit. The relay
guesses: a number below ten thousand million is taken as seconds and multiplied by a thousand, any
other as milliseconds. Both halves of the guess can go wrong. The product of a number far below zero
does not fit 64 bits, and in a release build it comes back positive. And milliseconds of the year
1970 are small enough to be taken as seconds, which moves them by up to three centuries.

Everywhere else the guess is safe: a number that is really in seconds and is taken as milliseconds
only gets smaller.
-/

namespace NetplayRelay.Proof

open Protocol Auth

inductive TimeUnit
  | seconds | milliseconds
deriving DecidableEq

/-- The time that a timestamp denotes, in milliseconds. -/
def TimeUnit.denoted : TimeUnit → Int → Int
  | .seconds, timestamp => timestamp * 1000
  | .milliseconds, timestamp => timestamp

def FitsI64 (value : Int) : Prop := -(2 ^ 63) ≤ value ∧ value < 2 ^ 63

/-! ## One timestamp -/

/-- The guess does no harm to this timestamp: its product fits, and if it is in milliseconds, it is
not a past time that a thousandfold makes a future one. -/
def GuessedSafely (unit : TimeUnit) (nowMs timestamp : Int) : Prop :=
  -9223372036854775 ≤ timestamp
    ∧ (unit = .milliseconds → timestamp < 10000000000 →
      nowMs < timestamp ∨ timestamp * 1000 ≤ nowMs)

theorem fitsI64_seconds_iff {timestamp : Int} (hseconds : timestamp < 10000000000) :
    FitsI64 (timestamp * 1000) ↔ -9223372036854775 ≤ timestamp := by
  unfold FitsI64
  omega

theorem wrapI64_of_fits {value : Int} (h : FitsI64 value) : wrapI64 value = value := by
  unfold FitsI64 at h
  unfold wrapI64
  omega

theorem guessedSafely_iff (unit : TimeUnit) (nowMs timestamp : Int) :
    (timestamp < 10000000000 → FitsI64 (timestamp * 1000))
      ∧ (unit.denoted timestamp ≤ nowMs → normalizeTimestampMs timestamp ≤ nowMs)
      ↔ GuessedSafely unit nowMs timestamp := by
  unfold GuessedSafely normalizeTimestampMs
  by_cases hseconds : timestamp < 10000000000
  · rw [if_pos hseconds, fitsI64_seconds_iff hseconds]
    simp only [hseconds, forall_const]
    refine and_congr_right fun hfits => ?_
    rw [wrapI64_of_fits ((fitsI64_seconds_iff hseconds).mpr hfits)]
    cases unit with
    | seconds => simp [TimeUnit.denoted]
    | milliseconds =>
      simp only [TimeUnit.denoted, forall_const]
      omega
  · -- taken as milliseconds: there is no product, and seconds denote a later time still
    rw [if_neg hseconds]
    cases unit with
    | seconds | milliseconds =>
      simp only [TimeUnit.denoted]
      omega

/-! ## A whole answer -/

/-- The timestamp of a field: a number, or a text that is one. -/
def timestampOf : Json → Option Int
  | .number timestamp => timestamp
  | .string value => parseI64 value.trim
  | _ => none

theorem isFutureDate_timestamp {rfc3339 : Text → Option Int} {nowMs timestamp : Int} {value : Json}
    (h : timestampOf value = some timestamp) :
    isFutureDate rfc3339 nowMs value = decide (normalizeTimestampMs timestamp > nowMs) := by
  cases value with
  | number asI64 =>
    obtain rfl : asI64 = some timestamp := h
    rfl
  | string text =>
    have hparsed : parseI64 text.trim = some timestamp := h
    simp [isFutureDate, parseDateMs, hparsed]
  | _ => exact absurd h (by simp [timestampOf])

def trialEndKeys : List Text := ["trialEndsAt".toList, "trialExpiresAt".toList]

/-- The answer says by a flag or by the tier that the trial is active; then no date is read. -/
def trialDeclared (records : List Record) : Bool :=
  (readBool records ["isTrialActive".toList, "trialActive".toList]).getD false
    || ((readString records
      ["tier".toList, "accessStatus".toList, "status".toList, "entitlement".toList]).getD
      "unknown".toList).eqIgnoreAsciiCase "trial".toList

/-- What `any` looks at: everything up to the first value that holds. -/
def lookedAt (holds : Json → Bool) : List Json → List Json
  | [] => []
  | value :: rest => if holds value then [value] else value :: lookedAt holds rest

theorem any_lookedAt (holds : Json → Bool) (values : List Json) :
    (lookedAt holds values).any holds = values.any holds := by
  induction values with
  | nil => rfl
  | cons value rest ih =>
    rw [lookedAt]
    by_cases h : holds value = true
    · simp [h]
    · rw [if_neg h, List.any_cons, List.any_cons, ih]

section

variable (rfc3339 : Text → Option Int) (nowMs : Int)

/-- The answer is not turned away before its license is read: it has records, its first decision is
no denial, and it names no other kind of client. -/
def reachesDates (value : Json) (clientKind : ClientKind) : Bool :=
  !(collectRecords value).isEmpty && (decisions value).head? ≠ some false
    && clientFits value clientKind

/-- The values that are read to decide whether the trial ends in the future. -/
def trialEndsRead (value : Json) (clientKind : ClientKind) : List Json :=
  if reachesDates value clientKind && !trialDeclared (collectRecords value) then
    lookedAt (isFutureDate rfc3339 nowMs) (values (collectRecords value) trialEndKeys)
  else []

/-- A trial end is decided soundly: no product overflows, and no timestamp that denotes a time at or
before now counts. -/
structure TrialEndSound (unit : Int → TimeUnit) (value : Json) (clientKind : ClientKind) :
    Prop where
  fits : ∀ read ∈ trialEndsRead rfc3339 nowMs value clientKind, ∀ timestamp,
    timestampOf read = some timestamp → timestamp < 10000000000 → FitsI64 (timestamp * 1000)
  future : ∀ read ∈ trialEndsRead rfc3339 nowMs value clientKind, ∀ timestamp,
    timestampOf read = some timestamp → (unit timestamp).denoted timestamp ≤ nowMs →
      isFutureDate rfc3339 nowMs read = false

end

variable {rfc3339 : Text → Option Int} {nowMs : Int} {value : Json} {clientKind : ClientKind}
  {installationId feature : Text}

/-- An answer that is turned away early gets the same error at every time. -/
theorem verdict_of_unreached (h : reachesDates value clientKind = false) :
    ∃ error, ∀ rfc3339 nowMs,
      parseVerifiedLicense rfc3339 nowMs value clientKind installationId feature
        = .error error := by
  simp only [parseVerifiedLicense_eq]
  by_cases hempty : (collectRecords value).isEmpty = true
  · exact ⟨_, fun _ _ => if_pos hempty⟩
  by_cases hdenied : (decisions value).head? = some false
  · exact ⟨_, fun _ _ => by rw [if_neg hempty, if_pos hdenied]⟩
  have hother : (!clientFits value clientKind) = true := by
    simpa [reachesDates, hempty, hdenied] using h
  exact ⟨_, fun _ _ => by rw [if_neg hempty, if_neg hdenied, if_pos hother]⟩

theorem reachesDates_of_ok {license : VerifiedLicense}
    (h : parseVerifiedLicense rfc3339 nowMs value clientKind installationId feature = .ok license) :
    reachesDates value clientKind := by
  by_contra hunreached
  obtain ⟨error, herror⟩ := verdict_of_unreached (Bool.eq_false_iff.mpr hunreached)
  exact absurd ((herror rfc3339 nowMs).symm.trans h) (by simp)

theorem parseVerifiedLicense_ok {license : VerifiedLicense}
    (h : parseVerifiedLicense rfc3339 nowMs value clientKind installationId feature = .ok license) :
    license = licenseOf rfc3339 nowMs (collectRecords value) clientKind installationId := by
  rw [parseVerifiedLicense_eq] at h
  split at h
  · exact absurd h (by simp)
  split at h
  · exact absurd h (by simp)
  split at h
  · exact absurd h (by simp)
  split at h
  · exact (Except.ok.inj h).symm
  · exact absurd h (by simp)

/-- The trial of a license is active because it was declared so, or because of a date read. -/
theorem licenseOf_trialActive (h : reachesDates value clientKind) :
    (licenseOf rfc3339 nowMs (collectRecords value) clientKind installationId).trialActive
      = (trialDeclared (collectRecords value)
        || (trialEndsRead rfc3339 nowMs value clientKind).any (isFutureDate rfc3339 nowMs)) := by
  have hactive :
      (licenseOf rfc3339 nowMs (collectRecords value) clientKind installationId).trialActive
        = (trialDeclared (collectRecords value)
          || readFutureDate rfc3339 nowMs (collectRecords value) trialEndKeys) := rfl
  rw [hactive, trialEndsRead, h, Bool.true_and]
  cases hdeclared : trialDeclared (collectRecords value) with
  | true => rfl
  | false =>
    rw [Bool.not_false, if_pos rfl, any_lookedAt]
    rfl

/-- **Where the unit is guessed safely.** An answer that is turned away early gets its error
whatever the dates and the time are. The trial of a license that an answer yields is active by
declaration or by one of the dates read; and these are decided soundly exactly if the guess is safe
for each timestamp among them. -/
theorem trial_end_sound_iff (rfc3339 : Text → Option Int) (nowMs : Int) (unit : Int → TimeUnit)
    (value : Json) (clientKind : ClientKind) (installationId feature : Text) :
    (reachesDates value clientKind = false → ∃ error, ∀ rfc3339 nowMs,
      parseVerifiedLicense rfc3339 nowMs value clientKind installationId feature = .error error)
    ∧ (∀ license,
      parseVerifiedLicense rfc3339 nowMs value clientKind installationId feature = .ok license →
      license.trialActive = (trialDeclared (collectRecords value)
        || (trialEndsRead rfc3339 nowMs value clientKind).any (isFutureDate rfc3339 nowMs)))
    ∧ (TrialEndSound rfc3339 nowMs unit value clientKind
      ↔ ∀ read ∈ trialEndsRead rfc3339 nowMs value clientKind, ∀ timestamp,
        timestampOf read = some timestamp → GuessedSafely (unit timestamp) nowMs timestamp) := by
  refine ⟨verdict_of_unreached, ?_, ?_, ?_⟩
  · intro license hok
    rw [parseVerifiedLicense_ok hok, licenseOf_trialActive (reachesDates_of_ok hok)]
  · intro hsound read hread timestamp htimestamp
    refine (guessedSafely_iff _ _ _).mp ⟨hsound.fits read hread timestamp htimestamp, ?_⟩
    intro hpast
    have hnot := hsound.future read hread timestamp htimestamp hpast
    rw [isFutureDate_timestamp htimestamp] at hnot
    simpa using hnot
  · intro hsafe
    refine ⟨fun read hread timestamp htimestamp => ?_, fun read hread timestamp htimestamp => ?_⟩
    · exact ((guessedSafely_iff _ _ _).mpr (hsafe read hread timestamp htimestamp)).1
    · intro hpast
      have hle := ((guessedSafely_iff _ _ _).mpr (hsafe read hread timestamp htimestamp)).2 hpast
      rw [isFutureDate_timestamp htimestamp]
      simpa using hle

/-- An answer that says nothing but when the trial ends. -/
def endsAt (trialEnd : Json) : Json := .object [("trialEndsAt".toList, trialEnd)]

/-- A trial that ended before the world began, and one that ended in April 1970 by a clock that
counts milliseconds, both give access at a time in 2023. -/
theorem past_trial_counts :
    let verdict := fun trialEnd => parseVerifiedLicense (fun _ => none) 1700000000000
      (endsAt trialEnd) .desktop "install".toList "netplay".toList
    ¬ FitsI64 (-9223372036854776 * 1000)
      ∧ TimeUnit.seconds.denoted (-9223372036854776) ≤ 1700000000000
      ∧ (trialEndsRead (fun _ => none) 1700000000000
          (endsAt (.number (some (-9223372036854776)))) .desktop).filterMap timestampOf
        = [-9223372036854776]
      ∧ (verdict (.number (some (-9223372036854776)))).toOption.any (·.trialActive)
      ∧ (verdict (.string "-9223372036854776".toList)).toOption.any (·.trialActive)
      ∧ TimeUnit.milliseconds.denoted 9999999999 ≤ 1700000000000
      ∧ (verdict (.number (some 9999999999))).toOption.any (·.trialActive) := by
  refine ⟨?_, by decide, ?_, ?_, ?_, by decide, ?_⟩
  · unfold FitsI64
    decide
  all_goals decide +kernel

end NetplayRelay.Proof
