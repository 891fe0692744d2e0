import NetplayRelay.Lib.Rounding
import NetplayRelay.Proof.Effects
import NetplayRelay.Proof.Histories

/-!
# The input delay of a version 5 start

Before a start is fixed the relay picks the input delay from the two data paths of the room: half
a round trip and the jitter of each player, in frames of the negotiated rate, one frame more, and
never outside the range from two to eight. What is proved here is that the code's machine
arithmetic computes exactly this. The sums stay far below `2 ^ 64` and the products below
`2 ^ 128`, so nothing saturates, and the quotient is capped at eight frames before the safety frame
is added, which the final clamp makes up for.

The choice is all or nothing: one connected player without a fresh and complete report leaves the
configured delay as it is.
-/

namespace NetplayRelay.Proof

open Lib Protocol Rooms Registry

/-! ## What is measured -/

/-- Round trip and jitter of one player, both `u32`. -/
structure DataPath where
  roundTripMs : Nat
  jitterMs : Nat
  roundTripMs_le : roundTripMs ≤ u32Max
  jitterMs_le : jitterMs ≤ u32Max

/-- One path is measured no worse than another. -/
structure DataPath.NoWorse (a b : DataPath) : Prop where
  roundTrip : a.roundTripMs ≤ b.roundTripMs
  jitter : a.jitterMs ≤ b.jitterMs

/-- A positive fraction of two `u64`s: frames in a second. -/
structure FrameRate where
  numerator : Nat
  denominator : Nat
  numerator_pos : 0 < numerator
  denominator_pos : 0 < denominator
  numerator_le : numerator ≤ u64Max
  denominator_le : denominator ≤ u64Max

def FrameRate.value (rate : FrameRate) : ℚ := rate.numerator / rate.denominator

/-- The player's latest report is fresh and gives both a round trip and a jitter. -/
structure Reports (now : Instant) (p : PlayerSlot) (roundTripMs jitterMs : Nat) : Prop where
  fresh : ∃ reportedAt, p.latestNetworkReportedAt = some reportedAt
    ∧ now - reportedAt ≤ healthSampleFreshness
  complete : ∃ report, p.latestNetworkReport = some report
    ∧ report.roundTripMs = some roundTripMs ∧ report.jitterMs = some jitterMs

/-- The time one path takes: half a round trip, rounded up, and the jitter. -/
def DataPath.ms (path : DataPath) : Nat := ⌈(path.roundTripMs : ℚ) / 2⌉₊ + path.jitterMs

/-- The delay that the two data paths of a room call for. -/
def startDelay (a b : DataPath) (rate : FrameRate) : Nat :=
  clamp 2 8 (⌈((a.ms + b.ms : Nat) : ℚ) * rate.numerator / (1000 * rate.denominator)⌉₊ + 1)

section

variable {a b a' b' : DataPath} {rate rate' : FrameRate}

theorem startDelay_comm : startDelay a b rate = startDelay b a rate := by
  unfold startDelay
  rw [Nat.add_comm a.ms b.ms]

theorem DataPath.NoWorse.ms (h : a.NoWorse b) : a.ms ≤ b.ms := by
  refine Nat.add_le_add (Nat.ceil_mono ?_) h.jitter
  have hcast : (a.roundTripMs : ℚ) ≤ b.roundTripMs := Nat.cast_le.mpr h.roundTrip
  linarith

/-- A longer path or a faster rate never calls for less delay. -/
theorem startDelay_mono (ha : a.NoWorse a') (hb : b.NoWorse b') (hrate : rate.value ≤ rate'.value) :
    startDelay a b rate ≤ startDelay a' b' rate' := by
  refine clamp_mono (Nat.add_le_add_right (Nat.ceil_mono ?_) 1)
  have hms : ((a.ms + b.ms : Nat) : ℚ) ≤ (a'.ms + b'.ms : Nat) :=
    Nat.cast_le.mpr (Nat.add_le_add ha.ms hb.ms)
  -- the quotient is the path time in seconds times the rate
  have hsplit : ∀ (ms : ℚ) (rate : FrameRate),
      ms * rate.numerator / (1000 * rate.denominator) = ms / 1000 * rate.value := by
    intro ms rate
    unfold FrameRate.value
    ring
  have hvalue : 0 ≤ rate.value := div_nonneg (Nat.cast_nonneg _) (Nat.cast_nonneg _)
  rw [hsplit, hsplit]
  gcongr

end

/-! ## What the code computes -/

theorem completeReport_eq_some {now : Instant} {p : PlayerSlot} {a : DataPath}
    (h : Reports now p a.roundTripMs a.jitterMs) :
    ∃ report, completeReport now p = some report ∧ report.roundTripMs = some a.roundTripMs
      ∧ report.jitterMs = some a.jitterMs := by
  obtain ⟨⟨reportedAt, hat, hfresh⟩, ⟨report, hreport, htrip, hjitter⟩⟩ := h
  refine ⟨report, ?_, htrip, hjitter⟩
  have hrecent : isFresh p.latestNetworkReportedAt now = true := by
    rw [hat]
    exact decide_eq_true hfresh
  simp [completeReport, hreport, hrecent, htrip, hjitter]

theorem completeReport_eq_none {now : Instant} {p : PlayerSlot}
    (h : ¬∃ roundTripMs jitterMs, Reports now p roundTripMs jitterMs) :
    completeReport now p = none := by
  cases hcomplete : completeReport now p with
  | none => rfl
  | some report =>
    unfold completeReport at hcomplete
    rw [Option.filter_eq_some_iff] at hcomplete
    obtain ⟨hreport, hgood⟩ := hcomplete
    simp only [Bool.and_eq_true, Option.isSome_iff_exists] at hgood
    obtain ⟨⟨hfresh, roundTripMs, htrip⟩, jitterMs, hjitter⟩ := hgood
    unfold isFresh at hfresh
    obtain ⟨reportedAt, hat, hle⟩ := (Option.any_eq_true _ _).mp hfresh
    exact absurd ⟨roundTripMs, jitterMs, ⟨reportedAt, hat, of_decide_eq_true hle⟩,
      ⟨report, hreport, htrip, hjitter⟩⟩ h

/-- Neither product of the conversion reaches `2 ^ 128`. -/
theorem framesForMsAtRate_eq {ms : Nat} (rate : FrameRate) (hms : ms ≤ u64Max) :
    framesForMsAtRate ms rate.numerator rate.denominator
      = min ⌈(ms : ℚ) * rate.numerator / (1000 * rate.denominator)⌉₊ 8 := by
  have hdividend : ms * rate.numerator ≤ u128Max :=
    (Nat.mul_le_mul hms rate.numerator_le).trans (by decide)
  have hdivisor : 1000 * rate.denominator ≤ u128Max :=
    (Nat.mul_le_mul_left 1000 rate.denominator_le).trans (by decide)
  have hpos := rate.denominator_pos
  have hone : max (1000 * rate.denominator) 1 = 1000 * rate.denominator := by omega
  unfold framesForMsAtRate
  rw [satMul_eq_mul hdividend, satMul_eq_mul hdivisor]
  dsimp only
  rw [hone, add_pred_div_eq_ceil (by omega)]
  push_cast
  rfl

/-- The time of a path is computed without saturation, whatever has been summed up before it. -/
theorem satAdd_path {budget : Nat} (a : DataPath) (hbudget : budget ≤ 2 * u32Max) :
    satAdd u64Max (satAdd u64Max budget (satAdd u64Max a.roundTripMs 1 / 2)) a.jitterMs
      = budget + a.ms := by
  have htrip := a.roundTripMs_le
  have hjitter := a.jitterMs_le
  have hhalf : (a.roundTripMs + 1) / 2 = ⌈(a.roundTripMs : ℚ) / 2⌉₊ := by
    have h := add_pred_div_eq_ceil (a := a.roundTripMs) (b := 2) (by decide)
    exact_mod_cast h
  have hlimit : 4 * u32Max + 1 ≤ u64Max := by decide
  have hup : satAdd u64Max a.roundTripMs 1 = a.roundTripMs + 1 := satAdd_eq_add (by omega)
  have hway : satAdd u64Max budget ((a.roundTripMs + 1) / 2)
      = budget + (a.roundTripMs + 1) / 2 := satAdd_eq_add (by omega)
  unfold DataPath.ms
  rw [← hhalf, hup, hway, satAdd_eq_add (by omega), Nat.add_assoc]

theorem DataPath.ms_le (a : DataPath) : a.ms ≤ 2 * u32Max := by
  have htrip := a.roundTripMs_le
  have hjitter := a.jitterMs_le
  have hhalf : ⌈(a.roundTripMs : ℚ) / 2⌉₊ ≤ a.roundTripMs := by
    rw [Nat.ceil_le]
    have hcast : (0 : ℚ) ≤ a.roundTripMs := Nat.cast_nonneg _
    linarith
  unfold DataPath.ms
  omega

section

variable {players : List PlayerSlot} {p q : PlayerSlot} {a b : DataPath} {now : Instant}
  {current : Nat}

/-- Two measured players get the delay of their paths, unless they have it already. -/
theorem initialV5Decision_measured {nominal : Option (Nat × Nat)} {rate : FrameRate}
    (hplayers : players.filter (·.isConnected) = [p, q])
    (hp : Reports now p a.roundTripMs a.jitterMs) (hq : Reports now q b.roundTripMs b.jitterMs)
    (hrate : nominal.getD defaultNominalFrameRate = (rate.numerator, rate.denominator)) :
    (initialV5Decision current players nominal now).getD current = startDelay a b rate := by
  obtain ⟨left, hleft, hleftTrip, hleftJitter⟩ := completeReport_eq_some hp
  obtain ⟨right, hright, hrightTrip, hrightJitter⟩ := completeReport_eq_some hq
  -- the code falls back to the default rate only where the fraction is not positive
  have hfilter : (nominal.filter fun rate => rate.1 > 0 && rate.2 > 0).getD
      defaultNominalFrameRate = (rate.numerator, rate.denominator) := by
    cases nominal with
    | none => exact hrate
    | some fraction =>
      rw [Option.getD_some] at hrate
      rw [hrate]
      simp [Option.filter, rate.numerator_pos, rate.denominator_pos]
  have hsum : satAdd u64Max (satAdd u64Max (satAdd u64Max (satAdd u64Max 0
      (satAdd u64Max a.roundTripMs 1 / 2)) a.jitterMs) (satAdd u64Max b.roundTripMs 1 / 2))
      b.jitterMs = a.ms + b.ms := by
    rw [satAdd_path a (Nat.zero_le _), Nat.zero_add, satAdd_path b a.ms_le]
  have hmax : a.ms + b.ms ≤ u64Max :=
    (Nat.add_le_add a.ms_le b.ms_le).trans (by decide)
  have hsafe : satAdd u8Max (min ⌈((a.ms + b.ms : Nat) : ℚ) * rate.numerator
      / (1000 * rate.denominator)⌉₊ 8) latencySafetyFrames
      = min ⌈((a.ms + b.ms : Nat) : ℚ) * rate.numerator / (1000 * rate.denominator)⌉₊ 8 + 1 := by
    have hlimit : u8Max = 255 := rfl
    refine satAdd_eq_add ?_
    unfold latencySafetyFrames
    omega
  unfold initialV5Decision
  simp only [hplayers, List.isEmpty_cons, Bool.false_eq_true, if_false, List.mapM_cons,
    List.mapM_nil, hleft, hright, Option.pure_def, Option.bind_eq_bind, Option.bind_some,
    List.foldl_cons, List.foldl_nil, hleftTrip, hleftJitter, hrightTrip, hrightJitter,
    Option.getD_some, hfilter, hsum]
  rw [framesForMsAtRate_eq rate hmax, hsafe]
  have htarget : clampDelay (min ⌈((a.ms + b.ms : Nat) : ℚ) * rate.numerator
      / (1000 * rate.denominator)⌉₊ 8 + 1) = startDelay a b rate := clamp_min_add
  rw [htarget]
  by_cases hsame : startDelay a b rate = current
  · simp [hsame]
  · simp [hsame]

/-- One connected player without a report is enough to keep the delay. -/
theorem initialV5Decision_unmeasured {nominal : Option (Nat × Nat)} (hp : p ∈ players)
    (hconnected : p.isConnected)
    (hnone : ¬∃ roundTripMs jitterMs, Reports now p roundTripMs jitterMs) :
    initialV5Decision current players nominal now = none := by
  have hmem : p ∈ players.filter (·.isConnected) := List.mem_filter.mpr ⟨hp, hconnected⟩
  have hmapM : (players.filter (·.isConnected)).mapM (completeReport now) = none := by
    generalize players.filter (·.isConnected) = connected at hmem
    induction connected with
    | nil => exact absurd hmem List.not_mem_nil
    | cons head rest ih =>
      rw [List.mapM_cons]
      rcases List.mem_cons.mp hmem with rfl | htail
      · simp [completeReport_eq_none hnone]
      · cases completeReport now head <;> simp [ih htail]
  unfold initialV5Decision
  simp only [hmapM, ite_self]

end

/-! ## The delay of a room -/

/-- The rate the fingerprints agreed on, sixty frames a second without a profile. -/
def nominalFrameRate (r : NetplayRoom) (order : HashOrder) : Nat × Nat :=
  ((r.firstDeterminismProfile order).map fun profile =>
    (profile.nominalFrameRateNumerator, profile.nominalFrameRateDenominator)).getD
      defaultNominalFrameRate

/-- The input delay a start would be fixed with. -/
def delayAtStart (r : NetplayRoom) (order : HashOrder) (now : Instant) : Nat :=
  (r.applyInitialV5InputDelay order now).session.controller.inputDelayFrames

/-- A version 5 room with two connected players on measured paths. -/
structure MeasuredRoom (r : NetplayRoom) (order : HashOrder) (now : Instant) (a b : DataPath)
    (rate : FrameRate) : Prop where
  strict : r.usesStrictControllerInput
  paths : ∃ p q, r.players.filter (·.isConnected) = [p, q]
    ∧ Reports now p a.roundTripMs a.jitterMs ∧ Reports now q b.roundTripMs b.jitterMs
  rate : nominalFrameRate r order = (rate.numerator, rate.denominator)

theorem delayAtStart_eq_getD {r : NetplayRoom} {order : HashOrder} {now : Instant}
    (hstrict : r.usesStrictControllerInput) : delayAtStart r order now
      = (initialV5Decision r.session.controller.inputDelayFrames r.players
          ((r.firstDeterminismProfile order).map fun profile =>
            (profile.nominalFrameRateNumerator, profile.nominalFrameRateDenominator)) now).getD
          r.session.controller.inputDelayFrames := by
  unfold delayAtStart NetplayRoom.applyInitialV5InputDelay
  simp only [hstrict, Bool.not_true, Bool.false_eq_true, if_false]
  cases initialV5Decision r.session.controller.inputDelayFrames r.players
    ((r.firstDeterminismProfile order).map fun profile =>
      (profile.nominalFrameRateNumerator, profile.nominalFrameRateDenominator)) now <;> rfl

theorem MeasuredRoom.delay {r : NetplayRoom} {order : HashOrder} {now : Instant} {a b : DataPath}
    {rate : FrameRate} (h : MeasuredRoom r order now a b rate) :
    delayAtStart r order now = startDelay a b rate := by
  obtain ⟨p, q, hplayers, hp, hq⟩ := h.paths
  rw [delayAtStart_eq_getD h.strict]
  exact initialV5Decision_measured hplayers hp hq h.rate

/-- **The delay of a version 5 start.** Two measured players get exactly the delay of their paths,
in whatever order they sit; a longer path or a faster rate never gives less; and without a report
of every connected player the configured delay stays. -/
theorem start_delay_exact {r : NetplayRoom} {order : HashOrder} {now : Instant}
    (hstrict : r.usesStrictControllerInput) :
    (∀ a b rate, MeasuredRoom r order now a b rate →
      delayAtStart r order now = startDelay a b rate
      ∧ (∀ r' order' now' a' b' rate', MeasuredRoom r' order' now' a' b' rate' →
          a.NoWorse a' → b.NoWorse b' → rate.value ≤ rate'.value →
          delayAtStart r order now ≤ delayAtStart r' order' now')
      ∧ (∀ r' order' now', MeasuredRoom r' order' now' b a rate →
          delayAtStart r' order' now' = delayAtStart r order now))
    ∧ ((∃ p ∈ r.players, p.isConnected
        ∧ ¬∃ roundTripMs jitterMs, Reports now p roundTripMs jitterMs) →
      delayAtStart r order now = r.session.controller.inputDelayFrames) := by
  refine ⟨?_, ?_⟩
  · intro a b rate h
    refine ⟨h.delay, ?_, ?_⟩
    · intro r' order' now' a' b' rate' h' ha hb hrate
      rw [h.delay, h'.delay]
      exact startDelay_mono ha hb hrate
    · intro r' order' now' h'
      rw [h.delay, h'.delay]
      exact startDelay_comm
  · intro hmissing
    obtain ⟨p, hp, hconnected, hnone⟩ := hmissing
    rw [delayAtStart_eq_getD hstrict, initialV5Decision_unmeasured hp hconnected hnone]
    rfl

/-- Both players of a playing room report a round trip of 61 ms and a jitter of 4 ms. -/
def measuredRoom : StoredRoom :=
  let network : ClientNetworkQualityReport := ⟨some 61, some 4, none, none, none⟩
  after sampleRelay (sampleRoom 5) (seating false ++ handshake 5 0
    ++ [.recordHeartbeat hostSocket none (some network) .playing 0,
      .recordHeartbeat guestSocket none (some network) .playing 0])

def sampleDataPath : DataPath := ⟨61, 4, by decide, by decide⟩

def sampleFrameRate : FrameRate := ⟨60, 1, by decide, by decide, by decide, by decide⟩

theorem start_delay_exact_sample : Reachable sampleRelay measuredRoom
    ∧ MeasuredRoom measuredRoom.room .stored 0 sampleDataPath sampleDataPath sampleFrameRate
    ∧ delayAtStart measuredRoom.room .stored 0 = 6 := by
  have hreports : (measuredRoom.room.players.filter (·.isConnected)).map
        (fun p => (p.latestNetworkReportedAt, p.latestNetworkReport))
      = List.replicate 2 (some 0, some ⟨some 61, some 4, none, none, none⟩)
      ∧ measuredRoom.room.usesStrictControllerInput
      ∧ nominalFrameRate measuredRoom.room .stored = (60, 1) := by
    decide +kernel
  obtain ⟨hreports, hstrict, hrate⟩ := hreports
  have hlength : (measuredRoom.room.players.filter (·.isConnected)).length = 2 := by
    rw [← List.length_map, hreports]
    rfl
  obtain ⟨p, q, hpq⟩ := List.length_eq_two.mp hlength
  rw [hpq] at hreports
  simp only [List.map_cons, List.map_nil, List.replicate, List.cons.injEq, Prod.mk.injEq,
    and_true] at hreports
  obtain ⟨⟨hpAt, hpReport⟩, hqAt, hqReport⟩ := hreports
  have hmeasured : MeasuredRoom measuredRoom.room .stored 0 sampleDataPath sampleDataPath
      sampleFrameRate :=
    { strict := hstrict
      paths := ⟨p, q, hpq, ⟨⟨0, hpAt, by decide⟩, ⟨_, hpReport, rfl, rfl⟩⟩,
        ⟨⟨0, hqAt, by decide⟩, ⟨_, hqReport, rfl, rfl⟩⟩⟩
      rate := hrate }
  refine ⟨reachable_after (by decide +kernel), hmeasured, ?_⟩
  rw [((start_delay_exact hstrict).1 _ _ _ hmeasured).1]
  decide +kernel

end NetplayRelay.Proof
