import NetplayRelay.Proof.Controls
import NetplayRelay.Proof.Histories

/-!
# Who reported what

A player's fingerprint, its readiness, its vote for deterministic readiness and its clock samples
are stored under its number, not under the socket that reported them. They are worth something only
as long as that socket is the player's own.

`lastRecorder` reads from the history which socket reported an entry. A call that puts another
control socket on a seat normally forgets everything that was reported, because it starts the
session over. Two calls do not: the host that comes back through its invite loses its readiness
only, and a runner that takes over an armed seat loses nothing. `inheritsEntries` names them; in
every other history what is stored for a player was reported by the socket it is connected through.
-/

namespace NetplayRelay.Proof

open Lib Protocol Rooms Registry

variable {relay : Relay} {r r' : NetplayRoom} {p : PlayerIndex} {q : PlayerIndex} {s : StoredRoom}
  {c : ConnectionId} {now : Instant} {grace : Duration} {op : RoomOp} {kind : EntryKind}
  {network : Option ClientNetworkQualityReport}

/-! ## Entries -/

/-- What a player reports on the way to a start. -/
inductive EntryKind where
  | fingerprint
  | ready
  | vote
  | sample (index : Nat)

/-- Something of this kind is stored for player `p`. -/
def holdsEntry (core : SessionCore) (p : PlayerIndex) : EntryKind → Bool
  | .fingerprint => (core.compatibility.lookup p).isSome
  | .ready => p ∈ core.readyPlayers
  | .vote => p ∈ core.deterministicReadyPlayers
  | .sample index => (core.clockSampleIndicesByPlayer.lookup p).any (index ∈ ·)

/-- The socket whose call recorded an entry of `p`, if this call did. -/
def recorder (relay : Relay) (p : PlayerIndex) (kind : EntryKind) (visit : StoredRoom × RoomOp) :
    Option ConnectionId :=
  let r := visit.1.room
  match kind, visit.2 with
  | .fingerprint, .setCompatibility _ c fp =>
    if r.session.mode = .controllerNetplay ∧ r.status ≠ .closed ∧ r.fingerprintMatchesSession fp
        ∧ r.playerIndexForConnection c = some p then some c else none
  | .ready, .markReady c network now =>
    if (r.markReady c network now).1.isOk ∧ r.playerIndexForConnection c = some p then some c
    else none
  | .vote, .markDeterministicReady order c network now =>
    if (r.markDeterministicReady order c network now (relay.serverTimeMsAt now)).1.isOk
        ∧ r.playerIndexForConnection c = some p then some c else none
  | .sample index, .recordClockSyncSample order c sample now =>
    if (r.acceptClockSyncSample order c sample now (relay.serverTimeMsAt now)).1.isOk
        ∧ sample.sampleIndex = index ∧ r.playerIndexForConnection c = some p then some c else none
  | _, _ => none

/-- The socket that recorded an entry of `p` last. -/
def lastRecorder (relay : Relay) (p : PlayerIndex) (kind : EntryKind)
    (past : List (StoredRoom × RoomOp)) : Option ConnectionId :=
  (past.filterMap (recorder relay p kind)).getLast?

/-- Every entry of the room was recorded by the socket its player is connected through. -/
def OwnEntries (relay : Relay) (past : List (StoredRoom × RoomOp)) (r : NetplayRoom) : Prop :=
  ∀ p kind, holdsEntry (sessionCore r) p kind →
    ∃ c, controlOf r p = some c ∧ lastRecorder relay p kind past = some c

/-- Entries that a readiness report does not cover. -/
def hasReports (r : NetplayRoom) (p : PlayerIndex) : Bool :=
  (r.compatibility.lookup p).isSome || p ∈ r.deterministicReadyPlayers
    || (r.clockSampleIndicesByPlayer.lookup p).isSome

/-- The calls that hand stored entries to another socket: the host comes back through its invite and
has reported more than readiness, or a runner takes over an armed seat whose player has reported
anything. -/
def inheritsEntries (r : NetplayRoom) : RoomOp → Bool
  | .connectHost key .. => (r.players.find? (·.role = .host)).any fun slot =>
      slot.subjectKey = some key && hasReports r slot.playerIndex
  | .reconnectPlayer request => (r.slotForPlayer request.playerIndex).any fun slot =>
      slot.runnerHandoffDeadline.isSome && slot.resumeTokenHash = some request.resumeTokenHash
        && (hasReports r request.playerIndex || request.playerIndex ∈ r.readyPlayers)
  | _ => false

/-! ## What is forgotten -/

/-- There is nothing in a session that starts over. -/
theorem holdsEntry_blank {core : SessionCore} (h : holdsEntry core p kind)
    (hfingerprint : core.compatibility = ∅) (hready : core.readyPlayers = ∅)
    (hvote : core.deterministicReadyPlayers = ∅) (hsample : core.clockSampleIndicesByPlayer = ∅) :
    False := by
  cases kind with
  | fingerprint =>
    rw [holdsEntry, hfingerprint] at h
    exact absurd h (by simp)
  | ready =>
    rw [holdsEntry, hready] at h
    exact absurd h (by simp)
  | vote =>
    rw [holdsEntry, hvote] at h
    exact absurd h (by simp)
  | sample i =>
    rw [holdsEntry, hsample] at h
    exact absurd h (by simp)

/-- Where the entries of a room come from, kind by kind. -/
theorem holdsEntry_step (core : SessionCore) {core' : SessionCore} (New : EntryKind → Prop)
    (h : holdsEntry core' p kind) (hfingerprint : (core'.compatibility.lookup p).isSome →
      (core.compatibility.lookup p).isSome ∨ New .fingerprint)
    (hready : p ∈ core'.readyPlayers → p ∈ core.readyPlayers ∨ New .ready)
    (hvote : p ∈ core'.deterministicReadyPlayers → p ∈ core.deterministicReadyPlayers ∨ New .vote)
    (hsample : ∀ i, (core'.clockSampleIndicesByPlayer.lookup p).any (i ∈ ·) →
      (core.clockSampleIndicesByPlayer.lookup p).any (i ∈ ·) ∨ New (.sample i)) :
    holdsEntry core p kind ∨ New kind := by
  cases kind with
  | fingerprint => exact hfingerprint h
  | ready => exact (hready (of_decide_eq_true h)).imp_left decide_eq_true
  | vote => exact (hvote (of_decide_eq_true h)).imp_left decide_eq_true
  | sample i => exact hsample i h

/-- Fingerprints and readiness may have been dropped; nothing was added. -/
theorem holdsEntry_fewer (core : SessionCore) {core' : SessionCore} (h : holdsEntry core' p kind)
    (hfingerprint : (core'.compatibility.lookup p).isSome → (core.compatibility.lookup p).isSome)
    (hready : core'.readyPlayers ⊆ core.readyPlayers)
    (hvote : core'.deterministicReadyPlayers = core.deterministicReadyPlayers)
    (hsample : core'.clockSampleIndicesByPlayer = core.clockSampleIndicesByPlayer) :
    holdsEntry core p kind := by
  refine (holdsEntry_step core (fun _ => False) h ?_ ?_ ?_ ?_).resolve_right id
  · exact fun hp => .inl (hfingerprint hp)
  · exact fun hp => .inl (hready hp)
  · rw [hvote]
    exact .inl
  · rw [hsample]
    exact fun _ => .inl

/-- What is left of the fingerprints after one was dropped. -/
theorem isSome_of_erase {α : Type} {m : PlayerMap α} (h : ((m.erase q).lookup p).isSome) :
    (m.lookup p).isSome := by
  obtain ⟨a, ha⟩ := Option.isSome_iff_exists.mp h
  rw [lookup_erase_some ha]
  rfl

/-- Every entry is a report or readiness. -/
theorem not_holdsEntry (h : holdsEntry (sessionCore r) p kind) (hreports : hasReports r p = false)
    (hready : p ∉ r.readyPlayers) : False := by
  simp only [hasReports, Bool.or_eq_false_iff, decide_eq_false_iff_not] at hreports
  obtain ⟨⟨hfingerprint, hvote⟩, hsample⟩ := hreports
  cases kind with
  | fingerprint => exact absurd (h.symm.trans hfingerprint) (by simp)
  | ready => exact hready (of_decide_eq_true h)
  | vote => exact hvote (of_decide_eq_true h)
  | sample index =>
    rw [Option.isSome_eq_false_iff, Option.isNone_iff_eq_none] at hsample
    rw [holdsEntry, sessionCore, hsample] at h
    exact absurd h (by simp)

/-! ## Where entries come from -/

/-- A readiness report is recorded or leaves the room alone. -/
theorem recorder_ready (hp : s.room.playerIndexForConnection c = some p) :
    recorder relay p .ready (s, .markReady c network now) = some c
      ∨ applyOp relay s.room (.markReady c network now) = s.room := by
  have hok : (s.room.markReady c network now).1.isOk
      ∨ (markReady relay s.room c network now).2 = s.room := by
    have houtcome := markReady_outcome (r := s.room) c network now
    unfold markReady
    generalize s.room.markReady c network now = outcome at houtcome
    cases houtcome with
    | refused => exact .inr rfl
    | counted | started => exact .inl rfl
  exact hok.imp_left fun hok => if_pos ⟨hok, hp⟩

theorem recorder_vote {order : HashOrder} (hp : s.room.playerIndexForConnection c = some p) :
    recorder relay p .vote (s, .markDeterministicReady order c network now) = some c
      ∨ applyOp relay s.room (.markDeterministicReady order c network now) = s.room := by
  have hok : (s.room.markDeterministicReady order c network now (relay.serverTimeMsAt now)).1.isOk
      ∨ (s.room.markDeterministicReady order c network now (relay.serverTimeMsAt now)).2
        = s.room := by
    fun_cases NetplayRoom.markDeterministicReady s.room order c network now
      (relay.serverTimeMsAt now) with
    | case1 | case2 | case3 => exact .inr rfl
    | case4 => exact .inl rfl
  exact hok.imp_left fun hok => if_pos ⟨hok, hp⟩

theorem recorder_sample {order : HashOrder} {sample : ClockSyncSample}
    (hp : s.room.playerIndexForConnection c = some p) :
    recorder relay p (.sample sample.sampleIndex) (s, .recordClockSyncSample order c sample now)
        = some c
      ∨ applyOp relay s.room (.recordClockSyncSample order c sample now) = s.room := by
  have hok : (s.room.acceptClockSyncSample order c sample now (relay.serverTimeMsAt now)).1.isOk
      ∨ (s.room.acceptClockSyncSample order c sample now (relay.serverTimeMsAt now)).2
        = s.room := by
    fun_cases NetplayRoom.acceptClockSyncSample s.room order c sample now
      (relay.serverTimeMsAt now) with
    | case1 | case2 | case3 | case4 => exact .inr rfl
    | case5 => exact .inl rfl
  exact hok.imp_left fun hok => if_pos ⟨hok, rfl, hp⟩

theorem sample_of_insert {samples : PlayerMap (Finset Nat)} {i index : Nat}
    (h : ((samples.insert q (insert index ((samples.lookup q).getD ∅))).lookup p).any (i ∈ ·)) :
    (samples.lookup p).any (i ∈ ·) ∨ (p = q ∧ i = index) := by
  by_cases hp : p = q
  · subst hp
    rw [AList.lookup_insert, Option.any_some, decide_eq_true_eq] at h
    rcases Finset.mem_insert.mp h with rfl | hi
    · exact .inr ⟨rfl, rfl⟩
    left
    cases hsamples : samples.lookup p with
    | none =>
      rw [hsamples] at hi
      exact absurd hi (Finset.notMem_empty i)
    | some old =>
      rw [hsamples] at hi
      exact decide_eq_true hi
  · left
    rwa [AList.lookup_insert_ne hp] at h

theorem holdsEntry_countReady (h : holdsEntry (sessionCore (countReady r q)) p kind) :
    holdsEntry (sessionCore r) p kind ∨ (p = q ∧ kind = .ready) := by
  refine holdsEntry_step _ (fun kind => p = q ∧ kind = .ready) h .inl (fun hp => ?_) .inl
    fun _ => .inl
  rcases Finset.mem_insert.mp hp with hp | hp
  · exact .inr ⟨hp, rfl⟩
  · exact .inl hp

theorem holdsEntry_countVote (h : holdsEntry (sessionCore (countVote r q)) p kind) :
    holdsEntry (sessionCore r) p kind ∨ (p = q ∧ kind = .vote) := by
  refine holdsEntry_step _ (fun kind => p = q ∧ kind = .vote) h .inl .inl (fun hp => ?_)
    fun _ => .inl
  rcases Finset.mem_insert.mp hp with hp | hp
  · exact .inr ⟨hp, rfl⟩
  · exact .inl hp

theorem holdsEntry_withClockSample {sample : ClockSyncSample} {t : Nat}
    (h : holdsEntry (sessionCore (withClockSample r q sample t)) p kind) :
    holdsEntry (sessionCore r) p kind ∨ (p = q ∧ kind = .sample sample.sampleIndex) := by
  refine holdsEntry_step _ (fun kind => p = q ∧ kind = .sample sample.sampleIndex) h .inl .inl
    .inl fun i hi => ?_
  rcases sample_of_insert hi with hi | ⟨hp, hi⟩
  · exact .inl hi
  · exact .inr ⟨hp, congrArg EntryKind.sample hi⟩

theorem holdsEntry_storeFingerprint {fp : CompatibilityFingerprint}
    (h : holdsEntry (sessionCore (r.storeFingerprint q fp)) p kind) :
    holdsEntry (sessionCore r) p kind ∨ (p = q ∧ kind = .fingerprint) := by
  refine holdsEntry_step _ (fun kind => p = q ∧ kind = .fingerprint) h (fun hp => ?_)
    (fun hp => .inl (Finset.mem_of_mem_erase hp)) .inl fun _ => .inl
  by_cases heq : p = q
  · exact .inr ⟨heq, rfl⟩
  left
  have hlookup : (r.storeFingerprint q fp).compatibility.lookup p = r.compatibility.lookup p :=
    AList.lookup_insert_ne heq
  exact hlookup ▸ hp

/-- A loss of sockets records nothing. -/
theorem holdsEntry_of_controlLoss (hloss : ControlLoss r c now grace r')
    (h : holdsEntry (sessionCore r') p kind) : holdsEntry (sessionCore r) p kind := by
  cases hloss with
  | unknown _ hsame => rwa [hsame.core] at h
  | handoffKept | recovery | hostGone | guestGone =>
    exact (holdsEntry_blank h rfl rfl rfl rfl).elim
  | @alsoLost r₁ _ _ _ hr₁ =>
    rw [← hr₁.core]
    exact holdsEntry_fewer (sessionCore r₁) h isSome_of_erase (Finset.erase_subset _ _) rfl rfl

/-- **Whatever is stored was stored before or is recorded by this call.** -/
theorem entry_recorded (h : holdsEntry (sessionCore (applyOp relay s.room op)) p kind) :
    holdsEntry (sessionCore s.room) p kind ∨ ∃ c, recorder relay p kind (s, op) = some c := by
  have heffect := applyOp_effect relay s.room op
  generalize hr' : applyOp relay s.room op = r' at h heffect
  -- a report that is not recorded leaves the room alone
  have hreport : ∀ {c}, recorder relay p kind (s, op) = some c ∨ applyOp relay s.room op = s.room →
      holdsEntry (sessionCore s.room) p kind ∨ ∃ c, recorder relay p kind (s, op) = some c := by
    intro c hcall
    rcases hcall with hc | hsame
    · exact .inr ⟨c, hc⟩
    · rw [← hsame, hr']
      exact .inl h
  cases heffect with
  | bookkeeping hsame =>
    rw [hsame.core] at h
    exact .inl h
  | joined | reconnected | exited | resynced | pinned =>
    exact (holdsEntry_blank h rfl rfl rfl rfl).elim
  | hostAttached | linkRejected | linkStored | linksDiffer | linksAgree =>
    exact .inl (holdsEntry_fewer (sessionCore s.room) h id (Finset.erase_subset _ _) rfl rfl)
  | handoffReconnected | inputAttached | inputLost | pinTimedOut => exact .inl h
  | controlLost hloss => exact .inl (holdsEntry_of_controlLoss hloss h)
  | inputAndControlLost _ _ _ hloss =>
    left
    have hbefore := holdsEntry_of_controlLoss hloss h
    exact hbefore
  | handoffsLapsed hcleared =>
    rw [hcleared.core] at h
    exact (holdsEntry_blank h rfl rfl rfl rfl).elim
  | heartbeatsStopped _ hdropped =>
    rw [hdropped.core] at h
    exact (holdsEntry_blank h rfl rfl rfl rfl).elim
  | fingerprintRejected =>
    exact .inl (holdsEntry_fewer (sessionCore s.room) h isSome_of_erase
      (Finset.erase_subset _ _) rfl rfl)
  | fingerprintStored hmode hstatus hp hfp | fingerprintsDiffer hmode hstatus hp hfp
  | fingerprintsAgree hmode hstatus hp hfp =>
    rcases holdsEntry_storeFingerprint h with h | ⟨rfl, rfl⟩
    · exact .inl h
    · exact .inr ⟨_, if_pos ⟨hmode, hstatus, hfp, hp⟩⟩
  | snapshotCompleted => exact .inl h
  | @becameReady _ _ _ q _ _ hready _ hp =>
    obtain ⟨_, hcore⟩ := hready.core
    have hmarked : holdsEntry (sessionCore (countReady s.room q)) p kind := by
      rw [hcore] at h
      exact h
    rcases holdsEntry_countReady hmarked with h | ⟨rfl, rfl⟩
    · exact .inl h
    · exact hreport (recorder_ready hp)
  | startedNow _ hr₁ _ _ hp =>
    have hread := hr₁.read (fun core => holdsEntry core p kind) fun _ _ => rfl
    rcases holdsEntry_countReady (hread ▸ h) with h | ⟨rfl, rfl⟩
    · exact .inl h
    · exact hreport (recorder_ready hp)
  | sampleStored hp =>
    rcases holdsEntry_withClockSample h with h | ⟨rfl, rfl⟩
    · exact .inl h
    · exact hreport (recorder_sample hp)
  | startFixedBySample hr₁ _ _ _ hp =>
    have hread := hr₁.read (fun core => holdsEntry core p kind) fun _ _ => rfl
    rcases holdsEntry_withClockSample (hread ▸ h) with h | ⟨rfl, rfl⟩
    · exact .inl h
    · exact hreport (recorder_sample hp)
  | voteCounted _ hp =>
    rcases holdsEntry_countVote h with h | ⟨rfl, rfl⟩
    · exact .inl h
    · exact hreport (recorder_vote hp)
  | startFixedByVote hr₁ _ _ _ _ hp =>
    have hread := hr₁.read (fun core => holdsEntry core p kind) fun _ _ => rfl
    rcases holdsEntry_countVote (hread ▸ h) with h | ⟨rfl, rfl⟩
    · exact .inl h
    · exact hreport (recorder_vote hp)
  | pauseOpened | pauseNoted | paused | pauseEndedByLast | restartedByLast | pauseEnded | restarted
  | inputAccepted | openHeld | frameReleased | openedByHost | openedByTimer => exact .inl h
  | legacyInput hinput =>
    rw [hinput.core] at h
    exact .inl h
  | legacyTick _ htick =>
    rw [htick.core] at h
    exact .inl h
  | recoveryPrepared hr₁ | recoveryLimited hr₁ =>
    rw [← hr₁.core]
    exact .inl h

/-! ## Recovery -/

/-- No vote and no clock sample is stored. -/
structure Bare (core : SessionCore) : Prop where
  noVotes : core.deterministicReadyPlayers = ∅
  noSamples : core.clockSampleIndicesByPlayer = ∅

theorem controlLoss_bare (hinv : r.status = .recovering → Bare (sessionCore r))
    (h : ControlLoss r c now grace r') (hstatus : r'.status = .recovering) :
    Bare (sessionCore r') := by
  cases h with
  | unknown _ hsame =>
    rw [hsame.core]
    exact hinv (hsame.status.symm.trans hstatus)
  | handoffKept | recovery | hostGone | guestGone => exact ⟨rfl, rfl⟩
  | alsoLost hr₁ _ _ _ hrecovering =>
    have hbare := hinv hrecovering
    rw [← hr₁.core] at hbare
    exact ⟨hbare.noVotes, hbare.noSamples⟩

/-- Nothing is reported for a start while a player is waited for. -/
theorem effect_bare (hidle : r.status = .recovering → Idle (sessionCore r))
    (hinv : r.status = .recovering → Bare (sessionCore r)) (h : Effect relay r op r')
    (hstatus : r'.status = .recovering) : Bare (sessionCore r') := by
  cases h with
  | bookkeeping hsame =>
    rw [hsame.core]
    exact hinv (hsame.status.symm.trans hstatus)
  | joined | reconnected | exited | resynced | pinned => exact ⟨rfl, rfl⟩
  | hostAttached | handoffReconnected | inputAttached | inputLost | fingerprintStored | linkStored
  | pauseOpened | pauseNoted | inputAccepted | openHeld | frameReleased =>
    have hbare := hinv hstatus
    exact ⟨hbare.noVotes, hbare.noSamples⟩
  | controlLost hloss => exact controlLoss_bare hinv hloss hstatus
  | inputAndControlLost _ _ _ hloss =>
    refine controlLoss_bare (fun hrecovering => ?_) hloss hstatus
    have hbare := hinv hrecovering
    exact ⟨hbare.noVotes, hbare.noSamples⟩
  | handoffsLapsed hcleared =>
    rw [hcleared.core]
    exact ⟨rfl, rfl⟩
  | heartbeatsStopped _ hdropped =>
    rw [hdropped.core]
    exact ⟨rfl, rfl⟩
  | snapshotCompleted _ _ hready | voteCounted hready =>
    rcases hready with h | h <;> exact absurd (h.symm.trans hstatus) (by simp)
  | sampleStored _ hrequest =>
    -- no clock request is open
    have hnone : r.clockSyncRequest = none := (hidle hstatus).noRequest
    exact absurd (hnone.symm.trans hrequest) (by simp)
  | becameReady _ hready =>
    obtain ⟨_, hcore⟩ := hready.core
    have hready : r'.status = .ready := congrArg (·.status) hcore
    exact absurd (hready.symm.trans hstatus) (by simp)
  | legacyInput hinput =>
    have hsame : r'.status = r.status := congrArg (·.status) hinput.core
    rcases hinput.status with h | h <;>
      exact absurd (h.symm.trans (hsame.symm.trans hstatus)) (by simp)
  | legacyTick _ htick => exact absurd (htick.playing.symm.trans hstatus) (by simp)
  | pinTimedOut | fingerprintRejected | fingerprintsDiffer | fingerprintsAgree | linkRejected
  | linksDiffer | linksAgree | startedNow | startFixedBySample | startFixedByVote | paused
  | pauseEndedByLast | restartedByLast | pauseEnded | restarted | openedByHost | openedByTimer
  | recoveryPrepared | recoveryLimited => exact absurd hstatus (by
      simp [scheduleStart, restartSession, NetplayRoom.beginV5PauseResume,
        NetplayRoom.scheduleV5Resume])

theorem bare_reachable (h : Reachable relay s) :
    s.room.status = .recovering → Bare (sessionCore s.room) := by
  refine reachable_inv (fun r => r.status = .recovering → Bare (sessionCore r)) ?_ ?_ h
  · intro roomId key c session version resume input now voice _
    cases voice <;> exact ⟨rfl, rfl⟩
  · intro s op hs hinv _ hstatus
    exact effect_bare (fun hrecovering => waited_reachable hs (.inl hrecovering)) hinv
      (applyOp_effect relay s.room op) hstatus

/-! ## A seat with entries keeps its control socket -/

/-- Who is lost while another player is waited for takes all entries along. -/
theorem controlLoss_control (hseats : Seats r)
    (hbare : r.status = .recovering → Bare (sessionCore r)) (hloss : ControlLoss r c now grace r')
    (h : holdsEntry (sessionCore r') p kind) : controlOf r' p = controlOf r p := by
  cases hloss with
  | unknown _ hsame => exact controlOf_keeps hsame.players p
  | handoffKept | recovery | hostGone | guestGone =>
    exact (holdsEntry_blank h rfl rfl rfl rfl).elim
  | @alsoLost r₁ _ slot _ hr₁ _ _ hslot hstatus =>
    rw [← controlOf_keeps hr₁.players p]
    refine controlOf_eq ?_
    rw [detachControl_markSlotReconnecting_players (hseats.keep hr₁.players hr₁.maxPlayers) hslot]
    refine forall₂_updateFirst (fun _ => ⟨rfl, fun _ => rfl⟩) fun slot' hslot' => ⟨rfl, ?_⟩
    intro hp
    have hsame : slot'.playerIndex = slot.playerIndex := by simpa using List.find?_some hslot'
    obtain rfl : slot.playerIndex = p := hsame.symm.trans hp
    have hbare₁ := hbare hstatus
    rw [← hr₁.core] at hbare₁
    have hvotes : r₁.deterministicReadyPlayers = ∅ := hbare₁.noVotes
    have hsamples : r₁.clockSampleIndicesByPlayer = ∅ := hbare₁.noSamples
    refine (not_holdsEntry h ?_ ?_).elim
    · simp [hasReports, detachControl, NetplayRoom.markSlotReconnecting, hvotes, hsamples]
    · simp [detachControl, NetplayRoom.markSlotReconnecting]

/-- **Where an entry is left after a call that hands none over, the control socket is left too.** -/
theorem effect_control (hseats : Seats r) (hbare : r.status = .recovering → Bare (sessionCore r))
    (hkept : inheritsEntries r op = false) (heffect : Effect relay r op r')
    (h : holdsEntry (sessionCore r') p kind) : controlOf r' p = controlOf r p := by
  have hchange := effect_seats hseats heffect
  cases heffect with
  | bookkeeping hsame => exact controlOf_keeps hsame.players p
  | joined | reconnected | exited => exact (holdsEntry_blank h rfl rfl rfl rfl).elim
  | @hostAttached key c resume input now capabilities slot _ hslot hkey =>
    by_cases hp : slot.playerIndex = p
    · -- the host had reported nothing but readiness, which it loses
      subst hp
      have hreports : hasReports r slot.playerIndex = false := by
        simpa [inheritsEntries, hslot, hkey] using hkept
      refine (not_holdsEntry h hreports ?_).elim
      exact Finset.notMem_erase _ _
    · exact controlOf_updateSlot hslot rfl fun heq => absurd heq hp
  | @handoffReconnected request slot _ hreturns hhandoff =>
    have hfound : r.players.find? (·.playerIndex = request.playerIndex) = some slot :=
      hreturns.found
    have hindex : slot.playerIndex = request.playerIndex := by simpa using List.find?_some hfound
    by_cases hp : slot.playerIndex = p
    · -- the runner takes over a seat for which nothing was reported
      rw [hindex] at hp
      subst hp
      have hnothing : (hasReports r request.playerIndex
          || decide (request.playerIndex ∈ r.readyPlayers)) = false := by
        simpa [inheritsEntries, hreturns.found, hreturns.token, hhandoff] using hkept
      rw [Bool.or_eq_false_iff, decide_eq_false_iff_not] at hnothing
      exact (not_holdsEntry h hnothing.1 hnothing.2).elim
    · exact controlOf_updateSlot hfound rfl fun heq => absurd heq hp
  | inputAttached hslot => exact controlOf_updateSlot hslot rfl fun _ => rfl
  | controlLost hloss => exact controlLoss_control hseats hbare hloss h
  | inputLost => exact controlOf_detachInputSocket r _ _ p _
  | @inputAndControlLost c control now slot _ _ _ _ hloss =>
    rw [← controlOf_detachInputSocket r c slot.playerIndex p now]
    refine controlLoss_control ?_ (fun hrecovering => ?_) hloss h
    · exact hseats.detachInputSocket _
    · have hbare := hbare hrecovering
      exact ⟨hbare.noVotes, hbare.noSamples⟩
  | pinTimedOut => exact controlOf_keeps (updateOccupied_keeps fun _ => .enter (by simp)) p
  | handoffsLapsed hcleared => exact controlOf_clears hcleared.players p
  | heartbeatsStopped _ hdropped =>
    rw [hdropped.core] at h
    exact (holdsEntry_blank h rfl rfl rfl rfl).elim
  | snapshotCompleted | pauseNoted => exact controlOf_keeps (keeps_refl _) p
  | legacyInput hinput =>
    refine controlOf_keeps ?_ p
    rw [hinput.players]
    exact keeps_refl _
  | _ => exact controlOf_keeps (hchange.stays rfl rfl) p

/-! ## Whole histories -/

/-- Entries are recorded by calls on the player's control socket that move nobody. -/
theorem recorder_spec (h : recorder relay p kind (s, op) = some c) :
    s.room.playerIndexForConnection c = some p ∧ attaches op = none ∧ leaves op = false := by
  unfold recorder at h
  simp only at h
  split at h
  · obtain ⟨hcall, hc⟩ := Option.ite_none_right_eq_some.mp h
    exact ⟨Option.some.inj hc ▸ hcall.2.2.2, rfl, rfl⟩
  · obtain ⟨hcall, hc⟩ := Option.ite_none_right_eq_some.mp h
    exact ⟨Option.some.inj hc ▸ hcall.2, rfl, rfl⟩
  · obtain ⟨hcall, hc⟩ := Option.ite_none_right_eq_some.mp h
    exact ⟨Option.some.inj hc ▸ hcall.2, rfl, rfl⟩
  · obtain ⟨hcall, hc⟩ := Option.ite_none_right_eq_some.mp h
    exact ⟨Option.some.inj hc ▸ hcall.2.2, rfl, rfl⟩
  · exact absurd h (by simp)

theorem ownEntries_step {past : List (StoredRoom × RoomOp)} (hreachable : Reachable relay s)
    (hkept : inheritsEntries s.room op = false) (hinv : OwnEntries relay past s.room) :
    OwnEntries relay (past ++ [(s, op)]) (applyOp relay s.room op) := by
  intro p kind hentry
  have hseats := seats_reachable hreachable
  have heffect := applyOp_effect relay s.room op
  rw [lastRecorder, List.filterMap_append, List.filterMap_cons, List.filterMap_nil]
  cases hrecorder : recorder relay p kind (s, op) with
  | some c =>
    obtain ⟨hp, hattaches, hleaves⟩ := recorder_spec hrecorder
    refine ⟨c, ?_, List.getLast?_concat⟩
    rw [controlOf_keeps ((effect_seats hseats heffect).stays hattaches hleaves)]
    exact hseats.controlOf hp
  | none =>
    -- the entry is an old one, and so is the socket
    rcases entry_recorded hentry with hold | ⟨c, hc⟩
    · obtain ⟨c, hcontrol, hlast⟩ := hinv p kind hold
      refine ⟨c, ?_, ?_⟩
      · rw [effect_control hseats (bare_reachable hreachable) hkept heffect hentry]
        exact hcontrol
      · rw [List.append_nil]
        exact hlast
    · exact absurd (hrecorder.symm.trans hc) (by simp)

/-- **In every history in which no call hands stored entries to another socket, every fingerprint,
readiness, vote and clock sample of a player was recorded by the control socket that holds the
player's seat.** -/
theorem entries_recorded_by_holder {roomId key c session version resume input now voice ops s}
    (hguarded : Guarded (StoredRoom.step relay)
      (fun s op => Admissible s.room op ∧ inheritsEntries s.room op = false)
      (createRoom roomId key c session version resume input now voice) ops)
    (hrun : run (StoredRoom.step relay)
      (createRoom roomId key c session version resume input now voice) ops = some s) :
    OwnEntries relay (visits (StoredRoom.step relay)
      (createRoom roomId key c session version resume input now voice) ops) s.room := by
  let Inv : List (StoredRoom × RoomOp) → StoredRoom → Prop := fun past s =>
    Reachable relay s ∧ OwnEntries relay past s.room
  have hkeep : ∀ past s op t, Inv past s →
      Admissible s.room op ∧ inheritsEntries s.room op = false →
      s.step relay op = some t → Inv (past ++ [(s, op)]) t := by
    intro past s op t hs hcall hstep
    refine ⟨reachable_step hs.1 hcall.1 hstep, ?_⟩
    rw [step_room hstep]
    exact ownEntries_step hs.1 hcall.2 hs.2
  have hnew : Inv [] (createRoom roomId key c session version resume input now voice) := by
    refine ⟨reachable_createRoom, ?_⟩
    intro p kind hentry
    cases voice <;> exact (holdsEntry_blank hentry rfl rfl rfl rfl).elim
  exact (history_run hkeep hguarded.history hrun hnew).2

/-- Up to the last clock sample but one of a first session. -/
def reporting : List RoomOp := seating true ++ handshake 5 0 ++ almostScheduled

/-- Both players report everything there is to report. -/
theorem entries_recorded_by_holder_reporting :
    ∃ s, run (StoredRoom.step sampleRelay) (sampleRoom 5) reporting = some s
      ∧ holdsEntry (sessionCore s.room) .one (.sample 1)
      ∧ OwnEntries sampleRelay (visits (StoredRoom.step sampleRelay) (sampleRoom 5) reporting)
          s.room := by
  have hfacts : Guarded (StoredRoom.step sampleRelay)
        (fun s op => Admissible s.room op ∧ inheritsEntries s.room op = false) (sampleRoom 5)
        reporting
      ∧ ∃ s ∈ run (StoredRoom.step sampleRelay) (sampleRoom 5) reporting,
        holdsEntry (sessionCore s.room) .one (.sample 1) := by
    decide +kernel
  obtain ⟨hguarded, s, hs, hentry⟩ := hfacts
  exact ⟨s, hs, hentry, entries_recorded_by_holder hguarded hs⟩

/-- The host reports its fingerprint and comes back through its invite. -/
def hostComesBack : List RoomOp :=
  seating true ++ [.setCompatibility .stored hostSocket (sampleFingerprint 5),
    .connectHost "host".toList newSocket "hr".toList "hi".toList 1 ⟨true, true, true, true, true⟩]

/-- The guest arms a runner handoff and reports everything before the runner takes over. -/
def runnerTakesOver : List RoomOp :=
  seating true ++ [.armRunnerHandoff guestSocket 0] ++ handshake 5 0 ++ almostScheduled
    ++ [.reconnectPlayer ⟨.two, "gr".toList, "gr2".toList, "gi2".toList, 2, newSocket, 1,
      ⟨true, true, true, true, true⟩⟩]

/-- After both histories the new socket has the seat, and what the old one reported is still
there: the host's fingerprint, and all that the guest reported. -/
theorem entries_survive_new_socket :
    let attached := after sampleRelay (sampleRoom 5) hostComesBack
    let takenOver := after sampleRelay (sampleRoom 5) runnerTakesOver
    (Reachable sampleRelay attached ∧ controlOf attached.room .one = some newSocket
        ∧ holdsEntry (sessionCore attached.room) .one .fingerprint
        ∧ lastRecorder sampleRelay .one .fingerprint
            (visits (StoredRoom.step sampleRelay) (sampleRoom 5) hostComesBack) = some hostSocket)
      ∧ Reachable sampleRelay takenOver ∧ controlOf takenOver.room .two = some newSocket
        ∧ ∀ kind ∈ [EntryKind.fingerprint, .ready, .vote, .sample 0],
          holdsEntry (sessionCore takenOver.room) .two kind
            ∧ lastRecorder sampleRelay .two kind
              (visits (StoredRoom.step sampleRelay) (sampleRoom 5) runnerTakesOver)
                = some guestSocket := by
  refine ⟨⟨reachable_after ?_, ?_⟩, reachable_after ?_, ?_⟩ <;> decide +kernel

end NetplayRelay.Proof
