import NetplayRelay.Proof.Fingerprints
import NetplayRelay.Proof.Resets

/-!
# Link-cable reports

The players of a link-cable room report their link before the room syncs: a protocol version and
the three names of the descriptor. Both are checked, by two different checks. A report that does
not fit the descriptor takes the player's earlier report out of the store. A report for another
protocol version is turned away before the store is looked at, and an earlier report of the player
that was accepted stays there: when the other player reports, the room syncs on a report that its
player has since taken back. `outlives` names these calls.

The store is compared with the history. `latestReport` reads from the calls so far what a player
has reported last since the session last started over; in the histories without such a call every
stored report is its player's latest one, and it passed both checks.
-/

namespace NetplayRelay.Proof

open Lib Protocol Rooms Registry NetplayRoom

variable {relay : Relay} {r r' : NetplayRoom} {p q : PlayerIndex} {order : HashOrder}
  {c : ConnectionId} {report : LinkCableCompatibility} {op : RoomOp} {state : LinkCableRoomState}
  {s : StoredRoom}

/-! ## Reports and what is kept of them -/

/-- The report of player `p` that a call puts to the checks. A room that is closed, that plays or
that has no link refuses a report before it checks anything. -/
def takenReport (r : NetplayRoom) (p : PlayerIndex) : RoomOp → Option LinkCableCompatibility
  | .setLinkCableCompatibility _ c report =>
    if r.status ≠ .closed ∧ r.status ≠ .playing ∧ r.playerIndexForConnection c = some p
        ∧ r.linkDescriptor.isOk then some report else none
  | _ => none

/-- The two checks of a report. -/
def passesChecks (r : NetplayRoom) (report : LinkCableCompatibility) : Bool :=
  match r.linkDescriptor with
  | .ok link => report.protocolVersion = r.protocolVersion && report.matchesDescriptor link
  | .error _ => false

def isLinkReport : RoomOp → Bool
  | .setLinkCableCompatibility .. => true
  | _ => false

/-- What is known of the latest report of player `p` after a call. -/
def noteReport (relay : Relay) (p : PlayerIndex) (latest : Option LinkCableCompatibility)
    (visit : StoredRoom × RoomOp) : Option LinkCableCompatibility :=
  match takenReport visit.1.room p visit.2 with
  | some report => some report
  | none => if startsOver relay visit.1.room visit.2 then none else latest

/-- What player `p` reported last, since the session last started over. -/
def latestReport (relay : Relay) (p : PlayerIndex) (past : List (StoredRoom × RoomOp)) :
    Option LinkCableCompatibility :=
  past.foldl (noteReport relay p) none

/-- The report for another protocol version of a player with a stored report. -/
def outlives (r : NetplayRoom) : RoomOp → Bool
  | .setLinkCableCompatibility order c report =>
    report.protocolVersion ≠ r.protocolVersion && (r.playerIndexForConnection c).any fun p =>
      (takenReport r p (.setLinkCableCompatibility order c report)).isSome
        && (r.linkCableState.compatibility.lookup p).isSome
  | _ => false

/-- No stored report was followed by another one of its player, and all of them pass. -/
def LinksStand (relay : Relay) (past : List (StoredRoom × RoomOp)) (r : NetplayRoom) : Prop :=
  ∀ p report, r.linkCableState.compatibility.lookup p = some report →
    latestReport relay p past = some report ∧ passesChecks r report

/-- Both players are there, their latest reports pass the checks and they match. -/
structure LinksMatch (relay : Relay) (past : List (StoredRoom × RoomOp)) (r : NetplayRoom) :
    Prop where
  full : Full r
  reports : ∃ host guest, latestReport relay .one past = some host
    ∧ latestReport relay .two past = some guest ∧ passesChecks r host ∧ passesChecks r guest
    ∧ host.matchesPeer guest

theorem latestReport_concat (past : List (StoredRoom × RoomOp)) (visit : StoredRoom × RoomOp) :
    latestReport relay p (past ++ [visit]) = noteReport relay p (latestReport relay p past) visit :=
  List.foldl_concat ..

theorem takenReport_spec {report' : LinkCableCompatibility}
    (h : takenReport r p (.setLinkCableCompatibility order c report) = some report') :
    r.playerIndexForConnection c = some p ∧ report' = report := by
  rw [takenReport, Option.ite_none_right_eq_some] at h
  exact ⟨h.1.2.2.1, (Option.some.inj h.2).symm⟩

/-- A report is one player's report. -/
theorem takenReport_other (h : takenReport r p op = some report) (hq : q ≠ p) :
    takenReport r q op = none := by
  cases op with
  | setLinkCableCompatibility order c report' =>
    cases hother : takenReport r q (.setLinkCableCompatibility order c report') with
    | none => rfl
    | some other =>
      have hsame := (takenReport_spec hother).1.symm.trans (takenReport_spec h).1
      exact absurd (Option.some.inj hsame) hq
  | _ => exact absurd h (by simp [takenReport])

theorem takenReport_none (h : isLinkReport op = false) : takenReport r p op = none := by
  cases op with
  | setLinkCableCompatibility => exact absurd h (by simp [isLinkReport])
  | _ => rfl

/-- The checks read the terms of the room only. -/
theorem passesChecks_terms (h : SameTerms r r') (report : LinkCableCompatibility) :
    passesChecks r' report = passesChecks r report := by
  have hlink : r'.session.link = r.session.link := by
    obtain ⟨_, hsession⟩ := h.session
    rw [hsession]
  have hdescriptor : r'.linkDescriptor = r.linkDescriptor := by
    rw [linkDescriptor, linkDescriptor, h.mode, hlink]
  rw [passesChecks, passesChecks, hdescriptor, h.protocolVersion]

theorem passesChecks_version (h : passesChecks r report) :
    report.protocolVersion = r.protocolVersion := by
  rw [passesChecks] at h
  split at h
  · rw [Bool.and_eq_true, decide_eq_true_eq] at h
    exact h.1
  · exact absurd h (by simp)

/-! ## What a report does -/

inductive LinkJudged (r : NetplayRoom) (order : HashOrder) (c : ConnectionId)
    (report : LinkCableCompatibility) : NetplayRoom → Prop
  | refused (h : ∀ p, takenReport r p (.setLinkCableCompatibility order c report) = none) :
      LinkJudged r order c report r
  | wrongVersion {p : PlayerIndex}
      (htaken : takenReport r p (.setLinkCableCompatibility order c report) = some report)
      (hversion : report.protocolVersion ≠ r.protocolVersion) :
      LinkJudged r order c report (r.rejectLinkCompatibility p r.linkCableState)
  | unfit {p : PlayerIndex}
      (htaken : takenReport r p (.setLinkCableCompatibility order c report) = some report)
      (hversion : report.protocolVersion = r.protocolVersion) :
      LinkJudged r order c report (r.rejectLinkCompatibility p
        { r.linkCableState with compatibility := r.linkCableState.compatibility.erase p })
  | accepted {p : PlayerIndex} {r' : NetplayRoom}
      (htaken : takenReport r p (.setLinkCableCompatibility order c report) = some report)
      (hpasses : passesChecks r report)
      (hstored : r'.linkCableState = { r.linkCableState with
        compatibility := r.linkCableState.compatibility.insert p report })
      (hsyncs : r'.status = .syncingState → r.status ≠ .syncingState →
        r'.linkCableState.connectedPlayersAreCompatible order r.connectedPlayerIndices
          r.maxPlayers) :
      LinkJudged r order c report r'

theorem setCompatibility_error {state' : LinkCableRoomState} {link : LinkCableDescriptor}
    {error : RoomError} (h : state.setCompatibility p link report = (.error error, state')) :
    state' = { state with compatibility := state.compatibility.erase p } := by
  rw [LinkCableRoomState.setCompatibility] at h
  split at h
  · exact (Prod.mk.inj h).2.symm
  · exact absurd (Prod.mk.inj h).1 (by simp)

theorem setCompatibility_ok {state' : LinkCableRoomState} {link : LinkCableDescriptor}
    (h : state.setCompatibility p link report = (.ok (), state')) :
    report.matchesDescriptor link
      ∧ state' = { state with compatibility := state.compatibility.insert p report } := by
  rw [LinkCableRoomState.setCompatibility] at h
  split at h
  · exact absurd (Prod.mk.inj h).1 (by simp)
  · rename_i hfits
    exact ⟨by simpa using hfits, (Prod.mk.inj h).2.symm⟩

theorem linkJudged (r : NetplayRoom) (order : HashOrder) (c : ConnectionId)
    (report : LinkCableCompatibility) :
    LinkJudged r order c report (r.setLinkCableCompatibilityForConnection order c report).2 := by
  have htaken : ∀ {p link}, r.status ≠ .closed → r.status ≠ .playing →
      r.playerIndexForConnection c = some p → r.linkDescriptor = .ok link →
      takenReport r p (.setLinkCableCompatibility order c report) = some report := by
    intro p link hclosed hplaying hp hlink
    exact if_pos ⟨hclosed, hplaying, hp, by rw [hlink]; rfl⟩
  have hpasses : ∀ {p link state}, r.linkDescriptor = .ok link →
      ¬report.protocolVersion ≠ r.protocolVersion →
      r.linkCableState.setCompatibility p link report = (.ok (), state) →
      passesChecks r report := by
    intro p link state hlink hversion hset
    simp [passesChecks, hlink, Decidable.not_not.mp hversion, (setCompatibility_ok hset).1]
  fun_cases setLinkCableCompatibilityForConnection r order c report with
  | case1 hclosed => exact .refused fun p => if_neg fun h => h.1 hclosed
  | case2 _ hplaying => exact .refused fun p => if_neg fun h => h.2.1 hplaying
  | case3 _ _ hnone => exact .refused fun p => if_neg fun h => by simp [hnone] at h
  | case4 _ _ p hp error herror =>
    refine .refused fun q => if_neg fun h => ?_
    rw [herror] at h
    exact absurd h.2.2.2 Bool.false_ne_true
  | case5 hclosed hplaying p hp link hlink hversion =>
    exact .wrongVersion (htaken hclosed hplaying hp hlink) hversion
  | case6 hclosed hplaying p hp link hlink hversion error state hset =>
    rw [setCompatibility_error hset]
    exact .unfit (htaken hclosed hplaying hp hlink) (Decidable.not_not.mp hversion)
  | case7 hclosed hplaying p hp link hlink hversion state hset stored =>
    refine .accepted (htaken hclosed hplaying hp hlink) (hpasses hlink hversion hset)
      (setCompatibility_ok hset).2 fun hafter hbefore => ?_
    -- the status is not written before both reports are there
    exact absurd hafter hbefore
  | case8 hclosed hplaying p hp link hlink hversion state hset =>
    refine .accepted (htaken hclosed hplaying hp hlink) (hpasses hlink hversion hset)
      (setCompatibility_ok hset).2 fun hafter _ => ?_
    exact absurd hafter (by simp)
  | case9 hclosed hplaying p hp link hlink hversion state hset stored connected hall hsame =>
    refine .accepted (htaken hclosed hplaying hp hlink) (hpasses hlink hversion hset)
      (setCompatibility_ok hset).2 fun _ _ => ?_
    have hconnected : connected = r.connectedPlayerIndices :=
      connectedPlayerIndices_keeps (storeLinkCompatibility_keeps p state)
    have hmatch : state.connectedPlayersAreCompatible order connected r.maxPlayers := by
      simpa using hsame
    rw [← hconnected]
    exact hmatch

/-- A report for another protocol version does not reach the store. -/
theorem judged_wrongVersion (h : LinkJudged r order c report r')
    (hversion : report.protocolVersion ≠ r.protocolVersion) :
    r'.linkCableState = r.linkCableState := by
  cases h with
  | refused | wrongVersion => rfl
  | unfit _ hsame => exact absurd hsame hversion
  | accepted _ hpasses => exact absurd (passesChecks_version hpasses) hversion

theorem judged_lastSequences (h : LinkJudged r order c report r') :
    r'.linkCableState.lastSequences = r.linkCableState.lastSequences := by
  cases h with
  | refused | wrongVersion | unfit => rfl
  | accepted _ _ hstored => rw [hstored]

/-! ## What all other calls do -/

/-- **No other call writes a report**: all reports stay as they are or all are forgotten. -/
theorem applyOp_reports (relay : Relay) (r : NetplayRoom) (hop : isLinkReport op = false) :
    (applyOp relay r op).linkCableState.compatibility
      = if startsOver relay r op then ∅ else r.linkCableState.compatibility := by
  cases op with
  | setLinkCableCompatibility => exact absurd hop (by simp [isLinkReport])
  | relayLinkCablePacket c packet =>
    rw [applyOp, acceptLinkCablePacket]
    split
    · rfl
    split
    · rfl
    · rename_i sender _
      have hkept := congrArg (·.compatibility)
        (@acceptPacket_state sender r.linkCableState packet maxLinkCablePacketBytes)
      exact hkept
  | _ =>
    rw [applyOp_link relay r rfl]
    split <;> rfl

theorem controlLoss_not_enters {now : Instant} {grace : Duration} (h : ControlLoss r c now grace r')
    (hbefore : r.status ≠ .syncingState) : r'.status ≠ .syncingState := by
  cases h with
  | unknown _ h => exact fun hafter => hbefore (h.status.symm.trans hafter)
  | handoffKept => exact hbefore
  | alsoLost hr₁ =>
    intro hafter
    exact hbefore (hr₁.status.symm.trans hafter)
  | recovery | hostGone | guestGone => simp

/-- A link-cable room begins to sync on a report only. -/
theorem effect_enters_syncing (hmode : r.session.mode = .linkCable) (h : Effect relay r op r')
    (hbefore : r.status ≠ .syncingState) (hafter : r'.status = .syncingState) :
    isLinkReport op := by
  have hkept : r'.status ≠ r.status := by
    intro hsame
    exact hbefore (hsame.symm.trans hafter)
  cases h with
  | bookkeeping hsame => exact absurd hsame.status hkept
  | controlLost hloss | inputAndControlLost _ _ _ hloss =>
    exact absurd hafter (controlLoss_not_enters hloss hbefore)
  | @handoffsLapsed _ closed _ _ _ hstatus =>
    rw [hstatus] at hafter
    cases closed <;> exact absurd hafter (by simp)
  | heartbeatsStopped _ hdropped =>
    have hrecovering : r'.status = .recovering := congrArg (·.status) hdropped.core
    exact absurd (hrecovering.symm.trans hafter) (by simp)
  | fingerprintRejected hother | fingerprintStored hother | fingerprintsDiffer hother
  | fingerprintsAgree hother => exact absurd (hmode.symm.trans hother) (by simp)
  | linkRejected | linkStored | linksDiffer | linksAgree => rfl
  | becameReady _ hready =>
    obtain ⟨_, hcore⟩ := hready.core
    exact absurd ((congrArg (·.status) hcore).symm.trans hafter) (by simp)
  | legacyInput hinput => exact absurd (congrArg (·.status) hinput.core) hkept
  | legacyTick _ htick => exact absurd (htick.playing.symm.trans hafter) (by simp)
  | hostAttached | handoffReconnected | inputAttached | inputLost | snapshotCompleted | sampleStored
  | voteCounted | pauseOpened | pauseNoted | inputAccepted | openHeld | frameReleased =>
    exact absurd rfl hkept
  | restartedByLast | restarted =>
    exact absurd hafter (by simp [restartSession, beginV5PauseResume, scheduleV5Resume])
  | startFixedBySample | startFixedByVote => exact absurd hafter (by simp [scheduleStart])
  | joined | reconnected | resynced | pinned => exact absurd hafter RoomStatus.noConfusion
  | _ => exact absurd hafter (by simp)

/-! ## The reports along a history -/

/-- After a report that takes nothing back, what is stored for a player is the report itself or an
old one of a player who did not report. -/
theorem judged_lookup {new : LinkCableCompatibility}
    (hkept : outlives r (.setLinkCableCompatibility order c new) = false)
    (h : LinkJudged r order c new r')
    (hstored : r'.linkCableState.compatibility.lookup p = some report) :
    (takenReport r p (.setLinkCableCompatibility order c new) = some report
        ∧ passesChecks r report)
      ∨ (takenReport r p (.setLinkCableCompatibility order c new) = none
        ∧ r.linkCableState.compatibility.lookup p = some report) := by
  cases h with
  | refused h => exact .inr ⟨h p, hstored⟩
  | @wrongVersion q htaken hversion =>
    by_cases hp : p = q
    · -- the old report of the player would be left
      subst hp
      have hthere : r.linkCableState.compatibility.lookup p = some report := hstored
      have houtlives : outlives r (.setLinkCableCompatibility order c new) := by
        simp [outlives, hversion, (takenReport_spec htaken).1, htaken, hthere]
      exact absurd (hkept.symm.trans houtlives) (by simp)
    · exact .inr ⟨takenReport_other htaken hp, hstored⟩
  | @unfit q htaken =>
    rw [rejectLinkCompatibility_linkCableState] at hstored
    by_cases hp : p = q
    · subst hp
      rw [AList.lookup_erase] at hstored
      exact absurd hstored (by simp)
    · rw [AList.lookup_erase_ne hp] at hstored
      exact .inr ⟨takenReport_other htaken hp, hstored⟩
  | @accepted q _ htaken hpasses hinsert =>
    rw [hinsert] at hstored
    by_cases hp : p = q
    · subst hp
      rw [AList.lookup_insert] at hstored
      obtain rfl := Option.some.inj hstored
      exact .inl ⟨htaken, hpasses⟩
    · rw [AList.lookup_insert_ne hp] at hstored
      exact .inr ⟨takenReport_other htaken hp, hstored⟩

theorem linksStand_step {past : List (StoredRoom × RoomOp)} (hinv : LinksStand relay past s.room)
    (hkept : outlives s.room op = false) :
    LinksStand relay (past ++ [(s, op)]) (applyOp relay s.room op) := by
  intro p report hstored
  rw [latestReport_concat, noteReport,
    passesChecks_terms (effect_terms (applyOp_effect relay s.room op))]
  cases hop : isLinkReport op with
  | false =>
    -- a stored report is an old one, and it has not been forgotten
    rw [applyOp_reports relay s.room hop] at hstored
    split at hstored
    · exact absurd hstored (by simp)
    · rename_i hkept
      rw [takenReport_none hop, if_neg hkept]
      exact hinv p report hstored
  | true =>
    cases op with
    | setLinkCableCompatibility order c new =>
      rcases judged_lookup hkept (linkJudged s.room order c new) hstored with
        ⟨htaken, hpasses⟩ | ⟨hnone, hold⟩
      · rw [htaken]
        exact ⟨rfl, hpasses⟩
      · rw [hnone]
        exact hinv p report hold
    | _ => exact absurd hop (by simp [isLinkReport])

theorem matchesPeer_iff {other : LinkCableCompatibility} :
    report.matchesPeer other ↔ report = other := by
  cases report
  cases other
  simp [LinkCableCompatibility.matchesPeer, and_assoc]

/-- The stored reports match: any two of them are the same. -/
theorem reports_equal {other : LinkCableCompatibility} (h : state.compatibilityValuesMatch order)
    (hp : state.compatibility.lookup p = some report)
    (hq : state.compatibility.lookup q = some other) : report = other := by
  rw [LinkCableRoomState.compatibilityValuesMatch] at h
  cases hvalues : state.compatibility.values order with
  | nil => exact absurd (hvalues ▸ mem_values order hp) (by simp)
  | cons baseline others =>
    rw [hvalues, List.all_eq_true] at h
    have hbaseline : ∀ {p report}, state.compatibility.lookup p = some report →
        baseline = report := by
      intro p report hp
      rcases List.mem_cons.mp (hvalues ▸ mem_values order hp) with rfl | hmem
      · rfl
      · exact matchesPeer_iff.mp (h report hmem)
    rw [← hbaseline hp, hbaseline hq]

theorem judged_syncs {new : LinkCableCompatibility} (h : LinkJudged r order c new r')
    (hbefore : r.status ≠ .syncingState) (hafter : r'.status = .syncingState) :
    r'.linkCableState.connectedPlayersAreCompatible order r.connectedPlayerIndices
      r.maxPlayers := by
  cases h with
  | refused => exact absurd hafter hbefore
  | wrongVersion | unfit => exact absurd hafter (by simp)
  | accepted _ _ _ hsyncs => exact hsyncs hafter hbefore

/-- **The room begins to sync on two reports that are their players' latest ones.** -/
theorem linksMatch_step {past : List (StoredRoom × RoomOp)} (hseats : Seats s.room)
    (hmode : s.room.session.mode = .linkCable) (hinv : LinksStand relay past s.room)
    (hkept : outlives s.room op = false) (hbefore : s.room.status ≠ .syncingState)
    (hafter : (applyOp relay s.room op).status = .syncingState) :
    LinksMatch relay (past ++ [(s, op)]) (applyOp relay s.room op) := by
  have heffect := applyOp_effect relay s.room op
  have hstand : LinksStand relay (past ++ [(s, op)]) (applyOp relay s.room op) :=
    linksStand_step hinv hkept
  have hop := effect_enters_syncing hmode heffect hbefore hafter
  cases op with
  | setLinkCableCompatibility order c new =>
    have hall := judged_syncs (linkJudged s.room order c new) hbefore hafter
    rw [LinkCableRoomState.connectedPlayersAreCompatible, Bool.and_eq_true,
      LinkCableRoomState.connectedPlayersHaveCompatibility, Bool.and_eq_true,
      decide_eq_true_eq] at hall
    obtain ⟨⟨hcount, hboth⟩, hsame⟩ := hall
    have hfull := full_of_connected hseats hcount
    rw [hfull.connectedPlayerIndices hseats] at hboth
    simp only [List.all_cons, List.all_nil, Bool.and_true, Bool.and_eq_true] at hboth
    obtain ⟨host, hhost⟩ := Option.isSome_iff_exists.mp hboth.1
    obtain ⟨guest, hguest⟩ := Option.isSome_iff_exists.mp hboth.2
    obtain ⟨hhostLatest, hhostPasses⟩ := hstand _ _ hhost
    obtain ⟨hguestLatest, hguestPasses⟩ := hstand _ _ hguest
    refine ⟨(effect_seats hseats heffect).full rfl hfull, host, guest, hhostLatest, hguestLatest,
      hhostPasses, hguestPasses, ?_⟩
    exact matchesPeer_iff.mpr (reports_equal hsame hhost hguest)
  | _ => exact absurd hop (by simp [isLinkReport])

/-- A call that takes a stored report back leaves it in the store. -/
theorem outlives_breaks (past : List (StoredRoom × RoomOp)) (h : outlives s.room op) :
    ¬LinksStand relay (past ++ [(s, op)]) (applyOp relay s.room op) := by
  intro hstand
  cases op with
  | setLinkCableCompatibility order c new =>
    simp only [outlives, Bool.and_eq_true, decide_eq_true_eq, Option.any_eq_true] at h
    obtain ⟨hversion, p, hp, htaken, hstored⟩ := h
    obtain ⟨report, htaken⟩ := Option.isSome_iff_exists.mp htaken
    obtain ⟨old, hstored⟩ := Option.isSome_iff_exists.mp hstored
    obtain rfl := (takenReport_spec htaken).2
    have hkept := judged_wrongVersion (linkJudged s.room order c report) hversion
    rw [← hkept] at hstored
    obtain ⟨hlatest, hpasses⟩ := hstand p old hstored
    rw [latestReport_concat, noteReport, htaken] at hlatest
    obtain rfl := Option.some.inj hlatest
    rw [passesChecks_terms (effect_terms (applyOp_effect relay s.room _))] at hpasses
    exact hversion (passesChecks_version hpasses)
  | _ => exact absurd h (by simp [outlives])

/-- The room is still there after a report. -/
theorem outlives_stored (relay : Relay) (h : outlives s.room op) :
    ∃ t, s.step relay op = some t := by
  cases op with
  | setLinkCableCompatibility => exact ⟨_, rfl⟩
  | _ => exact absurd h (by simp [outlives])

/-- **Every stored report is its player's latest one and passed the checks, and the room begins to
sync only when both players are there and their latest reports match, exactly in the histories in
which no player with a stored report sends one for another protocol version.** -/
theorem link_reports_stand_iff {roomId key c} {session : NetplaySessionDescriptor}
    {version resume input now voice ops} (hmode : session.mode = .linkCable)
    (hadmissible : Guarded (StoredRoom.step relay) (fun s op => Admissible s.room op)
      (createRoom roomId key c session version resume input now voice) ops) :
    (∀ done op rest s t, ops = done ++ op :: rest →
        run (StoredRoom.step relay)
          (createRoom roomId key c session version resume input now voice) done = some s →
        s.step relay op = some t →
        LinksStand relay (visits (StoredRoom.step relay)
            (createRoom roomId key c session version resume input now voice) (done ++ [op])) t.room
          ∧ (s.room.status ≠ .syncingState → t.room.status = .syncingState →
            LinksMatch relay (visits (StoredRoom.step relay)
              (createRoom roomId key c session version resume input now voice) (done ++ [op]))
              t.room))
      ↔ Guarded (StoredRoom.step relay) (fun s op => outlives s.room op = false)
          (createRoom roomId key c session version resume input now voice) ops := by
  constructor
  · intro h
    refine guarded_iff_forall_offered.mpr fun done op rest s hsplit hs => ?_
    by_contra houtlives
    have houtlives : outlives s.room op := by simpa using houtlives
    obtain ⟨t, ht⟩ := outlives_stored relay houtlives
    have hstand := (h done op rest s t hsplit hs ht).1
    rw [visits_concat hs, step_room ht] at hstand
    exact outlives_breaks _ houtlives hstand
  · intro hkept done op rest s t hsplit hs ht
    let Inv : List (StoredRoom × RoomOp) → StoredRoom → Prop := fun past s =>
      Reachable relay s ∧ s.room.session.mode = .linkCable ∧ LinksStand relay past s.room
    have hkeep : ∀ past s op t, Inv past s → Admissible s.room op ∧ outlives s.room op = false →
        s.step relay op = some t → Inv (past ++ [(s, op)]) t := by
      rintro past s op t ⟨hreachable, hlink, hstand⟩ ⟨hcall, hno⟩ hstep
      refine ⟨reachable_step hreachable hcall hstep, ?_, ?_⟩
      · rw [step_room hstep, (effect_terms (applyOp_effect relay s.room op)).mode]
        exact hlink
      · rw [step_room hstep]
        exact linksStand_step hstand hno
    have hnew : Inv [] (createRoom roomId key c session version resume input now voice) := by
      refine ⟨?_, ?_, ?_⟩
      · exact reachable_createRoom
      · cases voice <;> exact hmode
      · intro p report hstored
        have hnone : (createRoom roomId key c session version resume input now
            voice).room.linkCableState.compatibility = ∅ := by
          cases voice <;> rfl
        rw [hnone] at hstored
        exact absurd hstored (by simp)
    have hguarded := hadmissible.and hkept
    rw [hsplit, guarded_append hs] at hguarded
    obtain ⟨hdone, hcall, _⟩ := hguarded
    have hinv := history_run hkeep hdone.history hs hnew
    have hnext := hkeep _ s op t hinv hcall ht
    rw [visits_concat hs]
    refine ⟨hnext.2.2, fun hbefore hafter => ?_⟩
    rw [step_room ht] at hafter ⊢
    exact linksMatch_step (seats_reachable hinv.1) hinv.2.1 hinv.2.2 hcall.2 hbefore hafter

def linkSession : NetplaySessionDescriptor :=
  { sampleSession with
    mode := .linkCable
    link := some ⟨"gba".toList, "sio".toList, "wireless".toList⟩ }

def linkRoom : StoredRoom :=
  createRoom ⟨0⟩ "host".toList ⟨0⟩ linkSession 5 [] [] 0 none

/-- A report that fits the room, for protocol version `version`. -/
def linkReport (version : Nat) : LinkCableCompatibility :=
  ⟨version, "gba".toList, "sio".toList, "wireless".toList, none⟩

/-- The guest's report completes the reports and the room begins to sync. -/
theorem link_reports_stand_syncing :
    let history := seating false ++ [.setLinkCableCompatibility .stored hostSocket (linkReport 5)]
    let report := RoomOp.setLinkCableCompatibility .stored guestSocket (linkReport 5)
    ∃ s t, run (StoredRoom.step sampleRelay) linkRoom history = some s
      ∧ s.step sampleRelay report = some t
      ∧ s.room.status = .checkingCompatibility ∧ t.room.status = .syncingState
      ∧ LinksMatch sampleRelay
          (visits (StoredRoom.step sampleRelay) linkRoom (history ++ [report])) t.room := by
  intro history report
  have hfacts : Guarded (StoredRoom.step sampleRelay) (fun s op => Admissible s.room op) linkRoom
        (history ++ [report])
      ∧ Guarded (StoredRoom.step sampleRelay) (fun s op => outlives s.room op = false) linkRoom
        (history ++ [report])
      ∧ ∃ s ∈ run (StoredRoom.step sampleRelay) linkRoom history,
        ∃ t ∈ s.step sampleRelay report,
          s.room.status = .checkingCompatibility ∧ t.room.status = .syncingState := by
    decide +kernel
  obtain ⟨hadmissible, hkept, s, hs, t, ht, hbefore, hafter⟩ := hfacts
  have hstand := (link_reports_stand_iff rfl hadmissible).mpr hkept history report [] s t rfl hs ht
  exact ⟨s, t, hs, ht, hbefore, hafter, hstand.2 (by rw [hbefore]; simp) hafter⟩

/-- The host is accepted and then reports another protocol version, which is rejected. When the
guest reports, the room begins to sync on the host's first report. -/
theorem link_report_outlived :
    let history := seating false ++
      [.setLinkCableCompatibility .stored hostSocket (linkReport 5),
        .setLinkCableCompatibility .stored hostSocket (linkReport 6)]
    let report := RoomOp.setLinkCableCompatibility .stored guestSocket (linkReport 5)
    let before := after sampleRelay linkRoom history
    let synced := after sampleRelay linkRoom (history ++ [report])
    Reachable sampleRelay synced ∧ before.room.status = .checkingCompatibility
      ∧ synced.room.status = .syncingState
      ∧ synced.room.linkCableState.compatibility.lookup .one = some (linkReport 5)
      ∧ latestReport sampleRelay .one
          (visits (StoredRoom.step sampleRelay) linkRoom (history ++ [report]))
        = some (linkReport 6)
      ∧ passesChecks synced.room (linkReport 6) = false := by
  refine ⟨reachable_after ?_, ?_⟩ <;> decide +kernel

/-! ## Packets -/

/-- The number of the packet that the call takes from player `p`. -/
def takenPacket (r : NetplayRoom) (p : PlayerIndex) : RoomOp → Option Nat
  | .relayLinkCablePacket c packet =>
    if packet.playerIndex = p ∧ (r.acceptLinkCablePacket c packet).1.isOk then some packet.sequence
    else none
  | _ => none

/-- The session starts over after a packet was taken. -/
def forgetsPackets (relay : Relay) (r : NetplayRoom) (op : RoomOp) : Bool :=
  startsOver relay r op && !r.linkCableState.lastSequences.entries.isEmpty

/-- **Only packets are noted, and they are forgotten only when the session starts over.** -/
theorem applyOp_lastSequences (hkept : forgetsPackets relay r op = false)
    (hop : ∀ c packet, op ≠ .relayLinkCablePacket c packet) :
    (applyOp relay r op).linkCableState.lastSequences = r.linkCableState.lastSequences := by
  cases op with
  | relayLinkCablePacket c packet => exact absurd rfl (hop c packet)
  | setLinkCableCompatibility order c report =>
    exact judged_lastSequences (linkJudged r order c report)
  | _ =>
    rw [applyOp_link relay r rfl]
    split
    · rename_i hover
      rw [forgetsPackets, hover] at hkept
      have hnone : r.linkCableState.lastSequences.entries = [] := by simpa using hkept
      exact AList.ext hnone.symm
    · rfl

/-- The number comes after the last one of player `p`. -/
def NewPacket (state : LinkCableRoomState) (p : PlayerIndex) (n : Nat) : Prop :=
  ∀ last, state.lastSequences.lookup p = some last → last < n

/-- A packet that is taken is a new one and is the last one from then on. -/
theorem acceptLinkCablePacket_taken (r : NetplayRoom) (c : ConnectionId)
    (packet : LinkCablePacket) :
    let taken := r.acceptLinkCablePacket c packet
    (taken.1.isOk ∧ NewPacket r.linkCableState packet.playerIndex packet.sequence
        ∧ taken.2.linkCableState.lastSequences
          = r.linkCableState.lastSequences.insert packet.playerIndex packet.sequence)
      ∨ (taken.1.isOk = false ∧ taken.2 = r) := by
  rw [acceptLinkCablePacket]
  split
  · exact .inr ⟨rfl, rfl⟩
  split
  · exact .inr ⟨rfl, rfl⟩
  rename_i p _
  fun_cases LinkCableRoomState.acceptPacket r.linkCableState p packet maxLinkCablePacketBytes with
  | case1 | case2 | case3 => exact .inr ⟨rfl, rfl⟩
  | case4 _ _ _ last hlast hlater =>
    refine .inl ⟨rfl, fun last' hlast' => ?_, rfl⟩
    obtain rfl := Option.some.inj (hlast.symm.trans hlast')
    exact Nat.lt_of_not_le hlater
  | case5 _ _ _ hnone => exact .inl ⟨rfl, fun _ hlast => by simp [hnone] at hlast, rfl⟩

/-- A call takes a new packet or none, and what is new after the call is new before it and comes
after the packet that was taken. -/
theorem newPacket_step (hkept : forgetsPackets relay r op = false) :
    (∀ n, takenPacket r p op = some n → NewPacket r.linkCableState p n)
      ∧ ∀ n, NewPacket (applyOp relay r op).linkCableState p n →
        NewPacket r.linkCableState p n ∧ ∀ m, takenPacket r p op = some m → m < n := by
  cases op with
  | relayLinkCablePacket c packet =>
    simp only [takenPacket, applyOp, Option.ite_none_right_eq_some, Option.some.injEq]
    rcases acceptLinkCablePacket_taken r c packet with ⟨-, hnew, hlast⟩ | ⟨hrefused, hsame⟩
    · by_cases hp : packet.playerIndex = p
      · subst hp
        refine ⟨fun n hn => hn.2 ▸ hnew, fun n hn => ?_⟩
        have hlt : packet.sequence < n := hn _ (by rw [hlast, AList.lookup_insert])
        exact ⟨fun last hold => (hnew last hold).trans hlt, fun m hm => hm.2 ▸ hlt⟩
      · refine ⟨fun n hn => absurd hn.1.1 hp, fun n hn => ⟨fun last hold => hn last ?_, ?_⟩⟩
        · rw [hlast, AList.lookup_insert_ne (Ne.symm hp)]
          exact hold
        · exact fun m hm => absurd hm.1.1 hp
    · rw [hsame, hrefused]
      simp
  | _ =>
    simp only [takenPacket, NewPacket, applyOp_lastSequences hkept (fun _ _ => by simp)]
    simp

/-- The numbers of the packets that are taken from player `p` in a history. -/
def packetNumbers (relay : Relay) (p : PlayerIndex) (s : StoredRoom) (ops : List RoomOp) :
    List Nat :=
  (visits (StoredRoom.step relay) s ops).filterMap fun visit => takenPacket visit.1.room p visit.2

/-- **The relay takes the packets of a player in their order and none twice**: as long as the
session does not start over between them, their numbers grow, from above the last one that was taken
before. -/
theorem link_packets_ordered {ops : List RoomOp}
    (hkept : Guarded (StoredRoom.step relay) (fun s op => forgetsPackets relay s.room op = false)
      s ops) :
    (packetNumbers relay p s ops).Pairwise (· < ·)
      ∧ ∀ n ∈ packetNumbers relay p s ops, NewPacket s.room.linkCableState p n := by
  induction ops generalizing s with
  | nil => simp [packetNumbers, visits]
  | cons op ops ih =>
    obtain ⟨hnew, hlater⟩ := newPacket_step (p := p) hkept.1
    -- the packets after this call are new after it
    obtain ⟨rest, hnumbers, hordered, hrest⟩ : ∃ rest : List Nat,
        packetNumbers relay p s (op :: ops) = (takenPacket s.room p op).toList ++ rest
          ∧ rest.Pairwise (· < ·)
          ∧ ∀ n ∈ rest, NewPacket (applyOp relay s.room op).linkCableState p n := by
      rw [packetNumbers, visits]
      rw [Guarded] at hkept
      cases ht : s.step relay op with
      | none => exact ⟨[], by cases h : takenPacket s.room p op <;> simp [h], by simp⟩
      | some t =>
        rw [ht] at hkept
        rw [← step_room ht]
        exact ⟨packetNumbers relay p t ops,
          by cases h : takenPacket s.room p op <;> simp [h, packetNumbers], ih hkept.2⟩
    rw [hnumbers, List.pairwise_append]
    refine ⟨⟨by cases takenPacket s.room p op <;> simp, hordered, fun m hm n hn => ?_⟩,
      fun n hn => ?_⟩
    · exact (hlater n (hrest n hn)).2 m (Option.mem_toList.mp hm)
    · rcases List.mem_append.mp hn with hfirst | hlast
      · exact hnew n (Option.mem_toList.mp hfirst)
      · exact (hlater n (hrest n hlast)).1

/-- The host's packets 1, 3, 2 and 4: the late one is refused. -/
theorem link_packets_ordered_late :
    let playing := after sampleRelay linkRoom (seating false
      ++ [.setLinkCableCompatibility .stored hostSocket (linkReport 5),
        .setLinkCableCompatibility .stored guestSocket (linkReport 5),
        .markReady hostSocket none 0, .markReady guestSocket none 0])
    let packets := [1, 3, 2, 4].map fun n => RoomOp.relayLinkCablePacket hostSocket ⟨.one, n, [0]⟩
    packetNumbers sampleRelay .one playing packets = [1, 3, 4]
      ∧ (packetNumbers sampleRelay .one playing packets).Pairwise (· < ·) := by
  intro playing packets
  have hfacts : Guarded (StoredRoom.step sampleRelay)
        (fun s op => forgetsPackets sampleRelay s.room op = false) playing packets
      ∧ packetNumbers sampleRelay .one playing packets = [1, 3, 4] := by
    decide +kernel
  exact ⟨hfacts.2, (link_packets_ordered hfacts.1).1⟩

end NetplayRelay.Proof
