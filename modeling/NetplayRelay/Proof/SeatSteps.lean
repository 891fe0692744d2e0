import NetplayRelay.Proof.Waiting

/-!
# What a call does to one seat

`SeatChange` looks at the table as a whole. Here every seat is followed by itself, with its tokens:
a call keeps it, or somebody takes it through a new control socket and is given new tokens, or an
input socket takes the pending token away, or the seat loses sockets. Seats are lost for few
reasons, and each of them shows before the call: the player was connected, its handoff had expired,
heartbeats were being watched, or the room closes.
-/

namespace NetplayRelay.Proof

open Lib Protocol Rooms Registry NetplayRoom

/-- What a call hands out: two tokens for one control socket. -/
structure TokenIssue where
  connectionId : ConnectionId
  resumeTokenHash : ResumeTokenHash
  inputSocketTokenHash : ResumeTokenHash

def issues : RoomOp → Option TokenIssue
  | .joinGuest _ c resume input _ _ => some ⟨c, resume, input⟩
  | .connectHost _ c resume input _ _ => some ⟨c, resume, input⟩
  | .reconnectPlayer request =>
    some ⟨request.connectionId, request.nextResumeTokenHash, request.inputSocketTokenHash⟩
  | _ => none

/-- The call may take this seat, and no other. -/
def TakesSeat (r : NetplayRoom) (slot : PlayerSlot) : RoomOp → Prop
  | .joinGuest .. => r.players.find? (·.isEmpty) = some slot
  | .connectHost key .. =>
    r.players.find? (·.role = .host) = some slot ∧ slot.subjectKey = some key
  | .reconnectPlayer request => Returns r request slot
  | _ => False

/-- The seat's holder has the tokens of `issue`. -/
structure Holder (issue : TokenIssue) (slot : PlayerSlot) : Prop where
  control : slot.connectionId = some issue.connectionId
  resume : slot.resumeTokenHash = some issue.resumeTokenHash
  input : slot.inputSocketTokenHash = some issue.inputSocketTokenHash
  issuedTo : slot.inputSocketControlConnectionId = some issue.connectionId

/-- Sockets were lost, and the pending input token with them. -/
structure Loses (slot slot' : PlayerSlot) : Prop where
  playerIndex : slot'.playerIndex = slot.playerIndex
  resume : slot'.resumeTokenHash = slot.resumeTokenHash ∨ slot'.resumeTokenHash = none
  input : slot'.inputSocketTokenHash = none

/-- What a call that leads to `r'` does to one seat. -/
inductive SeatStep (r : NetplayRoom) (op : RoomOp) (r' : NetplayRoom) (slot slot' : PlayerSlot) :
    Prop
  | kept (h : Keeps slot slot')
  | taken {issue : TokenIssue} (hissue : issues op = some issue) (htakes : TakesSeat r slot op)
      (hindex : slot'.playerIndex = slot.playerIndex) (hholder : Holder issue slot')
  | inputTaken {p : PlayerIndex} {roomEpoch sessionEpoch : Nat} {input : ResumeTokenHash}
      {c : ConnectionId} {now : Instant}
      (hop : op = .connectInputSocket p roomEpoch sessionEpoch input c now)
      (htoken : slot.inputSocketTokenHash = some input) (hcontrol : slot.isConnected)
      (hindex : slot'.playerIndex = slot.playerIndex)
      (hresume : slot'.resumeTokenHash = slot.resumeTokenHash)
      (hinput : slot'.inputSocketTokenHash = none)
  | lost (hcause : slot.isConnected
        ∨ (∃ now, op = .sweep now
          ∧ (handoffExpired now slot ∨ r.status.watchesHeartbeats))
        ∨ r'.status = .closed)
      (h : Loses slot slot')

variable {relay : Relay} {r r' : NetplayRoom} {op : RoomOp} {slot slot' slot'' : PlayerSlot}
  {c : ConnectionId} {now : Instant}

namespace Loses

theorem trans (h : Loses slot slot') (h' : Loses slot' slot'') : Loses slot slot'' where
  playerIndex := h'.playerIndex.trans h.playerIndex
  resume := by
    rcases h'.resume with hsame | hnone
    · rw [hsame]
      exact h.resume
    · exact .inr hnone
  input := h'.input

theorem keeps (h : Loses slot slot') (h' : Keeps slot' slot'') : Loses slot slot'' where
  playerIndex := h'.playerIndex.trans h.playerIndex
  resume := by
    rw [h'.resumeTokenHash]
    exact h.resume
  input := h'.inputSocketTokenHash.trans h.input

theorem of_kept (h : Keeps slot slot') (h' : Loses slot' slot'') : Loses slot slot'' where
  playerIndex := h'.playerIndex.trans h.playerIndex
  resume := by
    rw [← h.resumeTokenHash]
    exact h'.resume
  input := h'.input

end Loses

theorem SeatStep.keeps (h : SeatStep r op r' slot slot') (h' : Keeps slot' slot'') :
    SeatStep r op r' slot slot'' := by
  cases h with
  | kept h => exact .kept (h.trans h')
  | taken hissue htakes hindex hholder =>
    exact .taken hissue htakes (h'.playerIndex.trans hindex)
      ⟨h'.connectionId.trans hholder.control, h'.resumeTokenHash.trans hholder.resume,
        h'.inputSocketTokenHash.trans hholder.input,
        h'.inputSocketControlConnectionId.trans hholder.issuedTo⟩
  | inputTaken hop htoken hcontrol hindex hresume hinput =>
    exact .inputTaken hop htoken hcontrol (h'.playerIndex.trans hindex)
      (h'.resumeTokenHash.trans hresume) (h'.inputSocketTokenHash.trans hinput)
  | lost hcause h => exact .lost hcause (h.keeps h')

theorem seatSteps_kept (h : List.Forall₂ Keeps r.players r'.players) :
    List.Forall₂ (SeatStep r op r') r.players r'.players := h.imp fun _ _ => .kept

theorem seatSteps_taken {issue : TokenIssue} (test : PlayerSlot → Bool)
    (edit : PlayerSlot → PlayerSlot) (hissue : issues op = some issue)
    (hrest : List.Forall₂ Keeps (r.updateSlot test edit).players r'.players)
    (hedit : ∀ slot, r.players.find? test = some slot → TakesSeat r slot op
      ∧ (edit slot).playerIndex = slot.playerIndex ∧ Holder issue (edit slot)) :
    List.Forall₂ (SeatStep r op r') r.players r'.players := by
  have htaken : List.Forall₂ (SeatStep r op r') r.players (r.updateSlot test edit).players := by
    refine forall₂_updateFirst (fun slot => .kept (.refl slot)) fun slot hslot => ?_
    obtain ⟨htakes, hindex, hholder⟩ := hedit slot hslot
    exact .taken hissue htakes hindex hholder
  exact forall₂_comp htaken hrest fun _ _ _ => SeatStep.keeps

/-! ## Losses -/

/-- Seats that are kept, or lost by players who were connected. -/
def LosesConnected (slot slot' : PlayerSlot) : Prop :=
  Keeps slot slot' ∨ (slot.isConnected ∧ Loses slot slot')

theorem LosesConnected.trans (h : LosesConnected slot slot') (h' : LosesConnected slot' slot'') :
    LosesConnected slot slot'' := by
  rcases h with h | ⟨hconnected, h⟩
  · rcases h' with h' | ⟨hconnected, h'⟩
    · exact .inl (h.trans h')
    · rw [PlayerSlot.isConnected, h.connectionId] at hconnected
      exact .inr ⟨hconnected, h'.of_kept h⟩
  · rcases h' with h' | ⟨_, h'⟩
    · exact .inr ⟨hconnected, h.keeps h'⟩
    · exact .inr ⟨hconnected, h.trans h'⟩

theorem LosesConnected.seatStep (h : LosesConnected slot slot') : SeatStep r op r' slot slot' := by
  rcases h with h | ⟨hconnected, h⟩
  · exact .kept h
  · exact .lost (.inl hconnected) h

/-- Whoever is found by a socket is connected. -/
theorem isConnected_of_slotForConnection (h : r.slotForConnection c = some slot) :
    slot.isConnected := by
  have hc : slot.connectionId = some c := by simpa using List.find?_some h
  rw [PlayerSlot.isConnected, hc]
  rfl

theorem controlLoss_loses {grace : Duration} (hseats : Seats r) (h : ControlLoss r c now grace r') :
    List.Forall₂ LosesConnected r.players r'.players := by
  -- the seat of the socket is edited under its number
  have hedit : ∀ {r₁ : NetplayRoom} {slot : PlayerSlot} (edit : PlayerSlot → PlayerSlot),
      SameSession r r₁ → r₁.slotForConnection c = some slot → (∀ slot, Loses slot (edit slot)) →
      List.Forall₂ LosesConnected r.players
        (updateFirst (·.playerIndex = slot.playerIndex) edit r₁.players) := by
    intro r₁ slot edit hr₁ hslot hloses
    have hseats₁ : Seats r₁ := hseats.keep hr₁.players hr₁.maxPlayers
    refine forall₂_trans LosesConnected.trans (hr₁.players.imp fun _ _ => .inl) ?_
    refine forall₂_updateFirst (fun slot => .inl (.refl slot)) fun slot' hslot' =>
      .inr ⟨?_, hloses _⟩
    have hfound := hseats₁.slotForPlayer (List.mem_of_find?_eq_some hslot)
    obtain rfl := Option.some.inj (hfound.symm.trans hslot')
    exact isConnected_of_slotForConnection hslot
  -- what is cleared of it afterwards
  have hclear : ∀ {r₁ : NetplayRoom} {slot : PlayerSlot} (isHost : Bool), SameSession r r₁ →
      r₁.slotForConnection c = some slot → List.Forall₂ LosesConnected r.players
        ((detachControl r₁ c slot.playerIndex now).clearDisconnectedSlot slot.playerIndex
          isHost).players := by
    intro r₁ slot isHost hr₁ hslot
    have hseats₁ : Seats r₁ := hseats.keep hr₁.players hr₁.maxPlayers
    refine forall₂_trans LosesConnected.trans ?_
      ((resetSyncStateTo_keeps _ 0).imp fun _ _ => .inl)
    rw [detachControl_clearDisconnected_players hseats₁ hslot]
    refine hedit _ hr₁ hslot fun slot => ?_
    cases isHost
    · exact ⟨rfl, .inr rfl, rfl⟩
    · exact ⟨rfl, .inl rfl, rfl⟩
  cases h with
  | unknown _ h => exact h.players.imp fun _ _ => .inl
  | handoffKept hslot =>
    refine forall₂_trans LosesConnected.trans ?_
      ((resetSyncStateTo_keeps _ 0).imp fun _ _ => .inl)
    refine forall₂_updateFirst (fun slot => .inl (.refl slot)) fun slot' hslot' => .inr ⟨?_, ?_⟩
    · exact isConnected_of_slotForConnection hslot'
    · exact ⟨rfl, .inl rfl, rfl⟩
  | alsoLost hr₁ _ _ hslot =>
    rw [detachControl_markSlotReconnecting_players (hseats.keep hr₁.players hr₁.maxPlayers) hslot]
    exact hedit _ hr₁ hslot fun _ => ⟨rfl, .inl rfl, rfl⟩
  | recovery hr₁ _ _ hslot =>
    refine forall₂_trans LosesConnected.trans ?_
      ((enterRecoveryState_keeps _ _).imp fun _ _ => .inl)
    rw [detachControl_markSlotReconnecting_players (hseats.keep hr₁.players hr₁.maxPlayers) hslot]
    exact hedit _ hr₁ hslot fun _ => ⟨rfl, .inl rfl, rfl⟩
  | hostGone hr₁ _ _ hslot => exact hclear true hr₁ hslot
  | guestGone hr₁ _ _ hslot => exact hclear false hr₁ hslot

theorem detachInputSocket_loses (hseats : Seats r) (p : PlayerIndex) :
    List.Forall₂ LosesConnected r.players (r.detachInputSocket c p now).players := by
  refine forall₂_updateFirst (fun slot => .inl (.refl slot)) fun slot hslot => .inr ⟨?_, ?_⟩
  · exact hseats.controlOfInput hslot
  · exact ⟨rfl, .inl rfl, rfl⟩

/-- The loop over expired handoffs touches the listed seats only. -/
theorem expireRunnerHandoffsLoop_seats (expired : List PlayerSlot) :
    ∀ {r : NetplayRoom} {guestCleared : Bool},
      List.Forall₂ (fun slot slot' => Keeps slot slot'
          ∨ ((∃ other ∈ expired, slot.playerIndex = other.playerIndex) ∧ Loses slot slot'))
        r.players (expireRunnerHandoffsLoop r guestCleared expired).2.players := by
  induction expired with
  | nil =>
    intro r guestCleared
    have hsame : (expireRunnerHandoffsLoop r guestCleared []).2.players = r.players := by
      cases guestCleared <;> rfl
    rw [hsame]
    exact List.forall₂_same.mpr fun slot _ => .inl (.refl slot)
  | cons first rest ih =>
    intro r guestCleared
    -- the first seat, then the others
    have hround : ∀ {r₁ : NetplayRoom}, List.Forall₂ (fun slot slot' => Keeps slot slot'
          ∨ (slot.playerIndex = first.playerIndex ∧ Loses slot slot')) r.players r₁.players →
        ∀ {ps : List PlayerSlot}, List.Forall₂ (fun slot slot' => Keeps slot slot'
          ∨ ((∃ other ∈ rest, slot.playerIndex = other.playerIndex) ∧ Loses slot slot'))
          r₁.players ps →
        List.Forall₂ (fun slot slot' => Keeps slot slot'
          ∨ ((∃ other ∈ first :: rest, slot.playerIndex = other.playerIndex)
            ∧ Loses slot slot')) r.players ps := by
      intro r₁ hfirst ps hrest
      refine forall₂_comp hfirst hrest ?_
      rintro a b c (hab | ⟨hindex, hab⟩) (hbc | ⟨⟨other, hother, hindex'⟩, hbc⟩)
      · exact .inl (hab.trans hbc)
      · rw [hab.playerIndex] at hindex'
        exact .inr ⟨⟨other, List.mem_cons_of_mem _ hother, hindex'⟩, hbc.of_kept hab⟩
      · exact .inr ⟨⟨first, List.mem_cons_self, hindex⟩, hab.keeps hbc⟩
      · exact .inr ⟨⟨first, List.mem_cons_self, hindex⟩, hab.trans hbc⟩
    have hcleared : ∀ isHost, List.Forall₂ (fun slot slot' => Keeps slot slot'
          ∨ (slot.playerIndex = first.playerIndex ∧ Loses slot slot')) r.players
        (r.clearDisconnectedSlot first.playerIndex isHost).players := by
      intro isHost
      have hedit : List.Forall₂ (fun slot slot' => Keeps slot slot'
          ∨ (slot.playerIndex = first.playerIndex ∧ Loses slot slot')) r.players
          (r.updateSlot (·.playerIndex = first.playerIndex)
            (·.clearDisconnected isHost)).players := by
        refine forall₂_updateFirst (fun slot => .inl (.refl slot)) fun slot hslot => .inr ⟨?_, ?_⟩
        · simpa using List.find?_some hslot
        · cases isHost
          · exact ⟨rfl, .inr rfl, rfl⟩
          · exact ⟨rfl, .inl rfl, rfl⟩
      refine forall₂_comp hedit (resetSyncStateTo_keeps _ 0) ?_
      rintro a b c (hab | ⟨hindex, hab⟩) hbc
      · exact .inl (hab.trans hbc)
      · exact .inr ⟨hindex, hab.keeps hbc⟩
    rw [expireRunnerHandoffsLoop]
    split
    · -- the player is back: only the marker goes
      refine hround ?_ ih
      have hsame : SameSession r (r.updateSlot (·.playerIndex = first.playerIndex)
          fun slot => { slot with runnerHandoffDeadline := none }) :=
        .updateSlot fun _ _ => ⟨rfl, fun _ _ => ⟨rfl, rfl⟩, id, rfl⟩
      exact hsame.players.imp fun _ _ => .inl
    · dsimp only
      split
      · refine hround (hcleared (first.role = .host)) ?_
        exact List.forall₂_same.mpr fun slot _ => .inl (.refl slot)
      · exact hround (hcleared _) ih

theorem expireRunnerHandoffs_seats (hseats : Seats r) (now : Instant) :
    List.Forall₂ (fun slot slot' => Keeps slot slot'
        ∨ (handoffExpired now slot ∧ Loses slot slot'))
      r.players (r.expireRunnerHandoffs now).2.players := by
  have hloop : List.Forall₂ (fun slot slot' => Keeps slot slot'
      ∨ ((∃ other ∈ r.players.filter (handoffExpired now),
        slot.playerIndex = other.playerIndex) ∧ Loses slot slot'))
      r.players (r.expireRunnerHandoffs now).2.players := expireRunnerHandoffsLoop_seats _
  have hmembers := (List.forall₂_and_left _ _).mpr
    ⟨fun slot (hslot : slot ∈ r.players) => hslot, hloop⟩
  refine hmembers.imp fun slot slot' h => ?_
  obtain ⟨hslot, hkept | ⟨⟨other, hother, hindex⟩, hloses⟩⟩ := h
  · exact .inl hkept
  obtain ⟨hmem, hexpired⟩ := List.mem_filter.mp hother
  have hfound := hseats.slotForPlayer hmem
  rw [← hindex, hseats.slotForPlayer hslot] at hfound
  exact .inr ⟨Option.some.inj hfound ▸ hexpired, hloses⟩

theorem handoffsLapsed_seatSteps {closed : Bool} {r₁ : NetplayRoom} (hseats : Seats r)
    (hhandoffs : r.expireRunnerHandoffs now = (some closed, r₁)) (hr₁ : SameSession r₁ r') :
    List.Forall₂ (SeatStep r (.sweep now) r') r.players r'.players := by
  have hexpired := expireRunnerHandoffs_seats hseats now
  rw [hhandoffs] at hexpired
  refine forall₂_comp hexpired hr₁.players ?_
  rintro a b c (hab | ⟨hhandoff, hab⟩) hbc
  · exact .kept (hab.trans hbc)
  · exact .lost (.inr (.inl ⟨now, rfl, .inl hhandoff⟩)) (hab.keeps hbc)

theorem heartbeatsStopped_seatSteps {r₁ : NetplayRoom} (hr₁ : SameSession r r₁)
    (hdropped : StaleDropped r₁ r') :
    List.Forall₂ (SeatStep r (.sweep now) r') r.players r'.players := by
  refine forall₂_comp hr₁.players hdropped.players ?_
  rintro a b c hab (hbc | ⟨_, hbc⟩)
  · exact .kept (hab.trans hbc)
  have hloses : Loses b c := ⟨congrArg Seat.playerIndex hbc,
    .inl (congrArg Seat.resumeTokenHash hbc), congrArg Seat.inputSocketTokenHash hbc⟩
  have hwatched := hdropped.watched
  rw [hr₁.status] at hwatched
  exact .lost (.inr (.inl ⟨now, rfl, .inr hwatched⟩)) (hloses.of_kept hab)

/-! ## Every call -/

/-- **What a call does to each seat.** -/
theorem effect_seatSteps (hseats : Seats r) (h : Effect relay r op r') :
    List.Forall₂ (SeatStep r op r') r.players r'.players := by
  have hchange := effect_seats hseats h
  cases h with
  | bookkeeping h => exact seatSteps_kept h.players
  | @joined key c resume input now capabilities =>
    exact seatSteps_taken (·.isEmpty) (·.occupyGuest key c resume input now capabilities) rfl
      (restoreChecking_keeps _) fun slot hslot => ⟨hslot, rfl, ⟨rfl, rfl, rfl, rfl⟩⟩
  | @hostAttached key c resume input now capabilities _ _ hhost hkey =>
    refine seatSteps_taken (·.role = .host) (·.attachHost c resume input now capabilities) rfl
      (keeps_refl _) fun slot hslot => ⟨?_, rfl, ⟨rfl, rfl, rfl, rfl⟩⟩
    obtain rfl := Option.some.inj (hhost.symm.trans hslot)
    exact ⟨hslot, hkey⟩
  | @handoffReconnected request _ _ hreturns =>
    refine seatSteps_taken (·.playerIndex = request.playerIndex) (·.reconnect request) rfl
      (keeps_refl _) fun slot hslot => ⟨?_, rfl, ⟨rfl, rfl, rfl, rfl⟩⟩
    obtain rfl := Option.some.inj (hreturns.found.symm.trans hslot)
    exact hreturns
  | @reconnected request _ _ hreturns =>
    refine seatSteps_taken (·.playerIndex = request.playerIndex) (·.reconnect request) rfl
      (restoreChecking_keeps _) fun slot hslot => ⟨?_, rfl, ⟨rfl, rfl, rfl, rfl⟩⟩
    obtain rfl := Option.some.inj (hreturns.found.symm.trans hslot)
    exact hreturns
  | inputAttached hfound hcontrol _ htoken =>
    refine forall₂_updateFirst (fun slot => .kept (.refl slot)) fun slot hslot => ?_
    obtain rfl := Option.some.inj (hfound.symm.trans hslot)
    exact .inputTaken rfl htoken hcontrol rfl rfl rfl
  | exited =>
    refine forall₂_comp (resetSyncStateTo_keeps { r with status := .closed } 0)
      (forall₂_updateWhere (R := fun slot slot' => Keeps slot slot' ∨ Loses slot slot')
        (fun slot => .inl (.refl slot)) fun _ _ _ => .inr ⟨rfl, .inl rfl, rfl⟩) ?_
    rintro a b c hab (hbc | hbc)
    · exact .kept (hab.trans hbc)
    · exact .lost (.inr (.inr rfl)) (hbc.of_kept hab)
  | controlLost h => exact (controlLoss_loses hseats h).imp fun _ _ hs => hs.seatStep
  | inputLost => exact (detachInputSocket_loses hseats _).imp fun _ _ hs => hs.seatStep
  | @inputAndControlLost c _ now slot _ _ _ _ h =>
    have hloses : List.Forall₂ LosesConnected r.players r'.players :=
      forall₂_trans LosesConnected.trans (detachInputSocket_loses hseats _)
        (controlLoss_loses (hseats.detachInputSocket _) h)
    exact hloses.imp fun _ _ hs => hs.seatStep
  | handoffsLapsed _ _ _ _ hhandoffs hr₁ => exact handoffsLapsed_seatSteps hseats hhandoffs hr₁
  | heartbeatsStopped hr₁ hdropped => exact heartbeatsStopped_seatSteps hr₁ hdropped
  | snapshotCompleted | pauseNoted => exact seatSteps_kept (keeps_refl _)
  | legacyInput h =>
    refine seatSteps_kept ?_
    rw [h.players]
    exact keeps_refl _
  | pinTimedOut => exact seatSteps_kept (updateOccupied_keeps fun _ => .enter (by simp))
  | _ =>
    cases hchange with
    | kept h => exact seatSteps_kept h
    | attached hnew => exact absurd hnew (by simp [attaches])
    | yielded hleaves | dropped hleaves => exact absurd hleaves (by simp [leaves])

end NetplayRelay.Proof
