import NetplayRelay.Lib.OneTime
import NetplayRelay.Proof.Returns

/-!
# Tokens work once

A seat holds two tokens: its player's resume token, and the token for the input socket while it is
pending. Only taking a seat brings tokens, a new pair for the new control socket. A reconnect
replaces the resume token it presents and an input socket uses up the token it presents, so with
new tokens each time no token works twice. The library's rule needs two facts of one call: what is
held was held before or is brought by the call, and what is used is gone.
-/

namespace NetplayRelay.Proof

open Lib Protocol Rooms Registry

variable {relay : Relay} {r r' : NetplayRoom} {s t : StoredRoom} {slot slot' : PlayerSlot}
  {op : RoomOp} {x : ResumeTokenHash}

/-- The tokens a call brings. -/
def tokensOf (op : RoomOp) : List ResumeTokenHash :=
  (issues op).toList.flatMap fun issue => [issue.resumeTokenHash, issue.inputSocketTokenHash]

def HeldResume (r : NetplayRoom) (x : ResumeTokenHash) : Prop :=
  ∃ slot ∈ r.players, slot.resumeTokenHash = some x

def HeldInput (r : NetplayRoom) (x : ResumeTokenHash) : Prop :=
  ∃ slot ∈ r.players, slot.inputSocketTokenHash = some x

/-- Two seats share no token. -/
structure Unshared (a b : PlayerSlot) : Prop where
  index : a.playerIndex ≠ b.playerIndex
  resume : ∀ x, a.resumeTokenHash = some x → b.resumeTokenHash ≠ some x
  input : ∀ x, a.inputSocketTokenHash = some x → b.inputSocketTokenHash ≠ some x

instance : Std.Symm Unshared :=
  ⟨fun _ _ h => ⟨h.index.symm, fun x hb ha => h.resume x ha hb, fun x hb ha => h.input x ha hb⟩⟩

/-- No token is held twice. -/
def Distinct (r : NetplayRoom) : Prop := r.players.Pairwise Unshared

/-! ## What a call does to the tokens -/

/-- Tokens may have been taken away. -/
structure Sheds (slot slot' : PlayerSlot) : Prop where
  playerIndex : slot'.playerIndex = slot.playerIndex
  resume : slot'.resumeTokenHash = slot.resumeTokenHash ∨ slot'.resumeTokenHash = none
  input : slot'.inputSocketTokenHash = none
    ∨ (slot'.inputSocketTokenHash = slot.inputSocketTokenHash
      ∧ slot'.inputSocketControlConnectionId = slot.inputSocketControlConnectionId)

/-- The seat was taken, with what the call brought. -/
structure Renews (r : NetplayRoom) (op : RoomOp) (slot slot' : PlayerSlot) (issue : TokenIssue) :
    Prop where
  issued : issues op = some issue
  takes : TakesSeat r slot op
  playerIndex : slot'.playerIndex = slot.playerIndex
  holder : Holder issue slot'

theorem SeatStep.tokens (h : SeatStep r op r' slot slot') :
    Sheds slot slot' ∨ ∃ issue, Renews r op slot slot' issue := by
  cases h with
  | kept h =>
    exact .inl ⟨h.playerIndex, .inl h.resumeTokenHash,
      .inr ⟨h.inputSocketTokenHash, h.inputSocketControlConnectionId⟩⟩
  | taken hissue htakes hindex hholder => exact .inr ⟨_, hissue, htakes, hindex, hholder⟩
  | inputTaken _ _ _ hindex hresume hinput => exact .inl ⟨hindex, .inl hresume, .inl hinput⟩
  | lost _ h => exact .inl ⟨h.playerIndex, h.resume, .inl h.input⟩

theorem Sheds.resume_some (h : Sheds slot slot') (hx : slot'.resumeTokenHash = some x) :
    slot.resumeTokenHash = some x := by
  rcases h.resume with hsame | hnone
  · exact hsame.symm.trans hx
  · exact absurd (hnone.symm.trans hx) (by simp)

theorem Sheds.input_some (h : Sheds slot slot') (hx : slot'.inputSocketTokenHash = some x) :
    slot.inputSocketTokenHash = some x
      ∧ slot'.inputSocketControlConnectionId = slot.inputSocketControlConnectionId := by
  rcases h.input with hnone | ⟨hsame, hcontrol⟩
  · exact absurd (hnone.symm.trans hx) (by simp)
  · exact ⟨hsame.symm.trans hx, hcontrol⟩

theorem Renews.mem_tokensOf {issue : TokenIssue} (h : Renews r op slot slot' issue) :
    issue.resumeTokenHash ∈ tokensOf op ∧ issue.inputSocketTokenHash ∈ tokensOf op := by
  rw [tokensOf, h.issued]
  simp

/-- A call takes one seat. -/
theorem takesSeat_unique (h : TakesSeat r slot op) (h' : TakesSeat r slot' op) : slot = slot' := by
  cases op with
  | joinGuest => exact Option.some.inj (h.symm.trans h')
  | connectHost => exact Option.some.inj (h.1.symm.trans h'.1)
  | reconnectPlayer => exact Option.some.inj (h.found.symm.trans h'.found)
  | _ => exact absurd h id

/-- A seat of the room after a call, and what it was before. -/
theorem applyOp_tokens (relay : Relay) (hseats : Seats r)
    (hslot : slot' ∈ (applyOp relay r op).players) :
    ∃ slot ∈ r.players, Sheds slot slot' ∨ ∃ issue, Renews r op slot slot' issue := by
  obtain ⟨slot, hmem, hstep⟩ :=
    forall₂_mem (effect_seatSteps hseats (applyOp_effect relay r op)) hslot
  exact ⟨slot, hmem, hstep.tokens⟩

theorem heldResume_step (hseats : Seats r) (h : HeldResume (applyOp relay r op) x) :
    HeldResume r x ∨ x ∈ tokensOf op := by
  obtain ⟨slot', hslot', hx⟩ := h
  obtain ⟨slot, hslot, hsheds | ⟨issue, hrenews⟩⟩ := applyOp_tokens relay hseats hslot'
  · exact .inl ⟨slot, hslot, hsheds.resume_some hx⟩
  · have hsame := Option.some.inj (hrenews.holder.resume.symm.trans hx)
    exact .inr (hsame ▸ hrenews.mem_tokensOf.1)

theorem heldInput_step (hseats : Seats r) (h : HeldInput (applyOp relay r op) x) :
    HeldInput r x ∨ x ∈ tokensOf op := by
  obtain ⟨slot', hslot', hx⟩ := h
  obtain ⟨slot, hslot, hsheds | ⟨issue, hrenews⟩⟩ := applyOp_tokens relay hseats hslot'
  · exact .inl ⟨slot, hslot, (hsheds.input_some hx).1⟩
  · have hsame := Option.some.inj (hrenews.holder.input.symm.trans hx)
    exact .inr (hsame ▸ hrenews.mem_tokensOf.2)

/-- What a call brings to one seat no other seat holds. -/
theorem Renews.unshared {a a' : PlayerSlot} {issue : TokenIssue} (h : Renews r op slot slot' issue)
    (hsheds : Sheds a a') (ha : a ∈ r.players) (hindex : a.playerIndex ≠ slot.playerIndex)
    (hfresh : ∀ x ∈ tokensOf op, ¬(HeldResume r x ∨ HeldInput r x)) : Unshared a' slot' := by
  obtain ⟨hnewResume, hnewInput⟩ := h.mem_tokensOf
  refine ⟨by rwa [hsheds.playerIndex, h.playerIndex], fun x hxa hx => ?_, fun x hxa hx => ?_⟩
  · have hsame := Option.some.inj (h.holder.resume.symm.trans hx)
    exact hfresh x (hsame ▸ hnewResume) (.inl ⟨a, ha, hsheds.resume_some hxa⟩)
  · have hsame := Option.some.inj (h.holder.input.symm.trans hx)
    exact hfresh x (hsame ▸ hnewInput) (.inr ⟨a, ha, (hsheds.input_some hxa).1⟩)

/-- New tokens keep the tokens of a room distinct. -/
theorem distinct_step (hseats : Seats r) (hdistinct : Distinct r)
    (hfresh : ∀ x ∈ tokensOf op, ¬(HeldResume r x ∨ HeldInput r x)) :
    Distinct (applyOp relay r op) := by
  have hsteps := (List.forall₂_and_left _ _).mpr
    ⟨fun slot (hslot : slot ∈ r.players) => hslot,
      effect_seatSteps hseats (applyOp_effect relay r op)⟩
  refine pairwise_forall₂ ?_ hsteps hdistinct
  rintro a a' b b' ⟨ha, hstepa⟩ ⟨hb, hstepb⟩ ⟨hindex, hresume, hinput⟩
  rcases hstepa.tokens with hsheda | ⟨issue, hrenewa⟩ <;>
    rcases hstepb.tokens with hshedb | ⟨issue', hrenewb⟩
  · refine ⟨by rwa [hsheda.playerIndex, hshedb.playerIndex], fun x hxa hxb => ?_,
      fun x hxa hxb => ?_⟩
    · exact hresume x (hsheda.resume_some hxa) (hshedb.resume_some hxb)
    · exact hinput x (hsheda.input_some hxa).1 (hshedb.input_some hxb).1
  · exact hrenewb.unshared hsheda ha hindex hfresh
  · exact Std.Symm.symm _ _ (hrenewa.unshared hshedb hb hindex.symm hfresh)
  · -- two seats are not taken by one call
    exact absurd
      (congrArg (·.playerIndex) (takesSeat_unique hrenewa.takes hrenewb.takes)) hindex

/-! ## Using a token -/

/-- The call reclaims a seat with this resume token. -/
def reclaims (x : ResumeTokenHash) : StoredRoom × RoomOp → Bool
  | (s, .reconnectPlayer request) =>
    request.resumeTokenHash = x && (s.room.reconnectPlayer request).1.isOk
  | _ => false

/-- The call attaches an input socket with this token. -/
def attachesWith (x : ResumeTokenHash) : StoredRoom × RoomOp → Bool
  | (s, .connectInputSocket p roomEpoch sessionEpoch input c now) =>
    input = x && (s.room.attachInputSocket p roomEpoch sessionEpoch input c now).1.isOk
  | _ => false

theorem reclaims_returns (h : reclaims x (s, op)) :
    ∃ request slot, op = .reconnectPlayer request ∧ request.resumeTokenHash = x
      ∧ s.room.status ≠ .closed ∧ Returns s.room request slot := by
  cases op with
  | reconnectPlayer request =>
    simp only [reclaims, Bool.and_eq_true, decide_eq_true_eq] at h
    rcases reconnectPlayer_cases s.room request with ⟨_, _, hfailed, _⟩ | ⟨hopen, slot, hreturns⟩
    · rw [hfailed] at h
      exact absurd h.2 (by simp [Except.isOk, Except.toBool])
    · exact ⟨request, slot, rfl, h.1, hopen, hreturns⟩
  | _ => exact absurd h (by simp [reclaims])

theorem reclaims_held (h : reclaims x (s, op)) : HeldResume s.room x := by
  obtain ⟨request, slot, _, rfl, _, hreturns⟩ := reclaims_returns h
  exact ⟨slot, List.mem_of_find?_eq_some hreturns.found, hreturns.token⟩

theorem reconnectPlayer_renews {request : PlayerReconnectRequest} (hseats : Seats r)
    (hopen : r.status ≠ .closed) (h : Returns r request slot)
    (hslot : slot' ∈ (r.reconnectPlayer request).2.players)
    (hindex : slot'.playerIndex = request.playerIndex) :
    slot'.resumeTokenHash = some request.nextResumeTokenHash := by
  have hkeeps : List.Forall₂ Keeps
      (r.updateSlot (·.playerIndex = request.playerIndex) (·.reconnect request)).players
      (r.reconnectPlayer request).2.players := by
    rw [reconnectPlayer_returns hopen h]
    split
    · exact keeps_refl _
    · exact restoreChecking_keeps _
  obtain ⟨slot₁, hslot₁, hkept⟩ := forall₂_mem hkeeps hslot
  obtain ⟨slot₀, _, rfl⟩ := mem_updateFirst_key hseats.nodup hslot₁
  rw [hkept.playerIndex] at hindex
  by_cases hp : slot₀.playerIndex = request.playerIndex
  · rw [if_pos hp] at hkept
    exact hkept.resumeTokenHash
  · rw [if_neg hp] at hindex
    exact absurd hindex hp

/-- A token that reclaimed a seat is gone. -/
theorem reclaims_spent (hseats : Seats s.room) (hdistinct : Distinct s.room)
    (hstep : s.step relay op = some t) (hnew : x ∉ tokensOf op) (h : reclaims x (s, op)) :
    ¬HeldResume t.room x := by
  obtain ⟨request, slot, rfl, rfl, hopen, hreturns⟩ := reclaims_returns h
  have hslot : slot ∈ s.room.players := List.mem_of_find?_eq_some hreturns.found
  have hp : slot.playerIndex = request.playerIndex := by simpa using List.find?_some hreturns.found
  rintro ⟨slot', hslot', hx⟩
  rw [step_room hstep] at hslot'
  obtain ⟨slot₀, hslot₀, hsheds | ⟨issue, hrenews⟩⟩ := applyOp_tokens relay hseats hslot'
  · -- only this seat held it
    have hsame : slot₀ = slot := by
      by_contra hne
      exact (hdistinct.forall hslot₀ hslot hne).resume _ (hsheds.resume_some hx) hreturns.token
    subst hsame
    have hnext := reconnectPlayer_renews hseats hopen hreturns hslot' (hsheds.playerIndex.trans hp)
    have hequal := Option.some.inj (hnext.symm.trans hx)
    exact hnew (hequal ▸ by simp [tokensOf, issues])
  · have hequal := Option.some.inj (hrenews.holder.resume.symm.trans hx)
    exact hnew (hequal ▸ hrenews.mem_tokensOf.1)

theorem attachesWith_mayAttach (h : attachesWith x (s, op)) :
    ∃ p roomEpoch sessionEpoch c now slot,
      op = .connectInputSocket p roomEpoch sessionEpoch x c now
        ∧ MayAttach s.room p roomEpoch sessionEpoch x slot
        ∧ s.room.attachInputSocket p roomEpoch sessionEpoch x c now
          = (.ok (), s.room.updateSlot (·.playerIndex = p) fun slot =>
            { slot with
              inputSocketTokenHash := none
              inputSocketControlConnectionId := none
              inputConnectionId := some c
              lastSeenAt := some now }) := by
  cases op with
  | connectInputSocket p roomEpoch sessionEpoch input c now =>
    simp only [attachesWith, Bool.and_eq_true, decide_eq_true_eq] at h
    obtain ⟨rfl, hok⟩ := h
    rcases attachInputSocket_cases s.room p roomEpoch sessionEpoch input c now with
      ⟨_, hfailed⟩ | ⟨⟨slot, hslot⟩, hattached⟩
    · rw [hfailed] at hok
      exact absurd hok (by simp [Except.isOk, Except.toBool])
    · exact ⟨p, roomEpoch, sessionEpoch, c, now, slot, rfl, hslot, hattached⟩
  | _ => exact absurd h (by simp [attachesWith])

theorem attachesWith_held (h : attachesWith x (s, op)) : HeldInput s.room x := by
  obtain ⟨_, _, _, _, _, slot, _, hslot, _⟩ := attachesWith_mayAttach h
  exact ⟨slot, List.mem_of_find?_eq_some hslot.found, hslot.token⟩

/-- A token that attached an input socket is gone. -/
theorem attachesWith_spent (hseats : Seats s.room) (hdistinct : Distinct s.room)
    (hstep : s.step relay op = some t) (h : attachesWith x (s, op)) : ¬HeldInput t.room x := by
  obtain ⟨p, roomEpoch, sessionEpoch, c, now, slot, rfl, hslot, hattached⟩ :=
    attachesWith_mayAttach h
  rintro ⟨slot', hslot', hx⟩
  rw [step_room hstep, applyOp, hattached] at hslot'
  obtain ⟨slot₀, hslot₀, rfl⟩ := mem_updateFirst_key hseats.nodup hslot'
  by_cases hp : slot₀.playerIndex = p
  · rw [if_pos hp] at hx
    exact absurd hx (by simp)
  -- only the edited seat held it
  rw [if_neg hp] at hx
  have hne : slot₀ ≠ slot := by
    rintro rfl
    exact hp (by simpa using List.find?_some hslot.found)
  have hpair := hdistinct.forall hslot₀ (List.mem_of_find?_eq_some hslot.found) hne
  exact hpair.input x hx hslot.token

/-! ## At most once -/

/-- The call may be made, and what it brings is held nowhere. -/
def BringsNew (s : StoredRoom) (op : RoomOp) : Prop :=
  Admissible s.room op ∧ ∀ x ∈ tokensOf op, ¬(HeldResume s.room x ∨ HeldInput s.room x)

/-- New tokens each time, over a whole history. -/
theorem guarded_bringsNew {ops : List RoomOp} (hs : Reachable relay s)
    (hguarded : Guarded (StoredRoom.step relay) (fun s op => Admissible s.room op) s ops)
    (hnodup : (ops.flatMap tokensOf).Nodup)
    (hnew : ∀ x, (HeldResume s.room x ∨ HeldInput s.room x) → x ∉ ops.flatMap tokensOf) :
    Guarded (StoredRoom.step relay) BringsNew s ops := by
  have hlive : ∀ (s : StoredRoom) (op : RoomOp) (t : StoredRoom), Reachable relay s →
      Admissible s.room op → s.step relay op = some t → ∀ x,
      (HeldResume t.room x ∨ HeldInput t.room x) →
      (HeldResume s.room x ∨ HeldInput s.room x) ∨ x ∈ tokensOf op := by
    intro s op t hs _ ht x hx
    rw [step_room ht] at hx
    rcases hx with hx | hx
    · exact (heldResume_step (seats_reachable hs) hx).imp_left .inl
    · exact (heldInput_step (seats_reachable hs) hx).imp_left .inr
  exact guarded_fresh (fun _ _ _ => reachable_step) hlive hs hguarded hnodup hnew

theorem bringsNew_step (hs : Reachable relay s ∧ Distinct s.room) (hnew : BringsNew s op)
    (ht : s.step relay op = some t) : Reachable relay t ∧ Distinct t.room := by
  refine ⟨reachable_step hs.1 hnew.1 ht, ?_⟩
  rw [step_room ht]
  exact distinct_step (seats_reachable hs.1) hs.2 hnew.2

/-- The one-time rule for the tokens of one kind. -/
theorem uses_once {Held : NetplayRoom → ResumeTokenHash → Prop}
    {uses : ResumeTokenHash → StoredRoom × RoomOp → Bool} {ops : List RoomOp}
    (hlive : ∀ {r op}, Seats r → Held (applyOp relay r op) x → Held r x ∨ x ∈ tokensOf op)
    (huse : ∀ {s op}, uses x (s, op) → Held s.room x)
    (hspent : ∀ {s t op}, Seats s.room → Distinct s.room → s.step relay op = some t →
      x ∉ tokensOf op → uses x (s, op) → ¬Held t.room x) (hs : Reachable relay s ∧ Distinct s.room)
    (hguarded : Guarded (StoredRoom.step relay) BringsNew s ops)
    (hnodup : (ops.flatMap tokensOf).Nodup) (hnew : Held s.room x → x ∉ ops.flatMap tokensOf) :
    (visits (StoredRoom.step relay) s ops).countP (uses x) ≤ 1 := by
  have hstep : ∀ (s : StoredRoom) (op : RoomOp) (t : StoredRoom),
      (Reachable relay s ∧ Distinct s.room) → BringsNew s op → s.step relay op = some t →
      Held t.room x → Held s.room x ∨ x ∈ tokensOf op := by
    intro s op t hs _ ht hx
    rw [step_room ht] at hx
    exact hlive (seats_reachable hs.1) hx
  refine countP_uses_le_one (fun _ _ _ => bringsNew_step) hstep (fun _ _ _ _ => huse) ?_ hs
    hguarded hnodup hnew
  intro s op t hs _ ht hbrings hused
  exact hspent (seats_reachable hs.1) hs.2 ht hbrings hused

/-! ## Whole histories -/

/-- The pending input tokens were issued to the control sockets their seats record. -/
def Recorded (issued : List TokenIssue) (r : NetplayRoom) : Prop :=
  ∀ slot ∈ r.players, ∀ x, slot.inputSocketTokenHash = some x →
    ∃ issue ∈ issued, issue.inputSocketTokenHash = x
      ∧ slot.inputSocketControlConnectionId = some issue.connectionId

theorem recorded_step {issued : List TokenIssue} (hseats : Seats r) (h : Recorded issued r) :
    Recorded (issued ++ (issues op).toList) (applyOp relay r op) := by
  intro slot' hslot' x hx
  obtain ⟨slot, hslot, hsheds | ⟨issue, hrenews⟩⟩ := applyOp_tokens relay hseats hslot'
  · obtain ⟨hold, hcontrol⟩ := hsheds.input_some hx
    obtain ⟨issue, hissue, htoken, hto⟩ := h slot hslot x hold
    exact ⟨issue, List.mem_append_left _ hissue, htoken, hcontrol.trans hto⟩
  · refine ⟨issue, List.mem_append_right _ ?_, ?_, hrenews.holder.issuedTo⟩
    · rw [hrenews.issued]
      exact List.mem_singleton.mpr rfl
    · exact Option.some.inj (hrenews.holder.input.symm.trans hx)

section Creation

variable {roomId : RoomId} {key : Text} {c : ConnectionId} {session : NetplaySessionDescriptor}
  {version : Nat} {resume input : ResumeTokenHash} {now : Instant} {voice : Option RoomVoiceState}
  {ops : List RoomOp}

theorem createRoom_players :
    (createRoom roomId key c session version resume input now voice).room.players
      = [.host key c resume input now, .empty .two] := by
  cases voice <;> rfl

theorem createRoom_distinct :
    Distinct (createRoom roomId key c session version resume input now voice).room := by
  rw [Distinct, createRoom_players]
  refine List.pairwise_pair.mpr ⟨?_, fun _ _ => ?_, fun _ _ => ?_⟩
  · exact (by decide : PlayerIndex.one ≠ .two)
  · simp [PlayerSlot.empty]
  · simp [PlayerSlot.empty]

theorem createRoom_held
    (h : HeldResume (createRoom roomId key c session version resume input now voice).room x
      ∨ HeldInput (createRoom roomId key c session version resume input now voice).room x) :
    x ∈ [resume, input] := by
  simp only [HeldResume, HeldInput, createRoom_players] at h
  rcases h with ⟨slot, hslot, hx⟩ | ⟨slot, hslot, hx⟩ <;>
    rcases List.mem_pair.mp hslot with rfl | rfl <;>
    simp_all [PlayerSlot.host, PlayerSlot.empty]

theorem recorded_reachable {s : StoredRoom}
    (hguarded : Guarded (StoredRoom.step relay) (fun s op => Admissible s.room op)
      (createRoom roomId key c session version resume input now voice) ops)
    (hrun : run (StoredRoom.step relay)
      (createRoom roomId key c session version resume input now voice) ops = some s) :
    Recorded (⟨c, resume, input⟩ :: ops.filterMap issues) s.room := by
  have hstep :
      ∀ (past : List (StoredRoom × RoomOp)) (s : StoredRoom) (op : RoomOp) (t : StoredRoom),
      (Reachable relay s
        ∧ Recorded (⟨c, resume, input⟩ :: (past.map (·.2)).filterMap issues) s.room) →
      Admissible s.room op → s.step relay op = some t →
      Reachable relay t
        ∧ Recorded
          (⟨c, resume, input⟩ :: ((past ++ [(s, op)]).map (·.2)).filterMap issues) t.room := by
    rintro past s op t ⟨hs, hrecorded⟩ hadmissible ht
    refine ⟨reachable_step hs hadmissible ht, ?_⟩
    have hmore : Recorded _ (applyOp relay s.room op) :=
      recorded_step (seats_reachable hs) hrecorded
    rw [step_room ht, List.map_append, List.filterMap_append]
    have hlast : ([(s, op)].map (·.2)).filterMap issues = (issues op).toList := by
      cases hissue : issues op <;> simp [hissue]
    rw [hlast]
    exact hmore
  have hfirst : Recorded [⟨c, resume, input⟩]
      (createRoom roomId key c session version resume input now voice).room := by
    intro slot hslot x hx
    rw [createRoom_players] at hslot
    rcases List.mem_pair.mp hslot with rfl | rfl
    · exact ⟨_, List.mem_singleton.mpr rfl, Option.some.inj hx, rfl⟩
    · exact absurd hx (by simp [PlayerSlot.empty])
  have hbegin : Reachable relay (createRoom roomId key c session version resume input now voice)
      ∧ Recorded (⟨c, resume, input⟩
        :: (([] : List (StoredRoom × RoomOp)).map (·.2)).filterMap issues)
        (createRoom roomId key c session version resume input now voice).room :=
    ⟨reachable_createRoom, hfirst⟩
  have hhistory := history_run hstep hguarded.history hrun hbegin
  rw [List.nil_append, visits_events hrun] at hhistory
  exact hhistory.2

/-- **Tokens work once.** Tokens are generated anew each time and hashed injectively. Then, over
every history of a room, a resume token reclaims a seat at most once and an input token attaches a
socket at most once; it does so for the control socket it was issued to, while that socket holds
the seat, and on the current epochs; and whoever comes back replaces a connected player only under
an unexpired handoff. -/
theorem tokens_work_once (hash : Text → ResumeTokenHash) (tokens : List Text)
    (hgenerated : [resume, input] ++ ops.flatMap tokensOf = tokens.map hash)
    (hfresh : tokens.Nodup) (hinjective : ∀ a ∈ tokens, ∀ b ∈ tokens, hash a = hash b → a = b)
    (hguarded : Guarded (StoredRoom.step relay) (fun s op => Admissible s.room op)
      (createRoom roomId key c session version resume input now voice) ops) :
    (∀ token, (visits (StoredRoom.step relay)
        (createRoom roomId key c session version resume input now voice) ops).countP
          (reclaims (hash token)) ≤ 1)
      ∧ (∀ token, (visits (StoredRoom.step relay)
          (createRoom roomId key c session version resume input now voice) ops).countP
            (attachesWith (hash token)) ≤ 1)
      ∧ ∀ done s, done <+: ops →
        run (StoredRoom.step relay)
          (createRoom roomId key c session version resume input now voice) done = some s →
        (∀ p roomEpoch sessionEpoch token socket at_,
          (s.room.attachInputSocket p roomEpoch sessionEpoch (hash token) socket at_).1.isOk →
          s.room.roomEpoch = roomEpoch ∧ s.room.sessionEpoch = sessionEpoch
            ∧ ∃ issue ∈ TokenIssue.mk c resume input :: done.filterMap issues,
              issue.inputSocketTokenHash = hash token
                ∧ (s.room.slotForPlayer p).bind (·.connectionId) = some issue.connectionId)
        ∧ ∀ request slot, (s.room.reconnectPlayer request).1 = .ok () →
          s.room.slotForPlayer request.playerIndex = some slot → slot.isConnected →
          handoffArmed slot request.now := by
  have hnodup : ([resume, input] ++ ops.flatMap tokensOf).Nodup := by
    rw [hgenerated]
    exact hfresh.map_on hinjective
  obtain ⟨_, hops, hapart⟩ := List.nodup_append.mp hnodup
  let created := createRoom roomId key c session version resume input now voice
  have hcreated : Reachable relay created := reachable_createRoom
  have hnew : ∀ x, (HeldResume created.room x ∨ HeldInput created.room x) →
      x ∉ ops.flatMap tokensOf :=
    fun x hx hagain => hapart x (createRoom_held hx) x hagain rfl
  have hbrings := guarded_bringsNew hcreated hguarded hops hnew
  refine ⟨fun token => ?_, fun token => ?_, ?_⟩
  · exact uses_once heldResume_step reclaims_held reclaims_spent ⟨hcreated, createRoom_distinct⟩
      hbrings hops fun hx => hnew _ (.inl hx)
  · exact uses_once heldInput_step attachesWith_held
      (fun hseats hdistinct ht _ => attachesWith_spent hseats hdistinct ht)
      ⟨hcreated, createRoom_distinct⟩ hbrings hops fun hx => hnew _ (.inr hx)
  · rintro done s ⟨rest, rfl⟩ hrun
    have hdone := ((guarded_append hrun).mp hguarded).1
    constructor
    · intro p roomEpoch sessionEpoch token socket at_ hok
      rcases attachInputSocket_cases s.room p roomEpoch sessionEpoch (hash token) socket at_ with
        ⟨_, hfailed⟩ | ⟨⟨slot, hslot⟩, _⟩
      · rw [hfailed] at hok
        exact absurd hok (by simp [Except.isOk, Except.toBool])
      · obtain ⟨issue, hissue, htoken, hto⟩ := recorded_reachable hdone hrun slot
          (List.mem_of_find?_eq_some hslot.found) _ hslot.token
        refine ⟨hslot.epochs.1, hslot.epochs.2, issue, hissue, htoken, ?_⟩
        rw [hslot.found, Option.bind_some, ← hslot.issuedTo, hto]
    · intro request slot hok hslot hconnected
      rcases reconnectPlayer_cases s.room request with ⟨_, _, hfailed, _⟩ | ⟨_, slot', hreturns⟩
      · rw [hfailed] at hok
        exact absurd hok (by simp)
      · obtain rfl : slot = slot' := Option.some.inj (hslot.symm.trans hreturns.found)
        rcases hreturns.awaited with hhandoff | ⟨hgone, _⟩
        · obtain ⟨deadline, hdeadline⟩ := Option.isSome_iff_exists.mp hhandoff
          have hlater := hreturns.inTime.2
          rw [hdeadline, Option.all_some] at hlater
          rwa [handoffArmed, hdeadline, Option.any_some]
        · exact absurd hconnected (by simp [PlayerSlot.isConnected, hgone])

end Creation

/-- The guest of a running session is lost and comes back with its resume token. -/
def guestResumes : List RoomOp :=
  seating false ++ handshake 5 0 ++ [.disconnect guestSocket 0,
    .reconnectPlayer ⟨.two, "gr".toList, "gr2".toList, "gi2".toList, 2, ⟨5⟩, 1,
      ⟨true, true, false, false, true⟩⟩]

theorem tokens_work_once_guestResumes :
    let created := createRoom ⟨1⟩ "host".toList ⟨0⟩ sampleSession 5 "cr".toList "ci".toList 0 none
    (visits (StoredRoom.step sampleRelay) created guestResumes).countP (reclaims "gr".toList) = 1
      ∧ ∀ token,
        (visits (StoredRoom.step sampleRelay) created guestResumes).countP (reclaims token)
          ≤ 1 := by
  have hsample : (visits (StoredRoom.step sampleRelay) (createRoom ⟨1⟩ "host".toList ⟨0⟩
        sampleSession 5 "cr".toList "ci".toList 0 none) guestResumes).countP
          (reclaims "gr".toList) = 1
      ∧ Guarded (StoredRoom.step sampleRelay) (fun s op => Admissible s.room op)
        (createRoom ⟨1⟩ "host".toList ⟨0⟩ sampleSession 5 "cr".toList "ci".toList 0 none)
        guestResumes := by
    decide +kernel
  refine ⟨hsample.1, (tokens_work_once id ["cr".toList, "ci".toList, "hr".toList, "hi".toList,
    "gr".toList, "gi".toList, "gr2".toList, "gi2".toList] ?_ ?_ ?_ hsample.2).1⟩
  · decide
  · decide
  · exact fun _ _ _ _ hsame => hsame

end NetplayRelay.Proof
