import NetplayRelay.Proof.Histories

/-!
# Requests to come back that are refused

A request to take a seat again can be refused for six reasons. Five of them leave the room alone.
The sixth, a deadline that has passed, marks the seat as expired. The request may be for a seat
whose player never left: a runner handoff was armed and not claimed in time. The sweep drops such a
marker without disturbing the player, but a claim that arrives before the sweep marks the player.
-/

namespace NetplayRelay.Proof

open Lib Protocol Rooms Registry NetplayRoom

variable {r : NetplayRoom} {request : PlayerReconnectRequest} {slot : PlayerSlot}

/-- The request is in order except that it comes too late for the seat. -/
structure Overdue (r : NetplayRoom) (request : PlayerReconnectRequest) (slot : PlayerSlot) :
    Prop where
  opened : r.status ≠ .closed
  found : r.slotForPlayer request.playerIndex = some slot
  token : slot.resumeTokenHash = some request.resumeTokenHash
  awaited : slot.runnerHandoffDeadline.isSome
    ∨ (slot.isConnected = false ∧ slot.reconnectDeadline.isSome)
  epoch : request.roomEpoch = slot.reconnectRoomEpoch.getD r.roomEpoch
    ∨ request.roomEpoch = r.roomEpoch
  late : slot.reconnectDeadline.any (request.now ≥ ·)
    ∨ slot.runnerHandoffDeadline.any (request.now ≥ ·)

/-- The room with the seat marked as expired. -/
def markExpired (r : NetplayRoom) (request : PlayerReconnectRequest) : NetplayRoom :=
  r.updateSlot (·.playerIndex = request.playerIndex) (·.enter .recoveryExpired .recoveryExpired)

theorem reconnectPlayer_overdue (h : Overdue r request slot) :
    r.reconnectPlayer request = (.error .recoveryExpired, markExpired r request) := by
  have hawaited : ¬(!slot.runnerHandoffDeadline.isSome
      && (slot.isConnected || slot.reconnectDeadline.isNone)) = true := by
    rcases h.awaited with hhandoff | ⟨habsent, hdeadline⟩
    · simp [hhandoff]
    · simp [habsent, Option.isSome_iff_ne_none.mp hdeadline]
  have hepoch : ¬(request.roomEpoch ≠ slot.reconnectRoomEpoch.getD r.roomEpoch
      ∧ request.roomEpoch ≠ r.roomEpoch) := by
    rintro ⟨hother, hold⟩
    exact h.epoch.elim hother hold
  have hlate : (slot.reconnectDeadline.any (request.now ≥ ·)
      || slot.runnerHandoffDeadline.any (request.now ≥ ·)) = true := by
    rw [Bool.or_eq_true]
    exact h.late
  rw [reconnectPlayer, if_neg h.opened, h.found]
  dsimp only
  rw [if_neg (not_not_intro h.token), if_neg hawaited, if_neg hepoch, if_pos hlate, markExpired]

/-- A refused request leaves the room alone or is overdue. -/
theorem reconnectPlayer_refused (r : NetplayRoom) (request : PlayerReconnectRequest) :
    (r.reconnectPlayer request).1.isOk = false →
      (r.reconnectPlayer request).2 = r ∨ ∃ slot, Overdue r request slot := by
  fun_cases reconnectPlayer r request with
  | case1 | case2 | case3 | case4 | case5 => exact fun _ => .inl rfl
  | case6 hopen slot hfound edit runnerHandoff acceptedEpoch htoken hawaited hepoch hlate =>
    refine fun _ => .inr ⟨slot, hopen, hfound, not_not.mp htoken, ?_, ?_, ?_⟩
    · by_cases hhandoff : slot.runnerHandoffDeadline.isSome
      · exact .inl hhandoff
      · right
        simpa [runnerHandoff, hhandoff, Option.isSome_iff_ne_none] using hawaited
    · by_cases hcurrent : request.roomEpoch = r.roomEpoch
      · exact .inr hcurrent
      · exact .inl (not_not.mp fun hother => hepoch ⟨hother, hcurrent⟩)
    · rwa [Bool.or_eq_true] at hlate
  | case7 => exact fun hrefused => absurd hrefused (by simp [Except.isOk, Except.toBool])

/-- Nothing but the seats of absent players changes. -/
structure Undisturbed (r r' : NetplayRoom) : Prop where
  /-- Every seat with a live control connection is as it was. -/
  seats : List.Forall₂ (fun slot slot' => slot.isConnected → slot' = slot) r.players r'.players
  /-- Epochs, status, sync state and everything else besides the seats are as they were. -/
  session : r' = { r with players := r'.players }

/-- The seat shows its player as expired. -/
def ShownExpired (slot : PlayerSlot) : Prop :=
  slot.status = .recoveryExpired ∧ slot.runtimeState = .recoveryExpired

theorem enter_eq_self_iff :
    slot.enter .recoveryExpired .recoveryExpired = slot ↔ ShownExpired slot := by
  constructor
  · intro h
    rw [← h]
    exact ⟨rfl, rfl⟩
  · rintro ⟨hstatus, hruntime⟩
    rw [PlayerSlot.enter, ← hstatus, ← hruntime]

theorem markExpired_undisturbed_iff (hfound : r.slotForPlayer request.playerIndex = some slot) :
    Undisturbed r (markExpired r request) ↔ (slot.isConnected → ShownExpired slot) := by
  constructor
  · intro h hconnected
    exact enter_eq_self_iff.mp (rel_of_forall₂_updateFirst hfound h.seats hconnected)
  intro h
  refine ⟨forall₂_updateFirst (fun _ _ => rfl) fun found hfound' hconnected => ?_, rfl⟩
  obtain rfl := Option.some.inj (hfound.symm.trans hfound')
  exact enter_eq_self_iff.mpr (h hconnected)

/-- **When a refused request disturbs nobody.** -/
theorem refused_reconnect_undisturbed_iff (r : NetplayRoom) (request : PlayerReconnectRequest)
    (hrefused : (r.reconnectPlayer request).1.isOk = false) :
    Undisturbed r (r.reconnectPlayer request).2
      ↔ ∀ slot, Overdue r request slot → slot.isConnected → ShownExpired slot := by
  by_cases hoverdue : ∃ slot, Overdue r request slot
  · obtain ⟨slot, hslot⟩ := hoverdue
    rw [reconnectPlayer_overdue hslot, markExpired_undisturbed_iff hslot.found]
    refine ⟨fun h slot' hslot' => ?_, fun h => h slot hslot⟩
    obtain rfl := Option.some.inj (hslot.found.symm.trans hslot'.found)
    exact h
  · have hsame := (reconnectPlayer_refused r request hrefused).resolve_right hoverdue
    rw [hsame]
    refine iff_of_true ⟨List.forall₂_same.mpr fun _ _ _ => rfl, rfl⟩ fun slot hslot => ?_
    exact absurd ⟨slot, hslot⟩ hoverdue

/-- The guest claims its seat for a runner, at a given time. -/
def runnerClaim (now : Instant) : PlayerReconnectRequest :=
  ⟨.two, "gr".toList, "gr2".toList, "gi2".toList, 2, ⟨5⟩, now, ⟨true, true, false, false, true⟩⟩

/-- The guest left and did not come back in time: the late request disturbs nobody. -/
theorem late_return_undisturbed :
    let left := after sampleRelay playingRoom [.disconnect guestSocket 0]
    (left.room.reconnectPlayer (runnerClaim (secs 600))).1.isOk = false
      ∧ Undisturbed left.room (left.room.reconnectPlayer (runnerClaim (secs 600))).2 := by
  intro left
  have hfacts : (left.room.reconnectPlayer (runnerClaim (secs 600))).1.isOk = false
      ∧ ∃ slot ∈ left.room.slotForPlayer .two, slot.isConnected = false := by
    decide +kernel
  obtain ⟨hrefused, absent, hfound, habsent⟩ := hfacts
  refine ⟨hrefused,
    (refused_reconnect_undisturbed_iff _ _ hrefused).mpr fun slot hslot hconnected => ?_⟩
  obtain rfl := Option.some.inj (hfound.symm.trans hslot.found)
  exact absurd hconnected (by simp [habsent])

/-- The guest plays on while its handoff runs out, and a late claim marks it as expired. -/
theorem late_claim_marks_player :
    let claim := handoffRoom.room.reconnectPlayer (runnerClaim (secs 600))
    Reachable sampleRelay handoffRoom ∧ claim.1.isOk = false
      ∧ (∃ slot ∈ handoffRoom.room.slotForPlayer .two,
        slot.connectionId = some guestSocket ∧ slot.status = .playing)
      ∧ ∃ slot ∈ claim.2.slotForPlayer .two,
        slot.connectionId = some guestSocket ∧ slot.status = .recoveryExpired := by
  refine ⟨handoffRoom_reachable, ?_⟩
  decide +kernel

end NetplayRelay.Proof
