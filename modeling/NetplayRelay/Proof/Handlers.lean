import NetplayRelay.Proof.EpochRuns

/-!
# Messages and the epochs they were sent in

A message that is checked against the epochs should change the room only on those epochs. The
handler breaks this in two ways. A stale message that could be answered with an error goes on to
its call all the same. And a message that passed the check waits for the second lock while other
calls may raise an epoch.

Where neither happens, every message that reaches its call carries the epochs of the room it finds.
-/

namespace NetplayRelay.Proof

open Lib Protocol Rooms Registry Transport

variable {relay : Relay} {r r' : NetplayRoom}

/-! ## Messages between the check and the call -/

def namesEpochs (r : NetplayRoom) (message : ClientMessage) : Bool :=
  (guardedEpochs message).all fun epochs => epochs = (r.roomEpoch, r.sessionEpoch)

/-- What breaks the promise of the check: a stale message goes on because its error could be
delivered, or an epoch may be raised while a message waits for its call. -/
def breaksCheck (s : Handlers) : HandlerEvent → Bool
  | .receive _ message delivered => delivered && !namesEpochs s.stored.room message
  | .apply c around => ((s.waiting.lookup c).bind (registryCall c around)).any
      (mayRaiseEpochs s.stored.room) && s.waiting.keys.any (· ≠ c)
  | .call op => mayRaiseEpochs s.stored.room op && !s.waiting.keys.isEmpty

/-- Every message that waits for its call names the epochs of the room. -/
def Current (s : Handlers) : Prop :=
  ∀ c message, s.waiting.lookup c = some message → namesEpochs s.stored.room message

theorem namesEpochs_of_same (h : SameEpochs r r') (message : ClientMessage) :
    namesEpochs r' message = namesEpochs r message := by
  unfold namesEpochs
  rw [h.1, h.2]

/-- A task goes on with its message, or stays where it is. -/
theorem receive_cases (s : Handlers) (c : ConnectionId) (message : ClientMessage)
    (delivered : Bool) :
    s.receive c message delivered = s
      ∨ (delivered ∨ namesEpochs s.stored.room message)
        ∧ s.receive c message delivered = { s with waiting := s.waiting.insert c message } := by
  unfold Handlers.receive namesEpochs
  dsimp only
  split
  · exact .inl rfl
  cases hepochs : guardedEpochs message with
  | none => exact .inr ⟨.inr rfl, rfl⟩
  | some epochs =>
    dsimp only
    split
    · rename_i hvalid
      exact .inr ⟨.inr (by simpa using validateEpochs_ok hvalid), rfl⟩
    split
    · rename_i hdelivered
      exact .inr ⟨.inl hdelivered, rfl⟩
    · exact .inl rfl

/-- What waits after a call still names the epochs, unless the call raised them. -/
theorem Current.called {s : Handlers} {stored : StoredRoom} {op : RoomOp}
    {waiting : AList fun _ : ConnectionId => ClientMessage} (h : Current s)
    (hstep : s.stored.step relay op = some stored)
    (hquiet : mayRaiseEpochs s.stored.room op = false ∨ waiting.keys = [])
    (hwaiting : ∀ c message, waiting.lookup c = some message → s.waiting.lookup c = some message) :
    Current ⟨stored, waiting⟩ := by
  intro c message hmessage
  rcases hquiet with hquiet | hnone
  · have hepochs := (effect_epochs (applyOp_effect relay s.stored.room op)).same hquiet
    rw [← step_room hstep] at hepochs
    rw [namesEpochs_of_same hepochs]
    exact h c message (hwaiting c message hmessage)
  · have hmem : c ∈ waiting := AList.lookup_isSome.mp (by rw [hmessage]; rfl)
    rw [AList.mem_keys, hnone] at hmem
    exact absurd hmem (by simp)

theorem current_step {s t : Handlers} {event : HandlerEvent} (h : Current s)
    (hguard : breaksCheck s event = false) (hstep : s.step relay event = some t) : Current t := by
  cases event with
  | receive c message delivered =>
    obtain rfl := Option.some.inj hstep
    rcases receive_cases s c message delivered with hsame | ⟨hcurrent, hnext⟩
    · rw [hsame]
      exact h
    rw [hnext]
    intro c' message' hmessage
    by_cases hc : c' = c
    · have hsame : message' = message := by
        rw [hc, AList.lookup_insert] at hmessage
        exact (Option.some.inj hmessage).symm
      rcases hcurrent with hdelivered | hcurrent
      · simpa [breaksCheck, hdelivered, hsame] using hguard
      · rw [hsame]
        exact hcurrent
    · rw [AList.lookup_insert_ne hc] at hmessage
      exact h c' message' hmessage
  | apply c around =>
    have herase : ∀ c' message, (s.waiting.erase c).lookup c' = some message →
        s.waiting.lookup c' = some message := by
      intro c' message hmessage
      by_cases hc : c' = c
      · rw [hc, AList.lookup_erase] at hmessage
        exact absurd hmessage (by simp)
      · rwa [AList.lookup_erase_ne hc] at hmessage
    rw [Handlers.step] at hstep
    cases hcall : (s.waiting.lookup c).bind (registryCall c around) with
    | none =>
      rw [hcall] at hstep
      obtain rfl := Option.some.inj hstep
      exact fun c' message hmessage => h c' message (herase c' message hmessage)
    | some op =>
      rw [hcall] at hstep
      obtain ⟨stored, hstored, rfl⟩ := Option.map_eq_some_iff.mp hstep
      refine h.called hstored ?_ herase
      rw [breaksCheck, hcall, Option.any_some, Bool.and_eq_false_iff] at hguard
      refine hguard.imp_right fun hothers => ?_
      rw [AList.keys_erase, List.eq_nil_iff_forall_not_mem]
      intro c' hc'
      have hother := List.any_eq_false.mp hothers c' (List.mem_of_mem_erase hc')
      have hsame : c' = c := by simpa using hother
      rw [hsame] at hc'
      exact absurd hc' (List.Nodup.not_mem_erase s.waiting.keys_nodup)
  | call op =>
    obtain ⟨stored, hstored, rfl⟩ := Option.map_eq_some_iff.mp hstep
    refine h.called hstored ?_ fun _ _ => id
    rw [breaksCheck, Bool.and_eq_false_iff] at hguard
    exact hguard.imp_right fun hnone => by simpa using hnone

/-- **Only messages of the current epochs change the room.** In a run in which no stale message is
carried on behind its error and no epoch may be raised while a message waits, whatever a guarded
message changes it changes on its own epochs. A message of other epochs leaves the room as it
was. -/
theorem messages_onTheirEpochs {s : Handlers} {events : List HandlerEvent} (hidle : s.waiting = ∅)
    (hguarded : Guarded (Handlers.step relay) (fun s event => breaksCheck s event = false)
      s events) :
    ∀ visit ∈ visits (Handlers.step relay) s events, ∀ c around message roomEpoch sessionEpoch op,
      visit.2 = .apply c around → visit.1.waiting.lookup c = some message →
      guardedEpochs message = some (roomEpoch, sessionEpoch) →
      registryCall c around message = some op →
      (applyOp relay visit.1.stored.room op ≠ visit.1.stored.room →
          roomEpoch = visit.1.stored.room.roomEpoch
            ∧ sessionEpoch = visit.1.stored.room.sessionEpoch)
        ∧ (roomEpoch ≠ visit.1.stored.room.roomEpoch
            ∨ sessionEpoch ≠ visit.1.stored.room.sessionEpoch →
          applyOp relay visit.1.stored.room op = visit.1.stored.room) := by
  intro visit hvisit c around message roomEpoch sessionEpoch op _ hmessage hepochs _
  have hbegin : Current s := by
    intro c message hmessage
    rw [hidle] at hmessage
    exact absurd hmessage (by simp)
  have hcurrent := (forall_visits (fun _ _ _ => current_step) hguarded hbegin visit hvisit).1
  have hnames := hcurrent c message hmessage
  rw [namesEpochs, hepochs, Option.all_some, decide_eq_true_eq, Prod.mk.injEq] at hnames
  refine ⟨fun _ => hnames, fun hdiffer => ?_⟩
  rcases hdiffer with h | h
  · exact absurd hnames.1 h
  · exact absurd hnames.2 h

def calmSurroundings : Surroundings := ⟨1, .stored, none, none, none⟩

/-- A guest that leaves the running session on its epochs closes the room. -/
theorem messages_onTheirEpochs_exit :
    applyOp sampleRelay playingRoom.room (.playerExited guestSocket 1) ≠ playingRoom.room
      ∧ 2 = playingRoom.room.roomEpoch ∧ 2 = playingRoom.room.sessionEpoch := by
  have hfacts : Guarded (Handlers.step sampleRelay) (fun s event => breaksCheck s event = false)
        ⟨playingRoom, ∅⟩ [.receive guestSocket (.playerExited 2 2) true,
          .apply guestSocket calmSurroundings]
      ∧ (applyOp sampleRelay playingRoom.room (.playerExited guestSocket 1)).status
        ≠ playingRoom.room.status := by
    decide +kernel
  have hchanged : applyOp sampleRelay playingRoom.room (.playerExited guestSocket 1)
      ≠ playingRoom.room := fun h => hfacts.2 (congrArg (·.status) h)
  have hreceived : Handlers.receive ⟨playingRoom, ∅⟩ guestSocket (.playerExited 2 2) true
      = ⟨playingRoom, (∅ : AList _).insert guestSocket (.playerExited 2 2)⟩ := by
    simp only [Handlers.receive, AList.lookup_empty, Option.isSome_none, Bool.false_eq_true,
      if_false, guardedEpochs, if_true]
    split <;> rfl
  have hvisit := messages_onTheirEpochs rfl hfacts.1
    (⟨playingRoom, (∅ : AList _).insert guestSocket (.playerExited 2 2)⟩,
      .apply guestSocket calmSurroundings)
    (by rw [← hreceived]; exact List.mem_cons_of_mem _ List.mem_cons_self)
    guestSocket calmSurroundings (.playerExited 2 2) 2 2 (.playerExited guestSocket 1) rfl
    (AList.lookup_insert _) rfl rfl
  exact ⟨hchanged, hvisit.1 hchanged⟩

def roomState (s : Handlers) : Nat × Nat × RoomStatus :=
  (s.stored.room.roomEpoch, s.stored.room.sessionEpoch, s.stored.room.status)

/-- An exit that names epochs the room never had closes it; so does one that was current when it was
checked, after the other player's loss has raised both epochs. -/
theorem staleMessage_changesRoom :
    let s : Handlers := ⟨playingRoom, ∅⟩
    Reachable sampleRelay playingRoom
      ∧ (run (Handlers.step sampleRelay) s [.receive guestSocket (.playerExited 0 0) true,
          .apply guestSocket calmSurroundings]).map roomState
        = some (2, 2, .closed)
      ∧ (run (Handlers.step sampleRelay) s [.receive guestSocket (.playerExited 2 2) true,
          .call (.disconnect hostSocket 1)]).map roomState
        = some (3, 3, .recovering)
      ∧ (run (Handlers.step sampleRelay) s [.receive guestSocket (.playerExited 2 2) true,
          .call (.disconnect hostSocket 1), .apply guestSocket calmSurroundings]).map roomState
        = some (3, 3, .closed) :=
  ⟨playingRoom_reachable, by decide +kernel⟩

end NetplayRelay.Proof
