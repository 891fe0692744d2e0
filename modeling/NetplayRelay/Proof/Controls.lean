import NetplayRelay.Proof.Waiting

/-!
# The control socket of a seat

Three kinds of data name a control socket beside the slot that holds it: what its player reported,
the transfers it takes part in, and the tokens issued to it. What becomes of such data is a question
about the calls that put another control socket on a seat. Most calls do not: `controlOf` stays as
it is unless somebody takes a seat or leaves one.
-/

namespace NetplayRelay.Proof

open Lib Protocol Rooms Registry NetplayRoom

variable {relay : Relay} {r r' r'' : NetplayRoom} {p : PlayerIndex}

/-- The control socket through which player `p` is connected. -/
def controlOf (r : NetplayRoom) (p : PlayerIndex) : Option ConnectionId :=
  (r.slotForPlayer p).bind (·.connectionId)

/-- The seat of `p` has the same control socket as before; the other seats do not matter. -/
theorem controlOf_eq (h : List.Forall₂ (fun slot slot' : PlayerSlot =>
      slot'.playerIndex = slot.playerIndex
        ∧ (slot.playerIndex = p → slot'.connectionId = slot.connectionId)) r.players r'.players) :
    controlOf r' p = controlOf r p := by
  unfold controlOf slotForPlayer
  generalize r.players = ps, r'.players = ps' at h
  induction h with
  | nil => rfl
  | @cons slot slot' _ _ hs _ ih =>
    rw [List.find?_cons, List.find?_cons, hs.1]
    by_cases hp : slot.playerIndex = p
    · rw [decide_eq_true hp]
      exact hs.2 hp
    · rw [decide_eq_false hp]
      exact ih

/-- Nobody who is connected loses the seat. -/
theorem isSome_controlOf (h : List.Forall₂ (fun slot slot' : PlayerSlot =>
      slot'.playerIndex = slot.playerIndex
        ∧ (slot.connectionId.isSome → slot'.connectionId.isSome)) r.players r'.players)
    (hp : (controlOf r p).isSome) : (controlOf r' p).isSome := by
  unfold controlOf slotForPlayer at *
  generalize r.players = ps, r'.players = ps' at h hp
  induction h with
  | nil => exact hp
  | @cons slot slot' _ _ hs _ ih =>
    rw [List.find?_cons] at hp ⊢
    rw [hs.1]
    by_cases hindex : slot.playerIndex = p
    · rw [decide_eq_true hindex] at hp ⊢
      exact hs.2 hp
    · rw [decide_eq_false hindex] at hp ⊢
      exact ih hp

theorem controlOf_keeps (h : List.Forall₂ Keeps r.players r'.players) (p : PlayerIndex) :
    controlOf r' p = controlOf r p :=
  controlOf_eq (h.imp fun _ _ hs => ⟨hs.playerIndex, fun _ => hs.connectionId⟩)

/-- Giving up a seat that nobody sits on takes no control socket away. -/
theorem controlOf_clears (h : List.Forall₂ Clears r.players r'.players) (p : PlayerIndex) :
    controlOf r' p = controlOf r p := by
  refine controlOf_eq (h.imp fun slot slot' hs => ?_)
  rcases hs with hs | ⟨_, _, hs⟩
  · exact ⟨hs.playerIndex, fun _ => hs.connectionId⟩
  · exact ⟨congrArg Seat.playerIndex hs, fun _ => congrArg Seat.connectionId hs⟩

theorem controlOf_updateSlot {test : PlayerSlot → Bool} {edit : PlayerSlot → PlayerSlot}
    {slot : PlayerSlot} (hslot : r.players.find? test = some slot)
    (hindex : (edit slot).playerIndex = slot.playerIndex)
    (hcontrol : slot.playerIndex = p → (edit slot).connectionId = slot.connectionId) :
    controlOf (r.updateSlot test edit) p = controlOf r p := by
  refine controlOf_eq (forall₂_updateFirst (fun _ => ⟨rfl, fun _ => rfl⟩) fun slot' hslot' => ?_)
  obtain rfl := Option.some.inj (hslot.symm.trans hslot')
  exact ⟨hindex, hcontrol⟩

theorem controlOf_detachInputSocket (r : NetplayRoom) (c : ConnectionId) (q p : PlayerIndex)
    (now : Instant) : controlOf (r.detachInputSocket c q now) p = controlOf r p :=
  controlOf_eq (forall₂_updateFirst (fun _ => ⟨rfl, fun _ => rfl⟩) fun _ _ => ⟨rfl, fun _ => rfl⟩)

/-- A call on a control socket is made by the player whose seat has it. -/
theorem Seats.controlOf {c : ConnectionId} (h : Seats r)
    (hp : r.playerIndexForConnection c = some p) : controlOf r p = some c := by
  obtain ⟨slot, hslot, rfl⟩ := Option.map_eq_some_iff.mp hp
  rw [Proof.controlOf, h.slotForPlayer (List.mem_of_find?_eq_some hslot), Option.bind_some]
  simpa using List.find?_some hslot

/-- Nobody changes sockets by talking. -/
theorem SeatChange.stays {op : RoomOp} (h : SeatChange r op r') (hattaches : attaches op = none)
    (hleaves : leaves op = false) : List.Forall₂ Keeps r.players r'.players := by
  cases h with
  | kept h => exact h
  | attached hnew => exact absurd (hattaches.symm.trans hnew) (by simp)
  | yielded h | dropped h => exact absurd (hleaves.symm.trans h) (by simp)

end NetplayRelay.Proof
