import NetplayRelay.Proof.Effects

/-!
# What a call does to the side data

The transfers, the link reports and the state hashes of a room are kept beside its session. A call
that is about one of them works on that one; every other call leaves them all as they are, or starts
the session over and with it all of them. A resumed pause is in between: it forgets the snapshot and
the hashes and keeps the rest.
-/

namespace NetplayRelay.Proof

open Lib Protocol Rooms Registry

/-- The kinds of calls that may start a session over. -/
def mayStartOver : RoomOp → Bool
  | .joinGuest .. | .reconnectPlayer .. | .playerExited .. | .disconnect ..
  | .disconnectInputSocket .. | .sweep .. | .recordStateHash .. | .pinStateRecovery .. => true
  | _ => false

/-- What a call does to the side data. -/
inductive SideStep (r : NetplayRoom) : RoomOp → NetplayRoom → Prop
  | aside {op} {r' : NetplayRoom} (h : Aside r op r') : SideStep r op r'
  | fresh {op} {r' : NetplayRoom} {frame} (h : sideData r' = .fresh frame)
      (hop : mayStartOver op := by rfl) : SideStep r op r'
  | resumed {op} {r' : NetplayRoom} {frame} (h : sideData r' = { sideData r with
        snapshotFileRelayTransfer := none
        stateHashes := ∅
        nextAuthoritativeStateHashFrame := nextAuthoritativeCheckpointAtOrAfter frame }) :
      SideStep r op r'
  -- a fingerprint that does not fit ends both transfers
  | rejected {op} {r' : NetplayRoom} (h : sideData r' = { sideData r with
        snapshotFileRelayTransfer := none
        romRelayTransfer := none }) : SideStep r op r'
  | linked {order c report} {r' : NetplayRoom} {links}
      (h : sideData r' = { sideData r with linkCable := links }) :
      SideStep r (.setLinkCableCompatibility order c report) r'

variable {relay : Relay} {r r' : NetplayRoom}

theorem controlLoss_side {c : ConnectionId} {now : Instant} {grace : Duration}
    (h : ControlLoss r c now grace r') : sideData r' = sideData r ∨ sideData r' = .fresh 0 := by
  cases h with
  | unknown _ _ hside => exact .inl hside
  | alsoLost _ _ _ _ _ hside => exact .inl hside
  | _ => exact .inr rfl

/-- **Every call does one of these to the side data.** -/
theorem effect_side {op : RoomOp} (h : Effect relay r op r') : SideStep r op r' := by
  cases h with
  | bookkeeping _ haside => exact .aside haside
  | controlLost hloss | inputAndControlLost _ _ _ hloss =>
    rcases controlLoss_side hloss with hside | hside
    · exact .aside (.kept hside)
    · exact .fresh hside
  | handoffsLapsed _ _ hside => exact .fresh hside
  | heartbeatsStopped _ hdropped => exact .fresh hdropped.side
  | joined | reconnected | exited => exact .fresh (show sideData _ = .fresh 0 from rfl)
  | resynced | pinned => exact .fresh rfl
  | fingerprintRejected => exact .rejected rfl
  | linkRejected | linkStored | linksDiffer | linksAgree => exact .linked rfl
  | becameReady _ hready => exact .aside (.kept hready.side)
  | startedNow _ _ _ _ _ _ hside | startFixedBySample _ _ _ _ _ hside
  | startFixedByVote _ _ _ _ _ _ hside => exact .aside (.kept hside)
  | restartedByLast | restarted => exact .resumed rfl
  | legacyInput hinput => exact .aside (.kept hinput.side)
  | legacyTick _ htick => exact .aside (.kept htick.side)
  | @recoveryPrepared _ _ _ _ r₁ mismatch _ _ _ _ _ _ hside =>
    refine .aside (.hashNoted ?_)
    exact congrArg (fun side : SideData => { side with
      nextAuthoritativeStateHashFrame :=
        nextAuthoritativeCheckpointAfter mismatch.repairFrame }) hside
  | @recoveryLimited _ _ _ _ r₁ mismatch _ _ _ _ _ _ hside =>
    refine .aside (.hashNoted ?_)
    exact congrArg (fun side : SideData => { side with
      nextAuthoritativeStateHashFrame := r₁.nextAuthoritativeStateHashFrame }) hside
  | _ => exact .aside (.kept rfl)

end NetplayRelay.Proof
