import NetplayRelay.Proof.LegacyFrames
import Mathlib.Data.List.Induction
import Mathlib.Data.List.Perm.Basic

/-!
# Legacy input is published when its frame is released

The clock of a legacy session releases one frame after the other. Input that comes in for a frame
that has been released goes out at once; all other input waits, and the tick that releases its frame
sends it out. So what waits under a frame is exactly what has been accepted for it so far, as long
as the frame has not been released, and nothing afterwards: this is the invariant, and from it
follows that every accepted frame is published once, at the first moment the clock allows.

The release cursor saturates. At the last frame of the counter the clock stands still and releases
that frame again on every tick, so the result is about runs in which no tick finds the cursor there.
-/

namespace NetplayRelay.Proof

open Lib Protocol Rooms Registry

/-! ## What goes in and out -/

/-- An input frame and the socket it came in on. -/
abbrev Sent := ConnectionId × InputFrame

def fastInput (frame : FastInputFrame) : InputFrame :=
  ⟨frame.playerIndex, frame.frame, frame.payload⟩

/-- The input an event carries. -/
def carried : LegacyInputEvent → List Sent
  | .inputFrameBatch source batch => batch.frames.map fun input => (source, input)
  | .fastInputFrame source frame => [(source, fastInput frame)]
  | .serverFrame _ => []

def published (events : List LegacyInputEvent) : List Sent := events.flatMap carried

/-- The frames that are released. -/
def releases (events : List LegacyInputEvent) : List Nat :=
  events.filterMap fun
    | .serverFrame frame => some frame.frame
    | _ => none

/-- The input that a call accepts for relay. -/
def acceptedBy (relay : Relay) (lane : LegacyLane) (call : LegacyCall) : List Sent :=
  match call, (lane.step relay call).result with
  | .inputFrame c input, .ok acceptances =>
    (relayed ([input].zip acceptances)).map fun input => (c, input)
  | .inputFrameBatch c batch, .ok acceptances =>
    (relayed (batch.frames.zip acceptances)).map fun input => (c, input)
  | .fastInputBatch c batch, .ok acceptances =>
    (relayed (batch.frames.zip acceptances)).map fun frame => (c, fastInput frame)
  | _, _ => []

section

variable (relay : Relay) (lane : LegacyLane)

def nextLane (call : LegacyCall) : LegacyLane := (lane.step relay call).lane

def laneAfter (calls : List LegacyCall) : LegacyLane := calls.foldl (nextLane relay) lane

/-- What a run yields, call by call. -/
def gathered {β : Type} (f : LegacyLane → LegacyCall → List β) (calls : List LegacyCall) : List β :=
  (visits (fun lane call => some (nextLane relay lane call)) lane calls).flatMap fun visit =>
    f visit.1 visit.2

def acceptedOver : List LegacyCall → List Sent := gathered relay lane (acceptedBy relay)

def publishedOver : List LegacyCall → List Sent :=
  gathered relay lane fun lane call => published (lane.step relay call).events

def releasedOver : List LegacyCall → List Nat :=
  gathered relay lane fun lane call => releases (lane.step relay call).events

end

variable {relay : Relay} {lane lane' : LegacyLane} {r : NetplayRoom} {call : LegacyCall}

theorem laneAfter_concat (calls : List LegacyCall) (call : LegacyCall) :
    laneAfter relay lane (calls ++ [call]) = nextLane relay (laneAfter relay lane calls) call := by
  rw [laneAfter, List.foldl_append]
  rfl

theorem gathered_concat {β : Type} (f : LegacyLane → LegacyCall → List β) (calls : List LegacyCall)
    (call : LegacyCall) : gathered relay lane f (calls ++ [call])
      = gathered relay lane f calls ++ f (laneAfter relay lane calls) call := by
  have hrun : run (fun lane call => some (nextLane relay lane call)) lane calls
      = some (laneAfter relay lane calls) := run_some _ _ _
  rw [gathered, visits_concat hrun, List.flatMap_append]
  simp [gathered]

theorem published_append (events events' : List LegacyInputEvent) :
    published (events ++ events') = published events ++ published events' :=
  List.flatMap_append

theorem releases_append (events events' : List LegacyInputEvent) :
    releases (events ++ events') = releases events ++ releases events' :=
  List.filterMap_append

/-! ## What waits -/

/-- What the next call of the lane finds waiting under a frame: buffers of other epochs are emptied
before anything else happens. -/
def waiting (lane : LegacyLane) (frame : Nat) : List BufferedInputFrame :=
  lane.synchronizeInputRuntimeEpoch.inputRelayBuffer.held frame

def waitingFast (lane : LegacyLane) (frame : Nat) : List BufferedFastInputFrame :=
  lane.synchronizeInputRuntimeEpoch.fastInputRelayBuffer.held frame

/-- The lane is on the room's epochs. -/
def Synchronized (lane : LegacyLane) : Prop :=
  lane.relayRoomEpoch = lane.room.roomEpoch ∧ lane.relaySessionEpoch = lane.room.sessionEpoch

theorem Synchronized.eq (h : Synchronized lane) : lane.synchronizeInputRuntimeEpoch = lane :=
  if_pos h

theorem synchronized_synchronize (lane : LegacyLane) :
    Synchronized lane.synchronizeInputRuntimeEpoch := by
  unfold LegacyLane.synchronizeInputRuntimeEpoch
  split
  · rename_i h
    exact h
  · exact ⟨rfl, rfl⟩

theorem synchronize_room (lane : LegacyLane) :
    lane.synchronizeInputRuntimeEpoch.room = lane.room := by
  unfold LegacyLane.synchronizeInputRuntimeEpoch
  split <;> rfl

/-- The entry under which accepted input waits. -/
def entryOf (r : NetplayRoom) (sent : Sent) : BufferedInputFrame :=
  ⟨r.roomEpoch, r.sessionEpoch, sent.1, sent.2⟩

theorem hasReleased_congr (h : lane'.room = lane.room) (frame : Nat) :
    lane'.hasReleased frame = lane.hasReleased frame := by
  rw [LegacyLane.hasReleased, LegacyLane.hasReleased, h]

/-- The room changed, its epochs did not: what waits is as before. -/
theorem waiting_room (lane : LegacyLane) (hroom : r.roomEpoch = lane.room.roomEpoch)
    (hsession : r.sessionEpoch = lane.room.sessionEpoch) (frame : Nat) :
    waiting { lane with room := r } frame = waiting lane frame
      ∧ waitingFast { lane with room := r } frame = waitingFast lane frame := by
  unfold waiting waitingFast LegacyLane.synchronizeInputRuntimeEpoch
  dsimp only
  rw [hroom, hsession]
  split <;> exact ⟨rfl, rfl⟩

/-- The frames of a message from `source` have been passed on: those that were released are
published, the others wait. -/
structure PassedOn (source : ConnectionId) (lane : LegacyLane) (inputs : List InputFrame)
    (outcome : List LegacyInputEvent × LegacyLane) : Prop where
  room : outcome.2.room = lane.room
  published : published outcome.1
    = (inputs.filter fun input => lane.hasReleased input.frame).map fun input => (source, input)
  releases : releases outcome.1 = []
  waiting : ∀ frame, waiting outcome.2 frame = waiting lane frame
    ++ (inputs.filter fun input => !lane.hasReleased input.frame && input.frame = frame).map
      fun input => entryOf lane.room (source, input)
  fast : ∀ frame, waitingFast outcome.2 frame = waitingFast lane frame

theorem relayAcceptedInputFrame_passedOn (source : ConnectionId) (input : InputFrame) :
    PassedOn source lane [input] (lane.relayAcceptedInputFrame source input) := by
  have hsync := synchronized_synchronize lane
  have hroom := synchronize_room lane
  unfold LegacyLane.relayAcceptedInputFrame
  dsimp only
  have hreleased := hasReleased_congr hroom input.frame
  by_cases h : lane.hasReleased input.frame
  · rw [if_pos (hreleased.trans h)]
    refine ⟨hroom, by simp [published, carried, h], rfl, fun frame => ?_, fun frame => ?_⟩
    · simp [waiting, hsync.eq, h]
    · simp [waitingFast, hsync.eq]
  · rw [if_neg (by simp [hreleased, h])]
    have hkept : Synchronized { lane.synchronizeInputRuntimeEpoch with
        inputRelayBuffer := lane.synchronizeInputRuntimeEpoch.inputRelayBuffer.push source
          lane.synchronizeInputRuntimeEpoch.room.roomEpoch
          lane.synchronizeInputRuntimeEpoch.room.sessionEpoch input } := hsync
    refine ⟨hroom, by simp [published, h], rfl, fun frame => ?_, fun frame => ?_⟩
    · rw [waiting, hkept.eq]
      dsimp only
      rw [InputFrameRelayBuffer.push, Buffer.held_add, waiting, hroom]
      by_cases hframe : frame = input.frame
      · simp [hframe, h, entryOf]
      · simp [hframe, h, Ne.symm hframe]
    · rw [waitingFast, hkept.eq]
      rfl

/-- The loop over a message relays what is to be relayed, one after the other. -/
theorem relayAccepted_rec {α : Type}
    {relayOne : LegacyLane → α → List LegacyInputEvent × LegacyLane}
    {motive : LegacyLane → List α → List LegacyInputEvent × LegacyLane → Prop}
    (hnil : ∀ lane, motive lane [] ([], lane))
    (hcons : ∀ lane input inputs outcome, motive (relayOne lane input).2 inputs outcome →
      motive lane (input :: inputs) ((relayOne lane input).1 ++ outcome.1, outcome.2)) :
    ∀ (answered : List (α × InputFrameAcceptance)) (lane : LegacyLane),
      motive lane (relayed answered) (LegacyLane.relayAccepted relayOne lane answered) := by
  intro answered
  induction answered with
  | nil => exact hnil
  | cons entry answered ih =>
    intro lane
    obtain ⟨input, acceptance⟩ := entry
    cases acceptance with
    | ignore =>
      have hrelayed : relayed ((input, .ignore) :: answered) = relayed answered := by
        simp [relayed]
      rw [hrelayed, LegacyLane.relayAccepted]
      exact ih lane
    | relay =>
      have hrelayed : relayed ((input, .relay) :: answered) = input :: relayed answered := by
        simp [relayed]
      rw [hrelayed, LegacyLane.relayAccepted]
      exact hcons lane input _ _ (ih _)

theorem relayAccepted_passedOn (source : ConnectionId) :
    ∀ (answered : List (InputFrame × InputFrameAcceptance)) (lane : LegacyLane),
      PassedOn source lane (relayed answered) (LegacyLane.relayAccepted
        (fun lane => lane.relayAcceptedInputFrame source) lane answered) := by
  refine relayAccepted_rec (fun lane => ?_) fun lane input inputs outcome hrest => ?_
  · exact ⟨rfl, rfl, rfl, fun frame => by simp, fun _ => rfl⟩
  have hone := @relayAcceptedInputFrame_passedOn lane source input
  have hreleased := hasReleased_congr hone.room
  refine ⟨hrest.room.trans hone.room, ?_, ?_, fun frame => ?_, fun frame => ?_⟩
  · rw [published_append, hone.published, hrest.published, ← List.map_append]
    simp only [hreleased, ← List.filter_append, List.singleton_append]
  · rw [releases_append, hone.releases, hrest.releases]
    rfl
  · rw [hrest.waiting, hone.waiting, List.append_assoc, hone.room, ← List.map_append]
    simp only [hreleased, ← List.filter_append, List.singleton_append]
  · rw [hrest.fast, hone.fast]

/-! ## What a tick sends out -/

/-- What ready batches carry. -/
def batched (batches : List BufferedInputFrameBatch) : List Sent :=
  batches.flatMap fun ready => ready.batch.frames.map fun input => (ready.source, input)

theorem batched_joined {source : ConnectionId} {input : InputFrame}
    {isTheirs : BufferedInputFrameBatch → Bool}
    (htheirs : ∀ ready, isTheirs ready → ready.source = source) :
    ∀ batches : List BufferedInputFrameBatch, batches.any isTheirs →
      (batched (updateFirst isTheirs (fun existing => { existing with
        batch := { existing.batch with frames := existing.batch.frames ++ [input] } })
          batches)).Perm
        (batched batches ++ [(source, input)]) := by
  intro batches
  induction batches with
  | nil => exact fun h => absurd h (by simp)
  | cons ready batches ih =>
    intro hany
    rw [updateFirst]
    by_cases h : isTheirs ready = true
    · rw [if_pos h]
      simp only [batched, List.flatMap_cons, List.map_append, List.map_cons, List.map_nil,
        htheirs ready h, List.append_assoc]
      exact List.Perm.append_left _ List.perm_append_comm
    · rw [if_neg h]
      have hrest := ih (by simpa [h] using hany)
      simp only [batched, List.flatMap_cons, List.append_assoc]
      exact List.Perm.append_left _ hrest

theorem pushToBatch_perm (batches : List BufferedInputFrameBatch) (source : ConnectionId)
    (roomEpoch sessionEpoch : Nat) (input : InputFrame) :
    (batched (pushToBatch batches source roomEpoch sessionEpoch input)).Perm
      (batched batches ++ [(source, input)]) := by
  unfold pushToBatch
  dsimp only
  split
  · rename_i hany
    refine batched_joined (fun ready htheirs => ?_) batches hany
    simp only [Bool.and_eq_true, decide_eq_true_eq] at htheirs
    exact htheirs.1
  · simp [batched]

/-- What is drained on the epochs it came in on is all there. -/
theorem drained_perm {roomEpoch sessionEpoch : Nat} :
    ∀ (entries : List BufferedInputFrame) (batches : List BufferedInputFrameBatch),
      (∀ entry ∈ entries, entry.roomEpoch = roomEpoch ∧ entry.sessionEpoch = sessionEpoch) →
      (batched (entries.foldl (fun batches buffered =>
        if buffered.roomEpoch ≠ roomEpoch ∨ buffered.sessionEpoch ≠ sessionEpoch then batches
        else pushToBatch batches buffered.source roomEpoch sessionEpoch buffered.input)
          batches)).Perm
        (batched batches ++ entries.map fun entry => (entry.source, entry.input)) := by
  intro entries
  induction entries with
  | nil => exact fun batches _ => by simp
  | cons entry entries ih =>
    intro batches hcurrent
    obtain ⟨hroom, hsession⟩ := hcurrent entry List.mem_cons_self
    rw [List.foldl_cons, if_neg (by simp [hroom, hsession])]
    refine (ih _ fun other hother => hcurrent other (List.mem_cons_of_mem _ hother)).trans ?_
    refine ((pushToBatch_perm ..).append_right _).trans ?_
    rw [List.map_cons, List.append_assoc, List.singleton_append]

/-- A tick releases nothing, or the next frame with everything that waits for it. -/
inductive LaneTicked (lane : LegacyLane) : List LegacyInputEvent × LegacyLane → Prop
  | idle {lane' : LegacyLane} (hdata : frameData lane'.room = frameData lane.room)
      (hwaiting : ∀ frame, waiting lane' frame = waiting lane frame)
      (hfast : ∀ frame, waitingFast lane' frame = waitingFast lane frame) :
      LaneTicked lane ([], lane')
  | released {events : List LegacyInputEvent} {lane' : LegacyLane} {host : PlayerIndex}
      {newest : Nat}
      (hdata : frameData lane'.room = { frameData lane.room with
        releasedFrame := some lane.room.nextReleaseFrame
        nextReleaseFrame := satAdd u64Max lane.room.nextReleaseFrame 1 })
      (hreleases : releases events = [lane.room.nextReleaseFrame])
      (hpublished : (∀ entry ∈ waiting lane lane.room.nextReleaseFrame,
          entry.roomEpoch = lane.room.roomEpoch ∧ entry.sessionEpoch = lane.room.sessionEpoch) →
        waitingFast lane lane.room.nextReleaseFrame = [] →
        (published events).Perm
          ((waiting lane lane.room.nextReleaseFrame).map fun entry => (entry.source, entry.input)))
      (hwaiting : ∀ frame, waiting lane' frame
        = if frame = lane.room.nextReleaseFrame then [] else waiting lane frame)
      (hfast : ∀ frame, waitingFast lane' frame
        = if frame = lane.room.nextReleaseFrame then [] else waitingFast lane frame)
      (hhost : hostIndex lane.room = some host)
      (hnewest : lane.room.lastInputFrames.lookup host = some newest)
      (hle : lane.room.nextReleaseFrame ≤ newest) : LaneTicked lane (events, lane')

theorem published_batches (batches : List BufferedInputFrameBatch) :
    published (batches.map fun ready => .inputFrameBatch ready.source ready.batch)
      = batched batches := by
  rw [published, batched, List.flatMap_map]
  rfl

theorem releases_batches (batches : List BufferedInputFrameBatch)
    (records : List BufferedFastInputFrame) :
    releases (batches.map (fun ready => .inputFrameBatch ready.source ready.batch)
      ++ records.map fun ready => .fastInputFrame ready.source ready.frame) = [] := by
  simp [releases]

theorem emitNextServerFrame_synchronized (hsync : Synchronized lane) (serverTimeMs : Nat) :
    LaneTicked lane (lane.emitNextServerFrame serverTimeMs) := by
  have hticked := releaseNextServerFrame_ticked (r := lane.room) serverTimeMs
  unfold LegacyLane.emitNextServerFrame
  rw [hsync.eq]
  dsimp only
  generalize lane.room.releaseNextServerFrame serverTimeMs = outcome at hticked
  cases hticked with
  | @idle r' hdata =>
    have hkept : Synchronized { lane with room := r' } :=
      ⟨hsync.1.trans (congrArg (·.roomEpoch) hdata).symm,
        hsync.2.trans (congrArg (·.sessionEpoch) hdata).symm⟩
    refine .idle hdata (fun frame => ?_) (fun frame => ?_)
    · rw [waiting, waiting, hkept.eq, hsync.eq]
    · rw [waitingFast, waitingFast, hkept.eq, hsync.eq]
  | @released r' frame host newest hdata hframe hepochs hhost hnewest hle =>
    have hkept : Synchronized ⟨r', lane.relayRoomEpoch, lane.relaySessionEpoch,
        (lane.inputRelayBuffer.drainFrame frame.frame frame.roomEpoch frame.sessionEpoch).2,
        (lane.fastInputRelayBuffer.drainFrame frame.frame frame.roomEpoch
          frame.sessionEpoch).2⟩ :=
      ⟨hsync.1.trans (congrArg (·.roomEpoch) hdata).symm,
        hsync.2.trans (congrArg (·.sessionEpoch) hdata).symm⟩
    dsimp only
    refine .released hdata ?_ ?_ (fun other => ?_) (fun other => ?_) hhost hnewest hle
    · rw [releases_append, releases_batches, ← hframe]
      rfl
    · intro hcurrent hnone
      rw [waiting, hsync.eq] at hcurrent ⊢
      rw [waitingFast, hsync.eq] at hnone
      have hfast : (lane.fastInputRelayBuffer.drainFrame frame.frame frame.roomEpoch
          frame.sessionEpoch).1 = [] := by
        rw [FastInputRelayBuffer.drainFrame, hframe]
        simp [Buffer.takeOut, hnone]
      rw [hfast, published_append, published_append, published_batches, hframe, hepochs.1,
        hepochs.2]
      have hdrained := drained_perm _ [] hcurrent
      simpa [published, carried, batched, InputFrameRelayBuffer.drainFrame, Buffer.takeOut]
        using hdrained
    · rw [waiting, waiting, hkept.eq, hsync.eq, ← hframe]
      exact Buffer.held_takeOut ..
    · rw [waitingFast, waitingFast, hkept.eq, hsync.eq, ← hframe]
      exact Buffer.held_takeOut ..

theorem emitNextServerFrame_ticked (serverTimeMs : Nat) :
    LaneTicked lane (lane.emitNextServerFrame serverTimeMs) := by
  have hsync := synchronized_synchronize lane
  have hroom := synchronize_room lane
  have hwaiting :
      ∀ frame, waiting lane.synchronizeInputRuntimeEpoch frame = waiting lane frame := by
    intro frame
    rw [waiting, waiting, hsync.eq]
  have hfast : ∀ frame,
      waitingFast lane.synchronizeInputRuntimeEpoch frame = waitingFast lane frame := by
    intro frame
    rw [waitingFast, waitingFast, hsync.eq]
  have hemit : lane.emitNextServerFrame serverTimeMs
      = lane.synchronizeInputRuntimeEpoch.emitNextServerFrame serverTimeMs := by
    unfold LegacyLane.emitNextServerFrame
    rw [hsync.eq]
  have hticked := emitNextServerFrame_synchronized hsync serverTimeMs
  rw [← hemit] at hticked
  generalize lane.emitNextServerFrame serverTimeMs = outcome at hticked
  cases hticked with
  | idle hdata hw hf =>
    rw [hroom] at hdata
    exact .idle hdata (fun frame => (hw frame).trans (hwaiting frame))
      (fun frame => (hf frame).trans (hfast frame))
  | released hdata hreleases hpublished hw hf hhost hnewest hle =>
    simp only [hroom, hwaiting, hfast] at hdata hreleases hpublished hw hf hhost hnewest hle
    exact .released hdata hreleases hpublished hw hf hhost hnewest hle

/-! ## What a message does -/

theorem relayed_map {α β : Type} (f : α → β) (frames : List α)
    (acceptances : List InputFrameAcceptance) :
    relayed ((frames.map f).zip acceptances) = (relayed (frames.zip acceptances)).map f := by
  rw [relayed, relayed, List.zip_map_left, List.filter_map, List.map_map, List.map_map]
  rfl

theorem relayInputFrameBatch_taken {c : ConnectionId} (hstart : r.syncStartFrame ≤ u64Max)
    (hbegins : CursorsBegin r ⟨r.lastInputFrames, r.nextInputFrames⟩) (roomEpoch sessionEpoch : Nat)
    (inputs : List InputCursor) :
    InputTaken r c inputs (Registry.relayInputFrameBatch r c roomEpoch sessionEpoch inputs) := by
  unfold Registry.relayInputFrameBatch
  split
  · exact .refused
  · split
    · exact .refused
    · exact acceptInputFrameCursors_taken hstart hbegins inputs

/-- What a batch does to a lane: nothing, or its player's cursors move and its frames are passed
on. -/
inductive MessageTaken (relay : Relay) (lane : LegacyLane) (call : LegacyCall) : Prop
  | refused (hlane : nextLane relay lane call = lane)
      (hevents : (lane.step relay call).events = []) (haccepted : acceptedBy relay lane call = [])
  | taken {c : ConnectionId} {owned : PlayerIndex} {inputs : List InputFrame}
      {staged : InputFrameCursorStage}
      (hpassed : PassedOn c { lane with room := withStage lane.room staged } inputs
        ((lane.step relay call).events, nextLane relay lane call))
      (haccepted : acceptedBy relay lane call = inputs.map fun input => (c, input))
      (hstaged : Staged lane.room owned ⟨lane.room.lastInputFrames, lane.room.nextInputFrames⟩
        (inputs.map (·.cursor)) staged)

theorem inputFrameBatch_taken (hstart : lane.room.syncStartFrame ≤ u64Max)
    (hbegins : CursorsBegin lane.room ⟨lane.room.lastInputFrames, lane.room.nextInputFrames⟩)
    (c : ConnectionId) (batch : InputFrameBatch) :
    MessageTaken relay lane (.inputFrameBatch c batch) := by
  have htaken := relayInputFrameBatch_taken (c := c) hstart hbegins batch.roomEpoch
    batch.sessionEpoch (batch.frames.map (·.cursor))
  have hstep : lane.step relay (.inputFrameBatch c batch) = lane.relayInputFrameBatch c batch := rfl
  generalize hroom : Registry.relayInputFrameBatch lane.room c batch.roomEpoch batch.sessionEpoch
    (batch.frames.map (·.cursor)) = outcome at htaken
  cases htaken with
  | @refused error =>
    have hrefused : lane.relayInputFrameBatch c batch = ⟨.error error, [], lane⟩ := by
      rw [LegacyLane.relayInputFrameBatch, hroom]
    refine .refused ?_ ?_ ?_
    · rw [nextLane, hstep, hrefused]
    · rw [hstep, hrefused]
    · simp only [acceptedBy, hstep, hrefused]
  | @taken owned acceptances staged howned hlength hstaged =>
    have hpassed := relayAccepted_passedOn c (batch.frames.zip acceptances)
      { lane with room := withStage lane.room staged }
    have hrelayed : lane.relayInputFrameBatch c batch
        = ⟨.ok acceptances, (LegacyLane.relayAccepted
            (fun lane => lane.relayAcceptedInputFrame c)
            { lane with room := withStage lane.room staged } (batch.frames.zip acceptances)).1,
          (LegacyLane.relayAccepted (fun lane => lane.relayAcceptedInputFrame c)
            { lane with room := withStage lane.room staged }
            (batch.frames.zip acceptances)).2⟩ := by
      rw [LegacyLane.relayInputFrameBatch, hroom]
    rw [relayed_map] at hstaged
    refine .taken (c := c) ?_ ?_ hstaged
    · rw [nextLane, hstep, hrelayed]
      exact hpassed
    · simp only [acceptedBy, hstep, hrelayed]

/-! ## A session -/

/-- A legacy session begins: no input has come in and no frame has been released. -/
structure SessionBegins (lane : LegacyLane) : Prop where
  legacy : lane.room.usesStrictControllerInput = false
  range : lane.room.syncStartFrame ≤ u64Max
  last : lane.room.lastInputFrames = ∅
  next : lane.room.nextInputFrames = ∅
  released : lane.room.releasedFrame = none
  first : lane.room.nextReleaseFrame = lane.room.syncStartFrame
  empty : ∀ frame, waiting lane frame = [] ∧ waitingFast lane frame = []

/-- The calls of a session under way: batches of input, ticks and pauses. -/
def isTraffic : LegacyCall → Bool
  | .inputFrameBatch .. | .tick _ => true
  | .other op => isPauseCall op
  | _ => false

/-- A tick does not find the last frame there is released already. -/
def countsOn (lane : LegacyLane) : LegacyCall → Bool
  | .tick _ => lane.room.releasedFrame ≠ some u64Max
  | _ => true

/-- A session that began at `start`, has accepted the given input and released `count` frames. -/
structure RelayInv (start : Nat) (accepted : List Sent) (count : Nat) (lane : LegacyLane) :
    Prop where
  legacy : lane.room.usesStrictControllerInput = false
  origin : lane.room.syncStartFrame = start
  range : start ≤ u64Max ∧ start + count ≤ u64Max + 1
  next : lane.room.nextReleaseFrame = min u64Max (start + count)
  newest : lane.room.releasedFrame = if count = 0 then none else some (start + count - 1)
  cursors : CursorsBegin lane.room ⟨lane.room.lastInputFrames, lane.room.nextInputFrames⟩
  begun : ∀ sent ∈ accepted, start ≤ sent.2.frame
  /-- A player's newest frame is one that was accepted. -/
  inputs : ∀ p frame, lane.room.lastInputFrames.lookup p = some frame →
    ∃ sent ∈ accepted, sent.2.cursor = ⟨p, frame⟩
  /-- What has been accepted for a frame waits until the frame is released. -/
  buffered : ∀ frame, waiting lane frame = if frame < start + count then []
    else (accepted.filter fun sent => sent.2.frame = frame).map (entryOf lane.room)
  fast : ∀ frame, waitingFast lane frame = []

theorem waiting_new (r : NetplayRoom) (frame : Nat) :
    waiting (.new r) frame = [] ∧ waitingFast (.new r) frame = [] := by
  have hsync : Synchronized (.new r) := ⟨rfl, rfl⟩
  rw [waiting, waitingFast, hsync.eq]
  exact ⟨rfl, rfl⟩

theorem sessionBegins_new (hlegacy : r.usesStrictControllerInput = false)
    (hrange : r.syncStartFrame ≤ u64Max) (hlast : r.lastInputFrames = ∅)
    (hnext : r.nextInputFrames = ∅) (hreleased : r.releasedFrame = none)
    (hfirst : r.nextReleaseFrame = r.syncStartFrame) : SessionBegins (.new r) :=
  ⟨hlegacy, hrange, hlast, hnext, hreleased, hfirst, waiting_new r⟩

/-- The reset that goes with a new pair of epochs: what waited under the old pair is dropped. -/
theorem sessionBegins_reset {frame : Nat}
    (hdata : frameData lane.room = frameData (r.resetSyncStateTo frame))
    (hlegacy : lane.room.usesStrictControllerInput = false) (hrange : frame ≤ u64Max)
    (hepochs : ¬Synchronized lane) : SessionBegins lane := by
  have hempty : ∀ other, waiting lane other = [] ∧ waitingFast lane other = [] := by
    intro other
    have hold : ¬(lane.relayRoomEpoch = lane.room.roomEpoch
        ∧ lane.relaySessionEpoch = lane.room.sessionEpoch) := hepochs
    rw [waiting, waitingFast, LegacyLane.synchronizeInputRuntimeEpoch, if_neg hold]
    exact ⟨rfl, rfl⟩
  have hstart : lane.room.syncStartFrame = frame := congrArg (·.syncStartFrame) hdata
  refine ⟨hlegacy, hstart ▸ hrange, congrArg (·.lastInputFrames) hdata,
    congrArg (·.nextInputFrames) hdata, congrArg (·.releasedFrame) hdata, ?_, hempty⟩
  exact (congrArg (·.nextReleaseFrame) hdata).trans hstart.symm

theorem SessionBegins.inv (h : SessionBegins lane) :
    RelayInv lane.room.syncStartFrame [] 0 lane where
  legacy := h.legacy
  origin := rfl
  range := ⟨h.range, Nat.le_succ_of_le h.range⟩
  next := by
    have hrange := h.range
    rw [h.first]
    omega
  newest := h.released
  cursors := by
    intro p frame hcursor
    rw [h.next] at hcursor
    exact absurd hcursor (by simp)
  begun := fun _ hsent => absurd hsent (by simp)
  inputs := by
    intro p frame hlast
    rw [h.last] at hlast
    exact absurd hlast (by simp)
  buffered := fun frame => by simp [(h.empty frame).1]
  fast := fun frame => (h.empty frame).2

variable {start count : Nat} {accepted : List Sent}

theorem RelayInv.hasReleased (h : RelayInv start accepted count lane) {frame : Nat}
    (hbegun : start ≤ frame) : lane.hasReleased frame = decide (frame < start + count) := by
  rw [LegacyLane.hasReleased, h.newest]
  by_cases hcount : count = 0
  · rw [if_pos hcount, Option.any_none, eq_comm, decide_eq_false_iff_not]
    omega
  · rw [if_neg hcount, Option.any_some, decide_eq_decide]
    omega

theorem entryOf_congr {r' : NetplayRoom} (hroom : r'.roomEpoch = r.roomEpoch)
    (hsession : r'.sessionEpoch = r.sessionEpoch) : entryOf r' = entryOf r := by
  funext sent
  rw [entryOf, entryOf, hroom, hsession]

theorem RelayInv.same_cursors (h : RelayInv start accepted count lane)
    (hstart : r.syncStartFrame = lane.room.syncStartFrame)
    (hnext : r.nextInputFrames = lane.room.nextInputFrames) :
    CursorsBegin r ⟨r.lastInputFrames, r.nextInputFrames⟩ := by
  intro p frame hcursor
  rw [hstart]
  exact h.cursors p frame (hnext ▸ hcursor)

theorem RelayInv.of_frameData (h : RelayInv start accepted count lane)
    (hdata : frameData lane'.room = frameData lane.room)
    (hwaiting : ∀ frame, waiting lane' frame = waiting lane frame)
    (hfast : ∀ frame, waitingFast lane' frame = waitingFast lane frame) :
    RelayInv start accepted count lane' where
  legacy := (congrArg (·.strict) hdata).trans h.legacy
  origin := (congrArg (·.syncStartFrame) hdata).trans h.origin
  range := h.range
  next := (congrArg (·.nextReleaseFrame) hdata).trans h.next
  newest := (congrArg (·.releasedFrame) hdata).trans h.newest
  cursors := h.same_cursors (congrArg (·.syncStartFrame) hdata)
    (congrArg (·.nextInputFrames) hdata)
  begun := h.begun
  inputs := by
    have hsame : lane'.room.lastInputFrames = lane.room.lastInputFrames :=
      congrArg (·.lastInputFrames) hdata
    rw [hsame]
    exact h.inputs
  buffered := by
    intro frame
    rw [hwaiting, h.buffered, entryOf_congr (congrArg (·.roomEpoch) hdata)
      (congrArg (·.sessionEpoch) hdata)]
  fast := fun frame => (hfast frame).trans (h.fast frame)

/-! ### Messages -/

theorem RelayInv.message (h : RelayInv start accepted count lane)
    (htaken : MessageTaken relay lane call) :
    RelayInv start (accepted ++ acceptedBy relay lane call) count (nextLane relay lane call)
      ∧ published (lane.step relay call).events
        = (acceptedBy relay lane call).filter (fun sent => sent.2.frame < start + count)
      ∧ releases (lane.step relay call).events = [] := by
  cases htaken with
  | refused hlane hevents haccepted =>
    rw [hlane, hevents, haccepted, List.append_nil]
    exact ⟨h, rfl, rfl⟩
  | @taken c owned inputs staged hpassed haccepted hstaged =>
    have hroom : (nextLane relay lane call).room = withStage lane.room staged := hpassed.room
    have hepochs : entryOf (withStage lane.room staged) = entryOf lane.room := rfl
    have hbegun : ∀ input ∈ inputs, start ≤ input.frame := by
      intro input hinput
      have hle := hstaged.begun input.cursor (List.mem_map_of_mem hinput)
      rw [h.origin] at hle
      exact hle
    have hreleased : ∀ input ∈ inputs,
        LegacyLane.hasReleased { lane with room := withStage lane.room staged } input.frame
          = decide (input.frame < start + count) := by
      intro input hinput
      rw [← h.hasReleased (hbegun input hinput)]
      rfl
    have hwaits := waiting_room lane (r := withStage lane.room staged) rfl rfl
    rw [haccepted]
    refine ⟨?_, ?_, hpassed.releases⟩
    · refine ⟨?_, ?_, h.range, ?_, ?_, ?_, ?_, ?_, fun frame => ?_, fun frame => ?_⟩
      · rw [hroom]
        exact h.legacy
      · rw [hroom]
        exact h.origin
      · rw [hroom]
        exact h.next
      · rw [hroom]
        exact h.newest
      · rw [hroom]
        exact hstaged.begins
      · intro sent hsent
        rcases List.mem_append.mp hsent with hold | hnew
        · exact h.begun sent hold
        · obtain ⟨input, hinput, rfl⟩ := List.mem_map.mp hnew
          exact hbegun input hinput
      · intro p frame hlast
        rw [hroom] at hlast
        rcases hstaged.newest p frame hlast with hbefore | hnew
        · obtain ⟨sent, hsent, hcursor⟩ := h.inputs p frame hbefore
          exact ⟨sent, List.mem_append_left _ hsent, hcursor⟩
        · obtain ⟨input, hinput, hcursor⟩ := List.mem_map.mp hnew
          exact ⟨(c, input), List.mem_append_right _ (List.mem_map_of_mem hinput), hcursor⟩
      · rw [hpassed.waiting, (hwaits frame).1, h.buffered, hroom, hepochs]
        by_cases hframe : frame < start + count
        · -- the frame has been released, so nothing of the message stays behind for it
          rw [if_pos hframe, if_pos hframe, List.nil_append, List.map_eq_nil_iff,
            List.filter_eq_nil_iff]
          intro input hinput
          rw [hreleased input hinput]
          simp only [Bool.and_eq_true, Bool.not_eq_true', decide_eq_false_iff_not,
            decide_eq_true_eq]
          omega
        · rw [if_neg hframe, if_neg hframe, List.filter_append, List.map_append, List.filter_map,
            List.map_map]
          refine congrArg _ (congrArg _ (List.filter_congr fun input hinput => ?_))
          rw [hreleased input hinput]
          by_cases hsame : input.frame = frame
          · simp [hsame, hframe]
          · simp [hsame]
      · rw [hpassed.fast, (hwaits frame).2, h.fast]
    · rw [hpassed.published, List.filter_map]
      refine congrArg _ (List.filter_congr fun input hinput => ?_)
      rw [hreleased input hinput]
      rfl

/-! ### Ticks -/

theorem RelayInv.tick (h : RelayInv start accepted count lane) (serverTimeMs : Nat)
    (hcounts : lane.room.releasedFrame ≠ some u64Max) :
    let outcome := lane.emitNextServerFrame serverTimeMs
    (RelayInv start accepted count outcome.2 ∧ outcome.1 = [])
    ∨ (RelayInv start accepted (count + 1) outcome.2
      ∧ releases outcome.1 = [start + count]
      ∧ (published outcome.1).Perm (accepted.filter fun sent => sent.2.frame = start + count)
      ∧ ∃ sent ∈ accepted, hostIndex lane.room = some sent.2.playerIndex
        ∧ start + count ≤ sent.2.frame) := by
  intro outcome
  have hticked : LaneTicked lane outcome := emitNextServerFrame_ticked serverTimeMs
  have hrange := h.range
  have hmore : start + count ≤ u64Max := by
    rw [h.newest] at hcounts
    by_cases hcount : count = 0
    · omega
    · rw [if_neg hcount] at hcounts
      have hne : start + count - 1 ≠ u64Max := fun heq => hcounts (congrArg some heq)
      omega
  have hnext : lane.room.nextReleaseFrame = start + count := by
    rw [h.next]
    omega
  generalize outcome = ticked at hticked
  cases hticked with
  | idle hdata hwaiting hfast => exact .inl ⟨h.of_frameData hdata hwaiting hfast, rfl⟩
  | @released events lane' host newest hdata hreleases hpublished hwaiting hfast hhost hnewest
      hle =>
    rw [hnext] at hdata hreleases hpublished hle
    simp only [hnext] at hwaiting hfast
    have hheld : waiting lane (start + count)
        = (accepted.filter fun sent => sent.2.frame = start + count).map (entryOf lane.room) := by
      rw [h.buffered, if_neg (Nat.lt_irrefl _)]
    refine .inr ⟨?_, hreleases, ?_, ?_⟩
    · refine ⟨(congrArg (·.strict) hdata).trans h.legacy,
        (congrArg (·.syncStartFrame) hdata).trans h.origin, ⟨hrange.1, by omega⟩, ?_, ?_, ?_,
        h.begun, ?_, fun frame => ?_, fun frame => ?_⟩
      · rw [show lane'.room.nextReleaseFrame = satAdd u64Max (start + count) 1 from
          congrArg (·.nextReleaseFrame) hdata, satAdd]
        omega
      · rw [if_neg (Nat.succ_ne_zero count)]
        exact congrArg (·.releasedFrame) hdata
      · exact h.same_cursors (congrArg (·.syncStartFrame) hdata)
          (congrArg (·.nextInputFrames) hdata)
      · have hsame : lane'.room.lastInputFrames = lane.room.lastInputFrames :=
          congrArg (·.lastInputFrames) hdata
        rw [hsame]
        exact h.inputs
      · rw [hwaiting, h.buffered, entryOf_congr (congrArg (·.roomEpoch) hdata)
          (congrArg (·.sessionEpoch) hdata)]
        by_cases hframe : frame = start + count
        · rw [if_pos hframe, if_pos (by omega)]
        rw [if_neg hframe]
        by_cases hbelow : frame < start + count
        · rw [if_pos hbelow, if_pos (by omega)]
        · rw [if_neg hbelow, if_neg (by omega)]
      · rw [hfast, h.fast, ite_self]
    · rw [hheld] at hpublished
      have hsent := hpublished (fun entry hentry => ?_) (h.fast _)
      · simpa [entryOf, Function.comp_def] using hsent
      · obtain ⟨sent, _, rfl⟩ := List.mem_map.mp hentry
        exact ⟨rfl, rfl⟩
    · obtain ⟨sent, hsent, hcursor⟩ := h.inputs host newest hnewest
      have hplayer : sent.2.playerIndex = host := congrArg (·.playerIndex) hcursor
      have hframe : sent.2.frame = newest := congrArg (·.frame) hcursor
      exact ⟨sent, hsent, hplayer ▸ hhost, hframe ▸ hle⟩

/-! ### Whole sessions -/

/-- How one call is handled after the given input was accepted and the given frames released. -/
inductive Handled (relay : Relay) (start : Nat) (accepted : List Sent) (released : List Nat)
    (lane : LegacyLane) (call : LegacyCall) : Prop
  /-- A message: what it has for released frames is published at once. -/
  | message (hpublished : published (lane.step relay call).events
        = (acceptedBy relay lane call).filter fun sent => sent.2.frame ∈ released)
      (hreleases : releases (lane.step relay call).events = [])
  /-- The next frame is released, and with it all that was accepted for it. The host has sent input
  for this frame or a later one. -/
  | release {sent : Sent} (haccepted : acceptedBy relay lane call = [])
      (hreleases : releases (lane.step relay call).events = [start + released.length])
      (hpublished : (published (lane.step relay call).events).Perm
        (accepted.filter fun sent => sent.2.frame = start + released.length))
      (hsent : sent ∈ accepted) (hhost : hostIndex lane.room = some sent.2.playerIndex)
      (hframe : start + released.length ≤ sent.2.frame)

theorem relay_step (relay : Relay) (h : RelayInv start accepted count lane)
    (htraffic : isTraffic call) (hcounts : countsOn lane call) :
    Handled relay start accepted (List.range' start count) lane call
      ∧ ∃ count', RelayInv start (accepted ++ acceptedBy relay lane call) count'
          (nextLane relay lane call)
        ∧ List.range' start count ++ releases (lane.step relay call).events
          = List.range' start count' := by
  cases call with
  | inputFrameBatch c batch =>
    have hstart : lane.room.syncStartFrame ≤ u64Max := h.origin ▸ h.range.1
    have htaken : MessageTaken relay lane (.inputFrameBatch c batch) :=
      inputFrameBatch_taken hstart h.cursors c batch
    obtain ⟨hinv, hpublished, hreleases⟩ := h.message htaken
    refine ⟨.message ?_ hreleases, count, hinv, ?_⟩
    · rw [hpublished]
      refine List.filter_congr fun sent hsent => ?_
      have hbegun := hinv.begun sent (List.mem_append_right _ hsent)
      rw [decide_eq_decide, List.mem_range'_1]
      omega
    · rw [hreleases, List.append_nil]
  | tick now =>
    have hnone : acceptedBy relay lane (.tick now) = [] := rfl
    rw [hnone, List.append_nil]
    rcases h.tick (relay.serverTimeMsAt now) (by simpa [countsOn] using hcounts)
      with ⟨hinv, hevents⟩ | ⟨hinv, hreleases, hpublished, sent, hsent, hhost, hframe⟩
    · have hstep : (lane.step relay (.tick now)).events = [] := hevents
      refine ⟨.message ?_ ?_, count, hinv, ?_⟩
      · rw [hstep, hnone]
        rfl
      · rw [hstep]
        rfl
      · rw [hstep]
        exact List.append_nil _
    · have hlength : (List.range' start count).length = count := List.length_range'
      refine ⟨.release hnone ?_ ?_ hsent hhost ?_, count + 1, hinv, ?_⟩
      · rw [hlength]
        exact hreleases
      · rw [hlength]
        exact hpublished
      · rw [hlength]
        exact hframe
      · rw [List.range'_concat, Nat.one_mul]
        exact congrArg _ hreleases
  | other op =>
    have hdata : frameData (applyOp relay lane.room op) = frameData lane.room :=
      pauseCall_frameData htraffic h.legacy
    have hnone : acceptedBy relay lane (.other op) = [] := rfl
    have hwaits := waiting_room lane (congrArg (·.roomEpoch) hdata)
      (congrArg (·.sessionEpoch) hdata)
    refine ⟨.message rfl rfl, count, ?_, List.append_nil _⟩
    rw [hnone, List.append_nil]
    exact h.of_frameData hdata (fun frame => (hwaits frame).1) (fun frame => (hwaits frame).2)
  | inputFrame | fastInputBatch => exact absurd htraffic (by simp [isTraffic])

/-- What has been published is what was accepted for released frames. -/
theorem Handled.published_perm {released : List Nat} {sents : List Sent}
    (h : Handled relay start accepted released lane call)
    (hrange : released = List.range' start count)
    (hsents : sents.Perm (accepted.filter fun sent => sent.2.frame ∈ released)) :
    (sents ++ published (lane.step relay call).events).Perm
      ((accepted ++ acceptedBy relay lane call).filter fun sent =>
        sent.2.frame ∈ released ++ releases (lane.step relay call).events) := by
  cases h with
  | message hpublished hreleases =>
    rw [hreleases, List.append_nil, List.filter_append, hpublished]
    exact hsents.append_right _
  | release haccepted hreleases hpublished =>
    rw [haccepted, List.append_nil, hreleases]
    refine (hsents.append hpublished).trans ?_
    have hnew : start + released.length ∉ released := by
      rw [hrange, List.length_range', List.mem_range'_1]
      omega
    have hsplit := List.filter_append_perm (fun sent : Sent => decide (sent.2.frame ∈ released))
      (accepted.filter fun sent => sent.2.frame ∈ released ++ [start + released.length])
    refine .trans (.of_eq ?_) hsplit
    rw [List.filter_filter, List.filter_filter]
    refine congrArg₂ _ (List.filter_congr fun sent _ => ?_) (List.filter_congr fun sent _ => ?_)
    · by_cases hmem : sent.2.frame ∈ released
      · simp [hmem]
      · simp [hmem]
    · by_cases hmem : sent.2.frame ∈ released
      · have hne : sent.2.frame ≠ start + released.length := fun heq => hnew (heq ▸ hmem)
        simp [hmem, hne]
      · simp [hmem]

/-- A whole session keeps the invariant, releases one frame after the other and publishes what it
accepted for them. -/
theorem relay_run (hbegins : SessionBegins lane) :
    ∀ calls : List LegacyCall, (∀ call ∈ calls, isTraffic call) →
      Guarded (fun lane call => some (nextLane relay lane call))
        (fun lane call => countsOn lane call)
        lane calls →
      ∃ count, RelayInv lane.room.syncStartFrame (acceptedOver relay lane calls) count
          (laneAfter relay lane calls)
        ∧ releasedOver relay lane calls = List.range' lane.room.syncStartFrame count
        ∧ (publishedOver relay lane calls).Perm ((acceptedOver relay lane calls).filter fun sent =>
          sent.2.frame ∈ releasedOver relay lane calls) := by
  intro calls
  induction calls using List.reverseRecOn with
  | nil => exact fun _ _ => ⟨0, hbegins.inv, rfl, .refl _⟩
  | append_singleton calls call ih =>
    intro htraffic hcounts
    have hrun : run (fun lane call => some (nextLane relay lane call)) lane calls
        = some (laneAfter relay lane calls) := run_some _ _ _
    obtain ⟨hbefore, hlast⟩ := (guarded_append hrun).mp hcounts
    obtain ⟨count, hinv, hreleased, hpublished⟩ := ih
      (fun call hcall => htraffic call (List.mem_append_left _ hcall)) hbefore
    obtain ⟨hhandled, count', hinv', hrange⟩ := relay_step relay hinv
      (htraffic call (List.mem_append_right _ List.mem_cons_self)) hlast.1
    rw [← hreleased] at hhandled hrange
    refine ⟨count', ?_, ?_, ?_⟩
    · rw [laneAfter_concat, acceptedOver, gathered_concat]
      exact hinv'
    · rw [releasedOver, gathered_concat]
      exact hrange
    · rw [publishedOver, acceptedOver, releasedOver, gathered_concat, gathered_concat,
        gathered_concat]
      exact hhandled.published_perm hreleased hpublished

/-- **Legacy input goes out once and in time.** In a session of batches, ticks and pauses in which
no tick finds the last frame released: every call is handled as it should be, the frames released
are those from the start on, each once, what has been published is what was accepted for these
frames, and nothing waits under a frame that is behind the clock. -/
theorem legacy_relay_timely (relay : Relay) (lane : LegacyLane) (calls : List LegacyCall)
    (hbegins : SessionBegins lane) (htraffic : ∀ call ∈ calls, isTraffic call)
    (hcounts : Guarded (fun lane call => some (nextLane relay lane call))
      (fun lane call => countsOn lane call) lane calls) :
    (∀ done call rest, calls = done ++ call :: rest →
      Handled relay lane.room.syncStartFrame (acceptedOver relay lane done)
        (releasedOver relay lane done) (laneAfter relay lane done) call)
    ∧ (∃ count, releasedOver relay lane calls = List.range' lane.room.syncStartFrame count)
    ∧ (publishedOver relay lane calls).Perm ((acceptedOver relay lane calls).filter fun sent =>
      sent.2.frame ∈ releasedOver relay lane calls)
    ∧ ∀ frame < (laneAfter relay lane calls).room.nextReleaseFrame,
      waiting (laneAfter relay lane calls) frame = []
        ∧ waitingFast (laneAfter relay lane calls) frame = [] := by
  obtain ⟨count, hinv, hreleased, hpublished⟩ := relay_run hbegins calls htraffic hcounts
  refine ⟨?_, ⟨count, hreleased⟩, hpublished, ?_⟩
  · intro done call rest hsplit
    have hrun : run (fun lane call => some (nextLane relay lane call)) lane done
        = some (laneAfter relay lane done) := run_some _ _ _
    rw [hsplit] at htraffic hcounts
    obtain ⟨hbefore, hcall⟩ := (guarded_append hrun).mp hcounts
    obtain ⟨count, hinv, hreleased, _⟩ := relay_run hbegins done
      (fun call hcall => htraffic call (List.mem_append_left _ hcall)) hbefore
    rw [hreleased]
    exact (relay_step relay hinv
      (htraffic call (List.mem_append_right _ List.mem_cons_self)) hcall.1).1
  · intro frame hframe
    refine ⟨?_, hinv.fast frame⟩
    have hbelow : frame < lane.room.syncStartFrame + count := by
      rw [hinv.next] at hframe
      omega
    rw [hinv.buffered, if_pos hbelow]

/-- Some traffic: the guest is a frame ahead of the host, then the host catches up, and a late frame
of the guest comes in after the release. -/
def sampleTraffic : List LegacyCall :=
  let input := fun player frame => (⟨player, frame, [0]⟩ : InputFrame)
  [.inputFrameBatch guestInput ⟨2, 2, .two, [input .two 0]⟩, .tick 0,
    .inputFrameBatch hostInput ⟨2, 2, .one, [input .one 0, input .one 1]⟩, .tick 0, .tick 0,
    .inputFrameBatch guestInput ⟨2, 2, .two, [input .two 1]⟩]

theorem legacy_relay_timely_sample :
    Reachable sampleRelay legacyRoom
      ∧ releasedOver sampleRelay (.new legacyRoom.room) sampleTraffic = [0, 1]
      ∧ (publishedOver sampleRelay (.new legacyRoom.room) sampleTraffic).length = 4
      ∧ (publishedOver sampleRelay (.new legacyRoom.room) sampleTraffic).Perm
        ((acceptedOver sampleRelay (.new legacyRoom.room) sampleTraffic).filter fun sent =>
          sent.2.frame ∈ releasedOver sampleRelay (.new legacyRoom.room) sampleTraffic) := by
  have hbegins : SessionBegins (.new legacyRoom.room) := by
    obtain ⟨hlegacy, hrange, hlast, hnext, hreleased, hfirst⟩ :
        legacyRoom.room.usesStrictControllerInput = false
          ∧ legacyRoom.room.syncStartFrame ≤ u64Max
          ∧ legacyRoom.room.lastInputFrames.entries = []
          ∧ legacyRoom.room.nextInputFrames.entries = []
          ∧ legacyRoom.room.releasedFrame = none
          ∧ legacyRoom.room.nextReleaseFrame = legacyRoom.room.syncStartFrame := by
      decide +kernel
    exact sessionBegins_new hlegacy hrange (AList.ext hlast) (AList.ext hnext) hreleased hfirst
  obtain ⟨hreleases, hcount, htraffic, hcounts⟩ :
      releasedOver sampleRelay (.new legacyRoom.room) sampleTraffic = [0, 1]
        ∧ (publishedOver sampleRelay (.new legacyRoom.room) sampleTraffic).length = 4
        ∧ (∀ call ∈ sampleTraffic, isTraffic call)
        ∧ Guarded (fun lane call => some (nextLane sampleRelay lane call))
          (fun lane call => countsOn lane call) (.new legacyRoom.room) sampleTraffic := by
    decide +kernel
  refine ⟨reachable_after (by decide +kernel), hreleases, hcount, ?_⟩
  exact (legacy_relay_timely sampleRelay (.new legacyRoom.room) sampleTraffic hbegins htraffic
    hcounts).2.2.1

/-- A session that starts 240 frames before the last one there is. -/
def resyncedNearLastFrame : StoredRoom :=
  after sampleRelay (sampleRoom 4) (seating false ++ handshake 4 0 ++ mismatchAt (u64Max - 240)
    ++ handshake 4 (u64Max - 240))

/-- The host sends input for the last frame, and the clock ticks two times more than it takes to get
there. -/
def lastTraffic : List LegacyCall :=
  .inputFrameBatch hostInput ⟨2, 3, .one, [⟨.one, u64Max, [0]⟩]⟩ :: List.replicate 242 (.tick 0)

/-- The last frame is released twice. -/
theorem last_frame_released_twice :
    Reachable sampleRelay resyncedNearLastFrame
      ∧ (releasedOver sampleRelay (.new resyncedNearLastFrame.room) lastTraffic).count u64Max = 2 :=
  ⟨reachable_after (by decide +kernel), by decide +kernel⟩

end NetplayRelay.Proof
