import Mathlib.Data.List.Sort
import NetplayRelay.Proof.LobbyInvariants

/-!
# A launch and the reports about it

The host requests a launch, publishes the room of the game, and every player reports when its game
runs. The launch is playing once all players that are present have reported.

Two things are in the way of that. Publishing sets the status to ready whatever it was before, so a
launch that is playing falls back when its host publishes the room again (`launch_forward_iff`). And
a recorded report moves the epoch on that the reports of the others are checked against. All players
know the epoch at which the room was published, and with that epoch only one report is ever
recorded: the launch gets to playing exactly if one report was missing (`reports_start_play_iff`).
-/

namespace NetplayRelay.Proof

open Lib Protocol Rooms Auth Lobbies

variable {server : LobbyServer} {l l' : Lobby} {op : LobbyOp} {launch launch' : LobbyGameLaunchView}
  {slot : LobbyPlayerSlot} {p : PlayerIndex} {c : ConnectionId} {epoch nowMs : Nat}
  {expected : List PlayerIndex}

/-! ## One report -/

/-- Somebody is expected to report, and everybody who is has done so. -/
def AllReported (expected : List PlayerIndex) (launch : LobbyGameLaunchView) : Prop :=
  expected ≠ [] ∧ ∀ p ∈ expected, p.zeroBased ∈ launch.startedPlayerIndexes

/-- What a recorded report does to a launch. -/
structure ReportRecorded (expected : List PlayerIndex) (p : PlayerIndex)
    (launch launch' : LobbyGameLaunchView) : Prop where
  ready : launch.status = .ready
  isNew : p.zeroBased ∉ launch.startedPlayerIndexes
  started : launch'.startedPlayerIndexes
    = (launch.startedPlayerIndexes ++ [p.zeroBased]).insertionSort (· ≤ ·)
  outcome : (launch'.status = .playing ∧ AllReported expected launch')
    ∨ (launch'.status = .ready ∧ launch'.gameplayStartedAtMs = launch.gameplayStartedAtMs
      ∧ ¬AllReported expected launch')

theorem markPlayerStarted_recorded
    (h : launch.markPlayerStarted p expected nowMs = (.ok true, launch')) :
    ReportRecorded expected p launch launch' := by
  obtain ⟨hready, hnew⟩ := markPlayerStarted_ok_iff.mp (congrArg Prod.fst h)
  simp only [LobbyGameLaunchView.markPlayerStarted, hready, if_neg hnew] at h
  split at h
  · rename_i hall
    obtain ⟨-, rfl⟩ := Prod.mk.inj h
    refine ⟨hready, hnew, rfl, .inl ⟨rfl, ?_⟩⟩
    simpa [AllReported] using hall
  · rename_i hall
    obtain ⟨-, rfl⟩ := Prod.mk.inj h
    refine ⟨hready, hnew, rfl, .inr ⟨rfl, rfl, ?_⟩⟩
    simpa [AllReported] using hall

theorem ReportRecorded.mem_started (h : ReportRecorded expected p launch launch') {index : Nat} :
    index ∈ launch'.startedPlayerIndexes
      ↔ index ∈ launch.startedPlayerIndexes ∨ index = p.zeroBased := by
  rw [h.started, List.mem_insertionSort, List.mem_append, List.mem_singleton]

/-! ## The course of a launch -/

def launchRank : LobbyGameLaunchStatus → Nat
  | .preparing => 0
  | .ready => 1
  | .playing => 2

structure LaunchForward (launch launch' : LobbyGameLaunchView) : Prop where
  status : launchRank launch.status ≤ launchRank launch'.status
  started : launch.startedPlayerIndexes ⊆ launch'.startedPlayerIndexes

structure LaunchSound (launch : LobbyGameLaunchView) : Prop where
  /-- In order, and nobody twice. -/
  started : launch.startedPlayerIndexes.Pairwise (· < ·)
  playing : launch.gameplayStartedAtMs.isSome → launch.status = .playing

theorem LaunchForward.refl (launch : LobbyGameLaunchView) : LaunchForward launch launch :=
  ⟨Nat.le_refl _, fun _ h => h⟩

theorem LaunchForward.trans {launch'' : LobbyGameLaunchView} (h : LaunchForward launch launch')
    (h' : LaunchForward launch' launch'') : LaunchForward launch launch'' :=
  ⟨h.status.trans h'.status, fun _ hi => h'.started (h.started hi)⟩

theorem ReportRecorded.forward (h : ReportRecorded expected p launch launch') :
    LaunchForward launch launch' := by
  refine ⟨?_, fun index hi => h.mem_started.mpr (.inl hi)⟩
  rw [h.ready]
  rcases h.outcome with ⟨hstatus, _⟩ | ⟨hstatus, _⟩
  · rw [hstatus]
    decide
  · rw [hstatus]

theorem ReportRecorded.sound (h : ReportRecorded expected p launch launch')
    (hsound : LaunchSound launch) : LaunchSound launch' := by
  constructor
  · have hnodup : (launch.startedPlayerIndexes ++ [p.zeroBased]).Nodup := by
      rw [← List.concat_eq_append, List.nodup_concat]
      exact ⟨h.isNew, hsound.started.imp Nat.ne_of_lt⟩
    rw [h.started]
    have hsorted := List.pairwise_insertionSort (· ≤ ·)
      (launch.startedPlayerIndexes ++ [p.zeroBased])
    have hapart := (List.perm_insertionSort (· ≤ ·) _).nodup_iff.mpr hnodup
    exact (hsorted.and hapart).imp fun ⟨hle, hne⟩ => Nat.lt_of_le_of_ne hle hne
  · intro hstarted
    rcases h.outcome with ⟨hstatus, _⟩ | ⟨_, hsame, _⟩
    · exact hstatus
    · -- the launch had begun to play before, and then no report is recorded
      rw [hsame] at hstarted
      exact absurd (h.ready.symm.trans (hsound.playing hstarted)) (by decide)

/-- The event begins a new launch. -/
def beginsLaunch (server : LobbyServer) (l : Lobby) : LobbyEvent → Bool
  | .call (.requestGameLaunch c proposalId nowMs) =>
    accepts server l (.requestGameLaunch c proposalId nowMs)
  | _ => false

/-- The host publishes a room for a launch that is playing. -/
def publishesAgain (server : LobbyServer) (l : Lobby) : LobbyEvent → Bool
  | .call (.publishGameRoom c proposalId code nowMs) =>
    accepts server l (.publishGameRoom c proposalId code nowMs)
      && l.pendingLaunch.any (·.status = .playing)
  | _ => false

/-- What an event does to the launch. -/
inductive LaunchMove (server : LobbyServer) (l : Lobby) (event : LobbyEvent) :
    Option LobbyGameLaunchView → Prop
  | kept : LaunchMove server l event l.pendingLaunch
  | ended : LaunchMove server l event none
  | begun {proposalId : ProposalId} {p : PlayerIndex} {nowMs : Nat}
      (h : beginsLaunch server l event) :
      LaunchMove server l event (some (.new proposalId p nowMs))
  | published {launch : LobbyGameLaunchView} {code : Text} {nowMs : Nat}
      (hlaunch : l.pendingLaunch = some launch)
      (h : launch.status = .playing → publishesAgain server l event) :
      LaunchMove server l event (some (launch.publishRoom code nowMs))
  | reported {launch launch' : LobbyGameLaunchView} {expected : List PlayerIndex} {p : PlayerIndex}
      (hlaunch : l.pendingLaunch = some launch) (h : ReportRecorded expected p launch launch') :
      LaunchMove server l event (some launch')

theorem launch_call (h : LobbyStep server l op l') :
    LaunchMove server l (.call op) l'.pendingLaunch := by
  cases h with
  | closed | left | chosen | readied | returned => exact .ended
  | removed _ _ _ hlaunch => exact .kept
  | launched hslot hhost hselected hready =>
    exact .begun (by simp [beginsLaunch, accepts, hosts, hslot, hhost, hselected, hready])
  | published hhost hselected hlaunch hproposal =>
    refine .published hlaunch fun hplaying => ?_
    simp [publishesAgain, accepts, hhost, hselected, hlaunch, hproposal, hplaying]
  | started _ _ _ _ hlaunch _ hstarted =>
    exact .reported hlaunch (markPlayerStarted_recorded hstarted)
  | _ => exact .kept

theorem launch_event (server : LobbyServer) (l : Lobby) (event : LobbyEvent) :
    LaunchMove server l event (applyLobbyEvent server l event).pendingLaunch := by
  cases event with
  | call op => exact launch_call (applyLobbyOp_step server l op)
  | closeDueToIdle nowMs =>
    rw [applyLobbyEvent, Lobby.closeDueToIdle]
    by_cases hclosed : l.status = .closed
    · rw [if_pos hclosed]
      exact .kept
    · rw [if_neg hclosed]
      exact .ended

/-- The pending launch, if there is one, is sound. -/
def PendingSound (l : Lobby) : Prop := ∀ launch, l.pendingLaunch = some launch → LaunchSound launch

/-- Unless a room is published again, a launch stays sound and moves forward. -/
theorem launch_forward {event : LobbyEvent} (hsound : PendingSound l)
    (hfirst : publishesAgain server l event = false) :
    PendingSound (applyLobbyEvent server l event)
      ∧ (beginsLaunch server l event = false →
        ∀ launch launch', l.pendingLaunch = some launch →
          (applyLobbyEvent server l event).pendingLaunch = some launch' →
          LaunchForward launch launch') := by
  have hmove := launch_event server l event
  unfold PendingSound
  generalize (applyLobbyEvent server l event).pendingLaunch = after at hmove
  cases hmove with
  | kept =>
    refine ⟨hsound, fun _ launch launch' hlaunch hlaunch' => ?_⟩
    obtain rfl := Option.some.inj (hlaunch.symm.trans hlaunch')
    exact .refl launch
  | ended => exact ⟨fun _ h => absurd h (by simp), fun _ _ _ _ h => absurd h (by simp)⟩
  | begun hbegins =>
    refine ⟨?_, fun hsame => absurd (hsame.symm.trans hbegins) (by simp)⟩
    intro launch hlaunch
    obtain rfl := Option.some.inj hlaunch
    exact ⟨List.Pairwise.nil, fun h => absurd h (by simp [LobbyGameLaunchView.new])⟩
  | @published launch code nowMs hlaunch hagain =>
    have hnot : launch.status ≠ .playing := by
      intro hplaying
      exact absurd (hfirst.symm.trans (hagain hplaying)) (by simp)
    have hsound' := hsound launch hlaunch
    refine ⟨?_, fun _ before after hbefore hafter => ?_⟩
    · intro after hafter
      obtain rfl := Option.some.inj hafter
      exact ⟨hsound'.started, fun h => absurd (hsound'.playing h) hnot⟩
    · obtain rfl := Option.some.inj (hlaunch.symm.trans hbefore)
      obtain rfl := Option.some.inj hafter
      refine ⟨?_, fun _ hi => hi⟩
      cases hstatus : launch.status with
      | preparing => exact Nat.zero_le _
      | ready => exact Nat.le_refl _
      | playing => exact absurd hstatus hnot
  | @reported launch launch' expected p hlaunch hrecorded =>
    refine ⟨?_, fun _ before after hbefore hafter => ?_⟩
    · intro after hafter
      obtain rfl := Option.some.inj hafter
      exact hrecorded.sound (hsound launch hlaunch)
    · obtain rfl := Option.some.inj (hlaunch.symm.trans hbefore)
      obtain rfl := Option.some.inj hafter
      exact hrecorded.forward

/-- A launch that is playing falls back when its room is published again. -/
theorem published_again_falls_back {event : LobbyEvent} (h : publishesAgain server l event) :
    beginsLaunch server l event = false
      ∧ ∃ launch launch', l.pendingLaunch = some launch
        ∧ (applyLobbyEvent server l event).pendingLaunch = some launch'
        ∧ launch.status = .playing ∧ launch'.status = .ready := by
  cases event with
  | closeDueToIdle => exact absurd h (by simp [publishesAgain])
  | call op =>
    cases op with
    | publishGameRoom c proposalId code nowMs =>
      simp only [publishesAgain, Bool.and_eq_true] at h
      obtain ⟨launch, hlaunch, hplaying⟩ := (Option.any_eq_true _ _).mp h.2
      have hstep := applyLobbyOp_step server l (.publishGameRoom c proposalId code nowMs)
      refine ⟨rfl, launch, launch.publishRoom code.display nowMs, hlaunch, ?_,
        by simpa using hplaying, rfl⟩
      rw [applyLobbyEvent]
      generalize applyLobbyOp server l (.publishGameRoom c proposalId code nowMs) = after
        at hstep
      cases hstep with
      | refused hrefused => exact absurd h.1 (by simp [hrefused])
      | published _ _ hlaunch' =>
        obtain rfl := Option.some.inj (hlaunch.symm.trans hlaunch')
        rfl
      | noted hop => exact absurd hop (by simp [notes])
    | _ => exact absurd h (by simp [publishesAgain])

/-- During these events one launch goes on: none of them ends it or begins another one. -/
def OneLaunch (server : LobbyServer) : Lobby → List LobbyEvent → Prop :=
  Guarded (lobbyEventStep server) fun l event => beginsLaunch server l event = false
    ∧ (applyLobbyEvent server l event).pendingLaunch.isSome

/-- What one event keeps, a run of events keeps. -/
theorem launch_forward_run {during : List LobbyEvent} (hsound : PendingSound l)
    (hone : OneLaunch server l during)
    (hfirst : Guarded (lobbyEventStep server) (fun l event => publishesAgain server l event = false)
      l during) (hlaunch : l.pendingLaunch = some launch) :
    ∃ launch', (during.foldl (applyLobbyEvent server) l).pendingLaunch = some launch'
      ∧ LaunchSound launch' ∧ LaunchForward launch launch' := by
  induction during generalizing l launch with
  | nil => exact ⟨launch, hlaunch, hsound launch hlaunch, .refl launch⟩
  | cons event during ih =>
    obtain ⟨⟨hbegins, hpending⟩, hone'⟩ := hone
    obtain ⟨hfirst, hfirst'⟩ := hfirst
    obtain ⟨next, hnext⟩ := Option.isSome_iff_exists.mp hpending
    obtain ⟨hsound', hforward⟩ := launch_forward hsound hfirst
    obtain ⟨last, hlast, hlastSound, hrest⟩ := ih hsound' hone' hfirst' hnext
    exact ⟨last, hlast, hlastSound, (hforward hbegins launch next hlaunch hnext).trans hrest⟩

theorem complete_pendingSound {request : LobbyCreateRequest} {voice : Option RoomVoiceState} :
    PendingSound (request.complete voice) := by
  intro launch hlaunch
  have hnone : (request.complete voice).pendingLaunch = none := by cases voice <;> rfl
  exact absurd (hnone.symm.trans hlaunch) (by simp)

/-- **A launch only moves forward**, stays sorted without repeats and plays once it has begun to
play, as long as its room is not published again while it is playing. The right side is needed: each
such call sets the launch back. -/
theorem launch_forward_iff (server : LobbyServer) (request : LobbyCreateRequest)
    (voice : Option RoomVoiceState) (events : List LobbyEvent) :
    (∀ done during, done ++ during <+: events →
        let l := done.foldl (applyLobbyEvent server) (request.complete voice)
        OneLaunch server l during →
        ∀ launch launch', l.pendingLaunch = some launch →
          (during.foldl (applyLobbyEvent server) l).pendingLaunch = some launch' →
          LaunchForward launch launch' ∧ LaunchSound launch')
      ↔ Guarded (lobbyEventStep server) (fun l event => publishesAgain server l event = false)
        (request.complete voice) events := by
  constructor
  · intro h
    refine guarded_iff_forall_split.mpr fun done event rest hsplit => ?_
    refine Bool.eq_false_iff.mpr fun hagain => ?_
    obtain ⟨hbegins, launch, launch', hlaunch, hlaunch', hplaying, hready⟩ :=
      published_again_falls_back hagain
    have hprefix : done ++ [event] <+: events := ⟨rest, by simp [hsplit]⟩
    have hforward := (h done [event] hprefix ⟨⟨hbegins, by simp [hlaunch']⟩, trivial⟩ launch launch'
      hlaunch hlaunch').1.status
    rw [hplaying, hready] at hforward
    exact absurd hforward (by decide)
  · rintro hguarded done during ⟨rest, rfl⟩ l hone launch launch' hlaunch hlaunch'
    have hrun := run_lobbyEventStep server (request.complete voice) done
    rw [List.append_assoc, guarded_append hrun,
      guarded_append (run_lobbyEventStep server l during)] at hguarded
    obtain ⟨hdone, hduring, -⟩ := hguarded
    have hsound : PendingSound l := by
      refine invariant_run ?_ hdone hrun complete_pendingSound
      intro s event t hs hfirst ht
      obtain rfl := Option.some.inj ht
      exact (launch_forward hs hfirst).1
    obtain ⟨last, hlast, hlastSound, hforward⟩ := launch_forward_run hsound hone hduring hlaunch
    obtain rfl := Option.some.inj (hlast.symm.trans hlaunch')
    exact ⟨hforward, hlastSound⟩

def reportingCapabilities : LobbyClientCapabilities :=
  { LobbyClientCapabilities.default with supportsLobbyGameplayStarted := true }

/-- A host alone in its lobby, which reports when its game runs. -/
def soloHost : LobbyCreateRequest :=
  { sampleLobbyRequest 0 firstUuid with
    hostCapabilities := reportingCapabilities
    initialGame := some sampleCandidate
    proposalId := ⟨7⟩ }

/-- Its game is launched and published, and it reports. -/
def soloLaunch : List LobbyEvent :=
  [.call (.setGameReadiness ⟨0⟩ ⟨7⟩ .ready none 1), .call (.requestGameLaunch ⟨0⟩ ⟨7⟩ 2),
    .call (.publishGameRoom ⟨0⟩ ⟨7⟩ (.generate firstUuid) 3),
    .call (.markGameplayStarted ⟨0⟩ 4 ⟨7⟩ 4)]

/-- The room is published again while the game is played: the launch is back to ready, with the time
at which the game began. -/
theorem launch_falls_back :
    let server : LobbyServer := ⟨id, true⟩
    let playing := soloLaunch.foldl (applyLobbyEvent server) (soloHost.complete none)
    let again := applyLobbyEvent server playing
      (.call (.publishGameRoom ⟨0⟩ ⟨7⟩ (.generate firstUuid) 5))
    playing.pendingLaunch.map (fun launch => (launch.status, launch.gameplayStartedAtMs))
        = some (.playing, some 4)
      ∧ again.pendingLaunch.map (fun launch => (launch.status, launch.gameplayStartedAtMs))
        = some (.ready, some 4) := by
  decide +kernel

/-! ## All reports -/

/-- The players that are present and have not reported. -/
def missingReports (l : Lobby) (launch : LobbyGameLaunchView) : List LobbyPlayerSlot :=
  (l.players.filter (·.isPresent)).filter fun slot =>
    slot.playerIndex.zeroBased ∉ launch.startedPlayerIndexes

/-- The launch plays, with everybody who is present. -/
def EverybodyPlays (l : Lobby) : Prop :=
  ∃ launch, l.pendingLaunch = some launch ∧ launch.status = .playing ∧ missingReports l launch = []

/-- One socket reports with the epoch that it knows. -/
def report (server : LobbyServer) (epoch : Nat) (proposalId : ProposalId)
    (nowMs : ConnectionId → Nat) (l : Lobby) (c : ConnectionId) : Lobby :=
  applyLobbyOp server l (.markGameplayStarted c epoch proposalId (nowMs c))

/-- Everybody plays already, or one report is missing and the epoch has not moved on. -/
def OneReportLeft (l : Lobby) (launch : LobbyGameLaunchView) (epoch : Nat) : Prop :=
  (launch.status = .playing ∧ missingReports l launch = [])
    ∨ (launch.status = .ready ∧ epoch = l.lobbyEpoch ∧ (missingReports l launch).length = 1)

section

variable {proposalId : ProposalId} {times : ConnectionId → Nat}

theorem mem_missingReports : slot ∈ missingReports l launch ↔ slot ∈ l.players ∧ slot.isPresent
    ∧ slot.playerIndex.zeroBased ∉ launch.startedPlayerIndexes := by
  rw [missingReports, List.mem_filter, List.mem_filter, and_assoc, decide_eq_true_eq]

/-- A report that comes while the launch plays, or with another epoch, changes nothing. -/
theorem report_late (hlaunch : l.pendingLaunch = some launch)
    (h : launch.status ≠ .ready ∨ epoch ≠ l.lobbyEpoch) (c : ConnectionId) :
    report server epoch proposalId times l c = l := by
  refine refused_unchanged ?_
  rcases h with hstatus | hepoch
  · simp [accepts, hlaunch, hstatus]
  · simp [accepts, hepoch]

theorem reports_late (hlaunch : l.pendingLaunch = some launch)
    (h : launch.status ≠ .ready ∨ epoch ≠ l.lobbyEpoch) (order : List ConnectionId) :
    order.foldl (report server epoch proposalId times) l = l := by
  induction order with
  | nil => rfl
  | cons c order ih => rw [List.foldl_cons, report_late hlaunch h, ih]

/-- The socket of a seat speaks for it. -/
theorem memberSlot_of_mem (horder : LobbyInOrder l) (hdistinct : (liveSockets l).Nodup)
    (hslot : slot ∈ l.players) (hc : slot.connectionId = some c) : l.memberSlot c = some slot := by
  have hindexes : (l.players.map (·.playerIndex)).Nodup := by
    rw [horder.seating.indexes]
    decide
  have hfound : l.slotForConnection c = some slot := by
    have hsome : (l.slotForConnection c).isSome :=
      List.find?_isSome.mpr ⟨slot, hslot, by simp [hc]⟩
    obtain ⟨other, hother⟩ := Option.isSome_iff_exists.mp hsome
    have hotherMem := List.mem_of_find?_eq_some hother
    have hotherSocket : other.connectionId = some c := by simpa using List.find?_some hother
    rw [hother]
    by_contra hne
    have hapart := liveSockets_nodup_iff.mp hdistinct
    have hsymm : Std.Symm fun a b : LobbyPlayerSlot =>
        ∀ c, a.connectionId = some c → b.connectionId ≠ some c :=
      ⟨fun a b hab c hb ha => hab c ha hb⟩
    exact hapart.forall hotherMem hslot (fun h => hne (congrArg some h)) c hotherSocket hc
  rw [Lobby.memberSlot, hfound]
  exact find?_key hindexes hslot

/-- Everybody who is present can report. -/
def AllCanReport (l : Lobby) : Prop :=
  ∀ slot ∈ l.players, slot.isPresent → slot.capabilities.supportsLobbyGameplayStarted

def presentIndexes (l : Lobby) : List PlayerIndex :=
  (l.players.filter (·.isPresent)).map (·.playerIndex)

theorem expected_of_allCanReport (h : AllCanReport l) :
    l.gameplayStartExpectedPlayerIndexes = some (presentIndexes l) := by
  unfold Lobby.gameplayStartExpectedPlayerIndexes
  refine if_neg fun hsilent => ?_
  obtain ⟨slot, hslot, hcannot⟩ := List.any_eq_true.mp hsilent
  obtain ⟨hmem, hpresent⟩ := List.mem_filter.mp hslot
  exact absurd (h slot hmem hpresent) (by simpa using hcannot)

/-- Where a socket is connected, somebody is present. -/
theorem present_of_socket (horder : LobbyInOrder l) (hslot : slot ∈ l.players)
    (hc : slot.connectionId = some c) : slot.isPresent := by
  have hsome : slot.connectionId.isSome := by simp [hc]
  simp [LobbyPlayerSlot.isPresent, hsome, (horder.seating.fits slot hslot).taken hsome]

/-- A report that is missing is recorded, and the epoch moves on. -/
theorem report_recorded (server : LobbyServer) (times : ConnectionId → Nat)
    (horder : LobbyInOrder l) (hdistinct : (liveSockets l).Nodup) (hcan : AllCanReport l)
    (hlaunch : l.pendingLaunch = some launch) (hready : launch.status = .ready)
    (hslot : slot ∈ missingReports l launch) (hc : slot.connectionId = some c) :
    let l' := report server l.lobbyEpoch launch.proposalId times l c
    ∃ launch', l'.pendingLaunch = some launch' ∧ l'.lobbyEpoch = l.lobbyEpoch + 1
      ∧ l'.players = l.players
      ∧ ReportRecorded (presentIndexes l) slot.playerIndex launch launch' := by
  intro l'
  obtain ⟨hmem, hpresent, hnew⟩ := mem_missingReports.mp hslot
  have hmember := memberSlot_of_mem horder hdistinct hmem hc
  have hselected := horder.playbill.launch launch hlaunch
  have hexpected := expected_of_allCanReport hcan
  have hstep := applyLobbyOp_step server l
    (.markGameplayStarted c l.lobbyEpoch launch.proposalId (times c))
  have hl' : applyLobbyOp server l
      (.markGameplayStarted c l.lobbyEpoch launch.proposalId (times c)) = l' := rfl
  rw [hl'] at hstep
  clear_value l'
  cases hstep with
  | refused hrefused =>
    have haccepts : accepts server l
        (.markGameplayStarted c l.lobbyEpoch launch.proposalId (times c)) := by
      simp [accepts, hmember, hcan slot hmem hpresent, hlaunch, hready, hnew, hselected, hexpected]
    exact absurd (hrefused.symm.trans haccepts) (by simp)
  | started hslot' _ _ hexpected' hlaunch' _ hstarted =>
    obtain rfl := Option.some.inj (hmember.symm.trans hslot')
    obtain rfl := Option.some.inj (hexpected.symm.trans hexpected')
    obtain rfl := Option.some.inj (hlaunch.symm.trans hlaunch')
    exact ⟨_, rfl, rfl, rfl, markPlayerStarted_recorded hstarted⟩
  | noted hop => exact absurd hop (by simp [notes])

/-- With the epoch at which the room was published, of all reports at most one is recorded: the
first one that is missing. -/
theorem reports_fold (server : LobbyServer) (times : ConnectionId → Nat) (horder : LobbyInOrder l)
    (hdistinct : (liveSockets l).Nodup) (hcan : AllCanReport l)
    (hlaunch : l.pendingLaunch = some launch) (hready : launch.status = .ready)
    {order : List ConnectionId} (hlive : ∀ c ∈ order, c ∈ liveSockets l) :
    let after := order.foldl (report server l.lobbyEpoch launch.proposalId times) l
    (after = l ∧ ∀ slot ∈ missingReports l launch, ∀ c ∈ order, slot.connectionId ≠ some c)
      ∨ ∃ c, ∃ slot ∈ missingReports l launch, slot.connectionId = some c
        ∧ after = report server l.lobbyEpoch launch.proposalId times l c := by
  induction order with
  | nil => exact .inl ⟨rfl, fun _ _ _ h => absurd h (by simp)⟩
  | cons c order ih =>
    obtain ⟨slot, hslot, hc⟩ := List.mem_filterMap.mp (hlive c List.mem_cons_self)
    by_cases hmissing : slot ∈ missingReports l launch
    · -- the report is recorded, and the epoch of all others is stale
      obtain ⟨launch', hlaunch', hepoch, -, -⟩ :=
        report_recorded server times horder hdistinct hcan hlaunch hready hmissing hc
      refine .inr ⟨c, slot, hmissing, hc, ?_⟩
      exact reports_late hlaunch' (.inr (by omega)) order
    · have hknown : report server l.lobbyEpoch launch.proposalId times l c = l := by
        have hpresent := present_of_socket horder hslot hc
        have hstarted : slot.playerIndex.zeroBased ∈ launch.startedPlayerIndexes := by
          by_contra hnew
          exact hmissing (mem_missingReports.mpr ⟨hslot, hpresent, hnew⟩)
        refine refused_unchanged ?_
        simp [accepts, memberSlot_of_mem horder hdistinct hslot hc, hlaunch, hstarted]
      intro after
      have hrest : after = order.foldl (report server l.lobbyEpoch launch.proposalId times) l :=
        congrArg (order.foldl _) hknown
      rw [hrest]
      refine (ih fun c hc => hlive c (List.mem_cons_of_mem _ hc)).imp_left ?_
      rintro ⟨hsame, hothers⟩
      refine ⟨hsame, fun other hother c' hc' => ?_⟩
      rcases List.mem_cons.mp hc' with rfl | hlater
      · intro hsocket
        have hself := memberSlot_of_mem horder hdistinct (mem_missingReports.mp hother).1 hsocket
        rw [memberSlot_of_mem horder hdistinct hslot hc] at hself
        exact hmissing (Option.some.inj hself ▸ hother)
      · exact hothers other hother c' hlater

theorem missingReports_nodup (horder : LobbyInOrder l) : (missingReports l launch).Nodup := by
  refine ((List.Nodup.of_map (·.playerIndex) ?_).filter _).filter _
  rw [horder.seating.indexes]
  decide

/-- The one report that is recorded starts the game exactly if no other one is missing. -/
theorem recorded_plays_iff (horder : LobbyInOrder l) (hslot : slot ∈ missingReports l launch)
    (hplayers : l'.players = l.players) (hlaunch' : l'.pendingLaunch = some launch')
    (h : ReportRecorded (presentIndexes l) slot.playerIndex launch launch') :
    EverybodyPlays l' ↔ (missingReports l launch).length = 1 := by
  have hindexes : (l.players.map (·.playerIndex.zeroBased)).Nodup := by
    have hnumbers := congrArg (List.map PlayerIndex.zeroBased) horder.seating.indexes
    rw [List.map_map] at hnumbers
    exact hnumbers ▸ by decide
  obtain ⟨hmem, hpresent, -⟩ := mem_missingReports.mp hslot
  rw [length_eq_one_iff_forall (missingReports_nodup horder) hslot]
  constructor
  · rintro ⟨launch'', hsame, -, hnone⟩ other hother
    obtain rfl := Option.some.inj (hlaunch'.symm.trans hsame)
    obtain ⟨hotherMem, hotherPresent, hotherNew⟩ := mem_missingReports.mp hother
    have hreported : other.playerIndex.zeroBased ∈ launch'.startedPlayerIndexes := by
      by_contra hnew
      have hmissing : other ∈ missingReports l' launch' :=
        mem_missingReports.mpr ⟨hplayers ▸ hotherMem, hotherPresent, hnew⟩
      exact absurd hmissing (by simp [hnone])
    have hindex := (h.mem_started.mp hreported).resolve_left hotherNew
    exact List.inj_on_of_nodup_map hindexes hotherMem hmem hindex
  · intro honly
    have hall : ∀ other ∈ l.players, other.isPresent →
        other.playerIndex.zeroBased ∈ launch'.startedPlayerIndexes := by
      intro other hother hotherPresent
      rw [h.mem_started]
      by_cases hnew : other.playerIndex.zeroBased ∈ launch.startedPlayerIndexes
      · exact .inl hnew
      · exact .inr (congrArg (·.playerIndex.zeroBased)
          (honly other (mem_missingReports.mpr ⟨hother, hotherPresent, hnew⟩)))
    refine ⟨launch', hlaunch', ?_, ?_⟩
    · refine (h.outcome.resolve_right fun hless => hless.2.2 ⟨?_, ?_⟩).1
      · exact List.ne_nil_of_mem (List.mem_map_of_mem (List.mem_filter.mpr ⟨hmem, hpresent⟩))
      intro p hp
      obtain ⟨other, hother, rfl⟩ := List.mem_map.mp hp
      obtain ⟨hotherMem, hotherPresent⟩ := List.mem_filter.mp hother
      exact hall other hotherMem hotherPresent
    · refine List.eq_nil_iff_forall_not_mem.mpr fun other hother => ?_
      obtain ⟨hotherMem, hotherPresent, hnew⟩ := mem_missingReports.mp hother
      exact hnew (hall other (hplayers ▸ hotherMem) hotherPresent)

/-- What all reports together lead to, in whatever order they come. -/
theorem reports_play_iff (server : LobbyServer) (times : ConnectionId → Nat)
    (horder : LobbyInOrder l) (hdistinct : (liveSockets l).Nodup) (hcan : AllCanReport l)
    (hlaunch : l.pendingLaunch = some launch) {order : List ConnectionId}
    (hperm : order.Perm (liveSockets l)) :
    EverybodyPlays (order.foldl (report server epoch launch.proposalId times) l)
      ↔ OneReportLeft l launch epoch := by
  have hplays : EverybodyPlays l ↔ launch.status = .playing ∧ missingReports l launch = [] := by
    constructor
    · rintro ⟨launch', hsame, hstatus, hnone⟩
      obtain rfl := Option.some.inj (hlaunch.symm.trans hsame)
      exact ⟨hstatus, hnone⟩
    · rintro ⟨hstatus, hnone⟩
      exact ⟨launch, hlaunch, hstatus, hnone⟩
  by_cases hlate : launch.status ≠ .ready ∨ epoch ≠ l.lobbyEpoch
  · rw [reports_late hlaunch hlate, hplays, OneReportLeft, or_iff_left]
    rintro ⟨hready, hepoch, -⟩
    exact hlate.elim (fun h => h hready) (fun h => h hepoch)
  · obtain ⟨hready, rfl⟩ : launch.status = .ready ∧ epoch = l.lobbyEpoch := by
      simpa [not_or] using hlate
    have hleft : OneReportLeft l launch l.lobbyEpoch ↔ (missingReports l launch).length = 1 := by
      simp [OneReportLeft, hready]
    rw [hleft]
    rcases reports_fold server times horder hdistinct hcan hlaunch hready
      (fun c hc => hperm.mem_iff.mp hc) with ⟨hsame, hothers⟩ | ⟨c, slot, hslot, hc, hafter⟩
    · -- every socket has reported, so nobody who is present is missing
      have hnone : missingReports l launch = [] := by
        refine List.eq_nil_iff_forall_not_mem.mpr fun slot hslot => ?_
        obtain ⟨hmem, hpresent, -⟩ := mem_missingReports.mp hslot
        rw [LobbyPlayerSlot.isPresent, Bool.and_eq_true] at hpresent
        obtain ⟨c, hc⟩ := Option.isSome_iff_exists.mp hpresent.2
        exact hothers slot hslot c
          (hperm.mem_iff.mpr (List.mem_filterMap.mpr ⟨slot, hmem, hc⟩)) hc
      rw [hsame, hplays]
      simp [hready, hnone]
    · obtain ⟨launch', hlaunch', -, hplayers, hrecorded⟩ :=
        report_recorded server times horder hdistinct hcan hlaunch hready hslot hc
      rw [hafter]
      exact recorded_plays_iff horder hslot hplayers hlaunch' hrecorded

end

/-- **When everybody's reports start the game.** Everybody present in a lobby with a launch can
report, and reports once, with the epoch at which the room was published. In whatever order the
reports come, everybody is recorded and the launch plays exactly if that is so already, or if one
report is missing and the lobby still has that epoch. -/
theorem reports_start_play_iff (server : LobbyServer) (request : LobbyCreateRequest)
    (voice : Option RoomVoiceState) (events : List LobbyEvent)
    (hfresh : Guarded (lobbyEventStep server) (fun l event => bringsFreshSocket l event)
      (request.complete voice) events) (epoch : Nat) (times : ConnectionId → Nat) :
    let l := events.foldl (applyLobbyEvent server) (request.complete voice)
    ∀ launch, l.pendingLaunch = some launch → AllCanReport l →
      ∀ order : List ConnectionId, order.Perm (liveSockets l) →
        (EverybodyPlays (order.foldl (report server epoch launch.proposalId times) l)
          ↔ OneReportLeft l launch epoch) := by
  intro l launch hlaunch hcan order hperm
  have horder : LobbyInOrder l := history_inOrder server events complete_inOrder
  have hdistinct : (liveSockets l).Nodup := history_liveSockets hfresh
  exact reports_play_iff server times horder hdistinct hcan hlaunch hperm

/-- A host and a guest who both report when their games run. -/
def duoLaunch : List LobbyEvent :=
  .call (.join sampleGuest ⟨1⟩ none reportingCapabilities "t1".toList 1)
    :: .call (.setGameReadiness ⟨1⟩ ⟨7⟩ .ready none 1) :: soloLaunch.take 3

/-- One report is missing: that of a host alone, and that of a guest after its host has reported. -/
theorem reports_start_play_last :
    let server : LobbyServer := ⟨id, true⟩
    let lobbyAfter := fun events : List LobbyEvent =>
      events.foldl (applyLobbyEvent server) (soloHost.complete none)
    let solo := lobbyAfter (soloLaunch.take 3)
    let duo := lobbyAfter (duoLaunch ++ [.call (.markGameplayStarted ⟨0⟩ 6 ⟨7⟩ 5)])
    solo.lobbyEpoch = 4 ∧ liveSockets solo = [⟨0⟩]
      ∧ EverybodyPlays ([⟨0⟩].foldl (report server 4 ⟨7⟩ fun _ => 6) solo)
      ∧ duo.lobbyEpoch = 7 ∧ liveSockets duo = [⟨0⟩, ⟨1⟩]
      ∧ EverybodyPlays ([⟨0⟩, ⟨1⟩].foldl (report server 7 ⟨7⟩ fun _ => 6) duo) := by
  intro server lobbyAfter solo duo
  have hplays : ∀ (events : List LobbyEvent) (epoch : Nat) (order : List ConnectionId),
      (let l := lobbyAfter events
        let launch := l.pendingLaunch.getD (.new ⟨0⟩ ⟨0⟩ 0)
        l.pendingLaunch = some launch ∧ launch.proposalId = ⟨7⟩ ∧ launch.status = .ready
          ∧ epoch = l.lobbyEpoch ∧ (missingReports l launch).length = 1 ∧ order = liveSockets l
          ∧ (l.players.all fun slot =>
            !slot.isPresent || slot.capabilities.supportsLobbyGameplayStarted)
          ∧ Guarded (lobbyEventStep server) (fun l event => bringsFreshSocket l event)
            (soloHost.complete none) events) →
      EverybodyPlays (order.foldl (report server epoch ⟨7⟩ fun _ => 6) (lobbyAfter events)) := by
    rintro events epoch order
      ⟨hlaunch, hproposal, hready, hepoch, hmissing, horder, hcan, hfresh⟩
    have hreports : AllCanReport (lobbyAfter events) := by
      intro slot hslot hpresent
      simpa [hpresent] using List.all_eq_true.mp hcan slot hslot
    rw [← hproposal]
    exact (reports_start_play_iff server soloHost none events hfresh epoch _ _ hlaunch hreports
      order
      (List.Perm.of_eq horder)).mpr (.inr ⟨hready, hepoch, hmissing⟩)
  have hsolo := hplays (soloLaunch.take 3) 4 [⟨0⟩] (by decide +kernel)
  have hduo := hplays (duoLaunch ++ [.call (.markGameplayStarted ⟨0⟩ 6 ⟨7⟩ 5)]) 7 [⟨0⟩, ⟨1⟩]
    (by decide +kernel)
  exact ⟨by decide +kernel, by decide +kernel, hsolo, by decide +kernel, by decide +kernel, hduo⟩

/-- The room is published at epoch 6. Whoever reports first with that epoch is recorded and the
other is not, and the game never starts. -/
theorem reports_lost :
    let server : LobbyServer := ⟨id, true⟩
    let l := duoLaunch.foldl (applyLobbyEvent server) (soloHost.complete none)
    l.lobbyEpoch = 6 ∧ l.pendingLaunch.map (·.status) = some .ready ∧ liveSockets l = [⟨0⟩, ⟨1⟩]
      ∧ ∀ order ∈ [[⟨0⟩, ⟨1⟩], [⟨1⟩, ⟨0⟩]],
        let after := order.foldl (report server 6 ⟨7⟩ fun _ => 5) l
        after.pendingLaunch.map (fun launch => (launch.status, launch.startedPlayerIndexes.length))
          = some (.ready, 1) := by
  decide +kernel

end NetplayRelay.Proof
