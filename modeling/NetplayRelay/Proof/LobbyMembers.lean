import NetplayRelay.Lib.OneTime
import NetplayRelay.Proof.LobbyEpochs

/-!
# Who is gone stays gone

A member of a lobby acts through its socket and comes back with its resume token. Both are lost
when the seat is emptied, and the socket also when the same member takes the seat again. Seats only
ever get sockets and tokens that a call brings, so with new ones each time whatever was lost never
comes back: an old socket is not let through by any operation, and an old token opens no seat,
whoever sits there by then.

The library's rule for one-time tokens gives the histories. It needs what one call does to a seat
(`members_step`), and that no two seats share a socket or a token (`MembersApart`).
-/

namespace NetplayRelay.Proof

open Lib Protocol Rooms Auth Lobbies

variable {server : LobbyServer} {l l' : Lobby} {op : LobbyOp} {slot slot' : LobbyPlayerSlot}
  {c : ConnectionId} {x : ResumeTokenHash} {β : Type} {nowMs : Nat} {request : LobbyCreateRequest}
  {later : List LobbyOp} {voice : Option RoomVoiceState}

/-- The socket a call gives to a seat. -/
def brings : LobbyOp → Option ConnectionId
  | .join _ c _ _ _ _ => some c
  | .reconnect request => some request.connectionId
  | _ => none

/-- The resume token a call gives to a seat. A reconnect presents one and issues none. -/
def issuesToken : LobbyOp → Option Text
  | .join _ _ _ _ resumeToken _ => some resumeToken
  | _ => none

/-- The socket a call comes from. -/
def speaksFor : LobbyOp → Option ConnectionId
  | .join _ _ _ _ _ _ | .reconnect _ => none
  | .disconnect c _ | .leave c _ | .removePlayer c _ _ _ | .selectGame c _ _ _
  | .setGameReadiness c _ _ _ _ | .requestGameLaunch c _ _ | .prepareRomRelayTransfer c _ _ _ _
  | .prepareStartupStateRelayTransfer c _ _ _ _ _ | .publishGameRoom c _ _ _
  | .markGameplayStarted c _ _ _ | .sendChat c _ _ | .refreshVoiceGrant c _ _ _
  | .recordActivity c _ _ => some c
  | .returnFromGame request => some request.connectionId

def HoldsSocket (l : Lobby) (c : ConnectionId) : Prop :=
  ∃ slot ∈ l.players, slot.connectionId = some c

def HoldsToken (l : Lobby) (x : ResumeTokenHash) : Prop :=
  ∃ slot ∈ l.players, slot.resumeTokenHash = some x

/-! ## What a call does to the seats -/

/-- A seat may lose its socket and its token. -/
structure SeatSheds (slot slot' : LobbyPlayerSlot) : Prop where
  playerIndex : slot'.playerIndex = slot.playerIndex
  socket : slot'.connectionId = slot.connectionId ∨ slot'.connectionId = none
  token : slot'.resumeTokenHash = slot.resumeTokenHash ∨ slot'.resumeTokenHash = none

/-- A seat is taken with the socket that the call brings, and with its token or the old one. -/
structure SeatTaken (server : LobbyServer) (op : LobbyOp) (slot slot' : LobbyPlayerSlot) :
    Prop where
  playerIndex : slot'.playerIndex = slot.playerIndex
  socket : ∃ c, brings op = some c ∧ slot'.connectionId = some c
  token : (∃ token, issuesToken op = some token
      ∧ slot'.resumeTokenHash = some (server.hashResumeToken token))
    ∨ slot'.resumeTokenHash = slot.resumeTokenHash

theorem SeatSheds.refl (slot : LobbyPlayerSlot) : SeatSheds slot slot := ⟨rfl, .inl rfl, .inl rfl⟩

theorem sheds_same (h : l'.players = l.players) : List.Forall₂ SeatSheds l.players l'.players := by
  rw [h]
  exact List.forall₂_same.mpr fun slot _ => .refl slot

theorem sheds_vacate (p : PlayerIndex) : List.Forall₂ SeatSheds l.players (l.vacate p).players := by
  refine forall₂_updateFirst SeatSheds.refl fun slot hslot => ?_
  have hp : slot.playerIndex = p := by simpa using List.find?_some hslot
  exact ⟨hp.symm, .inr rfl, .inr rfl⟩

/-- A call sheds sockets and tokens, or one seat is taken. -/
theorem members_step (h : LobbyStep server l op l') :
    List.Forall₂ SeatSheds l.players l'.players
      ∨ ∃ test edit slot, l'.players = updateFirst test edit l.players
        ∧ l.players.find? test = some slot ∧ SeatTaken server op slot (edit slot) := by
  cases h with
  | refreshed _ hslot | joined _ _ hslot =>
    exact .inr ⟨_, _, _, rfl, hslot, rfl, ⟨_, rfl, rfl⟩, .inl ⟨_, rfl, rfl⟩⟩
  | reconnected _ _ hslot _ htoken =>
    exact .inr ⟨_, _, _, rfl, hslot, rfl, ⟨_, rfl, rfl⟩, .inr htoken.symm⟩
  | disconnected _ =>
    exact .inl (forall₂_updateFirst SeatSheds.refl fun _ _ => ⟨rfl, .inr rfl, .inl rfl⟩)
  | closed _ =>
    exact .inl (forall₂_updateWhere SeatSheds.refl fun _ _ _ => ⟨rfl, .inr rfl, .inl rfl⟩)
  | left _ _ | removed _ _ _ _ _ _ _ => exact .inl (sheds_vacate _)
  | _ => exact .inl (sheds_same rfl)

/-- A seat after a call, and what it was before. -/
theorem seat_step (h : LobbyStep server l op l') (hslot : slot' ∈ l'.players) :
    ∃ slot ∈ l.players, SeatSheds slot slot' ∨ SeatTaken server op slot slot' := by
  rcases members_step h with hsheds | ⟨test, edit, taken, hplayers, hfound, htaken⟩
  · obtain ⟨slot, hmem, hshed⟩ := forall₂_mem hsheds hslot
    exact ⟨slot, hmem, .inl hshed⟩
  have hmoves : List.Forall₂ (fun a b => SeatSheds a b ∨ SeatTaken server op a b) l.players
      l'.players := by
    rw [hplayers]
    refine forall₂_updateFirst (fun a => .inl (.refl a)) fun a ha => ?_
    obtain rfl := Option.some.inj (ha.symm.trans hfound)
    exact .inr htaken
  exact forall₂_mem hmoves hslot

theorem holdsSocket_step (h : LobbyStep server l op l') (hc : HoldsSocket l' c) :
    HoldsSocket l c ∨ brings op = some c := by
  obtain ⟨slot', hslot', hsocket⟩ := hc
  obtain ⟨slot, hslot, hshed | htaken⟩ := seat_step h hslot'
  · rcases hshed.socket with hsame | hnone
    · exact .inl ⟨slot, hslot, hsame.symm.trans hsocket⟩
    · exact absurd (hnone.symm.trans hsocket) (by simp)
  · obtain ⟨c', hbrings, hc'⟩ := htaken.socket
    rw [hbrings]
    exact .inr (hc'.symm.trans hsocket)

theorem holdsToken_step (h : LobbyStep server l op l') (hx : HoldsToken l' x) :
    HoldsToken l x ∨ ∃ token, issuesToken op = some token ∧ server.hashResumeToken token = x := by
  obtain ⟨slot', hslot', htoken⟩ := hx
  obtain ⟨slot, hslot, hshed | htaken⟩ := seat_step h hslot'
  · rcases hshed.token with hsame | hnone
    · exact .inl ⟨slot, hslot, hsame.symm.trans htoken⟩
    · exact absurd (hnone.symm.trans htoken) (by simp)
  · rcases htaken.token with ⟨token, hissued, hnew⟩ | hsame
    · exact .inr ⟨token, hissued, Option.some.inj (hnew.symm.trans htoken)⟩
    · exact .inl ⟨slot, hslot, hsame.symm.trans htoken⟩

/-! ## Seats share nothing -/

structure MembersApart (a b : LobbyPlayerSlot) : Prop where
  playerIndex : a.playerIndex ≠ b.playerIndex
  socket : ∀ c, a.connectionId = some c → b.connectionId ≠ some c
  token : ∀ x, a.resumeTokenHash = some x → b.resumeTokenHash ≠ some x

instance : Std.Symm MembersApart :=
  ⟨fun _ _ h =>
    ⟨h.playerIndex.symm, fun c hb ha => h.socket c ha hb, fun x hb ha => h.token x ha hb⟩⟩

def SeatsApart (l : Lobby) : Prop := l.players.Pairwise MembersApart

theorem SeatsApart.nodup (h : SeatsApart l) : (l.players.map (·.playerIndex)).Nodup :=
  List.pairwise_map.mpr (h.imp MembersApart.playerIndex)

/-- New sockets and new tokens keep the seats apart. -/
theorem seatsApart_step (h : LobbyStep server l op l') (hapart : SeatsApart l)
    (hsocket : ∀ c, brings op = some c → ¬HoldsSocket l c)
    (htoken : ∀ token, issuesToken op = some token → ¬HoldsToken l (server.hashResumeToken token)) :
    SeatsApart l' := by
  rcases members_step h with hsheds | ⟨test, edit, taken, hplayers, hfound, htaken⟩
  · refine pairwise_forall₂ ?_ hsheds hapart
    intro a a' b b' ha hb hab
    refine ⟨by rw [ha.playerIndex, hb.playerIndex]; exact hab.playerIndex, ?_, ?_⟩
    · intro c hac hbc
      have hac' := ha.socket.resolve_right (by simp [hac])
      have hbc' := hb.socket.resolve_right (by simp [hbc])
      exact hab.socket c (hac'.symm.trans hac) (hbc'.symm.trans hbc)
    · intro x hax hbx
      have hax' := ha.token.resolve_right (by simp [hax])
      have hbx' := hb.token.resolve_right (by simp [hbx])
      exact hab.token x (hax'.symm.trans hax) (hbx'.symm.trans hbx)
  · rw [SeatsApart, hplayers]
    refine pairwise_updateFirst (fun h => Std.Symm.symm _ _ h) ?_ hapart
    intro a b ha hb hab
    obtain rfl := Option.some.inj (ha.symm.trans hfound)
    refine ⟨by rw [htaken.playerIndex]; exact hab.playerIndex, ?_, ?_⟩
    · intro c hac hbc
      obtain ⟨c', hbrings, hc'⟩ := htaken.socket
      obtain rfl := Option.some.inj (hc'.symm.trans hac)
      exact hsocket c' hbrings ⟨b, hb, hbc⟩
    · intro x hax hbx
      rcases htaken.token with ⟨token, hissued, hnew⟩ | hsame
      · obtain rfl := Option.some.inj (hnew.symm.trans hax)
        exact htoken token hissued ⟨b, hb, hbx⟩
      · exact hab.token x (hsame.symm.trans hax) hbx

/-! ## Losing a seat or a socket -/

/-- The call takes this socket from its seat: its holder leaves as a guest, is removed, or takes the
seat again with another socket. -/
def losesSocket (server : LobbyServer) (l : Lobby) (c : ConnectionId) : LobbyOp → Bool
  | .leave c' _ => c' = c && (l.memberSlot c).any (·.role ≠ .host)
  | .removePlayer requester lobbyEpoch target nowMs =>
    (removeLobbyPlayer server l requester lobbyEpoch target nowMs).1.isOk
      && (l.slot target).any (·.connectionId = some c)
  | .join license _ _ _ _ _ => l.status ≠ .closed
    && (l.players.find? (·.belongsTo license)).any (·.connectionId = some c)
  | .reconnect request => (l.reconnectPlayer server.hashResumeToken request).1.isOk
    && (l.slot request.playerIndex).any (·.connectionId = some c)
  | _ => false

/-- The call takes this resume token from its seat: its holder leaves as a guest or is removed. -/
def losesToken (server : LobbyServer) (l : Lobby) (x : ResumeTokenHash) : LobbyOp → Bool
  | .leave c _ => (l.memberSlot c).any fun slot =>
    slot.role ≠ .host && slot.resumeTokenHash = some x
  | .removePlayer requester lobbyEpoch target nowMs =>
    (removeLobbyPlayer server l requester lobbyEpoch target nowMs).1.isOk
      && (l.slot target).any (·.resumeTokenHash = some x)
  | _ => false

/-- Where seats are apart, what an edit takes from a seat is held by no other one. -/
theorem gone_after_edit {k : LobbyPlayerSlot → Option β} {key : β} {test : LobbyPlayerSlot → Bool}
    {edit : LobbyPlayerSlot → LobbyPlayerSlot} (hapart : SeatsApart l)
    (hk : ∀ a b, MembersApart a b → k a = some key → k b ≠ some key)
    (hslot : l.players.find? test = some slot) (hheld : k slot = some key)
    (hgone : k (edit slot) ≠ some key) : ∀ b ∈ updateFirst test edit l.players, k b ≠ some key := by
  have hmem := List.mem_of_find?_eq_some hslot
  have hfound : l.players.find? (fun a => a.playerIndex = slot.playerIndex) = some slot :=
    find?_key hapart.nodup hmem
  rw [updateFirst_congr hslot hfound]
  intro b hb
  obtain ⟨a, ha, rfl⟩ := mem_updateFirst_key hapart.nodup hb
  by_cases hp : a.playerIndex = slot.playerIndex
  · obtain rfl : a = slot := by
      by_contra hne
      exact (hapart.forall ha hmem hne).playerIndex hp
    rwa [if_pos hp]
  · rw [if_neg hp]
    have hne : slot ≠ a := fun h => hp (congrArg (·.playerIndex) h.symm)
    exact hk slot a (hapart.forall hmem ha hne) hheld

/-- The member that a socket speaks for holds it. -/
theorem memberSlot_socket (hapart : SeatsApart l) (h : l.memberSlot c = some slot) :
    slot.connectionId = some c := by
  obtain ⟨slot₀, hslot₀, hslot⟩ := Option.bind_eq_some_iff.mp h
  have hmem := List.mem_of_find?_eq_some hslot₀
  have hfound : l.players.find? (fun a => a.playerIndex = slot₀.playerIndex) = some slot₀ :=
    find?_key hapart.nodup hmem
  obtain rfl := Option.some.inj (hfound.symm.trans hslot)
  simpa using List.find?_some hslot₀

theorem memberSlot_found (h : l.memberSlot c = some slot) :
    l.slot slot.playerIndex = some slot := by
  obtain ⟨slot₀, _, hslot⟩ := Option.bind_eq_some_iff.mp h
  have hp : slot.playerIndex = slot₀.playerIndex := by simpa using List.find?_some hslot
  rw [hp]
  exact hslot

/-- An emptied seat holds nothing, and nothing of it is held elsewhere. -/
theorem gone_after_vacate {k : LobbyPlayerSlot → Option β} {key : β} {p : PlayerIndex}
    (hapart : SeatsApart l) (hk : ∀ a b, MembersApart a b → k a = some key → k b ≠ some key)
    (hempty : k (.empty p) = none) (hslot : l.slot p = some slot) (hheld : k slot = some key) :
    ∀ b ∈ (l.vacate p).players, k b ≠ some key := by
  have hgone : k (LobbyPlayerSlot.empty p) ≠ some key := by rw [hempty]; simp
  have hall : ∀ b ∈ updateFirst (fun a => a.playerIndex = p) (fun _ => .empty p) l.players,
      k b ≠ some key := gone_after_edit hapart hk hslot hheld hgone
  exact hall

theorem losesSocket_gone (hapart : SeatsApart l)
    (hfresh : ∀ c, brings op = some c → ¬HoldsSocket l c) (h : losesSocket server l c op) :
    ¬HoldsSocket (applyLobbyOp server l op) c := by
  suffices hgone : ∀ b ∈ (applyLobbyOp server l op).players, b.connectionId ≠ some c by
    rintro ⟨b, hb, hc⟩
    exact hgone b hb hc
  have hk : ∀ a b, MembersApart a b → a.connectionId = some c → b.connectionId ≠ some c :=
    fun a b hab => hab.socket c
  have hstep := applyLobbyOp_step server l op
  generalize applyLobbyOp server l op = l' at hstep
  cases op with
  | leave c' nowMs =>
    simp only [losesSocket, Bool.and_eq_true, decide_eq_true_eq, ne_eq] at h
    obtain ⟨rfl, hguest⟩ := h
    obtain ⟨slot, hslot, hrole⟩ := (Option.any_eq_true _ _).mp hguest
    cases hstep with
    | refused hrefused => exact absurd hrefused (by simp [accepts, hslot])
    | closed hhost => simp_all [hosts]
    | left hslot' _ =>
      have hsocket := memberSlot_socket hapart hslot'
      exact gone_after_vacate hapart hk rfl (memberSlot_found hslot') hsocket
    | noted hop => exact absurd hop (by simp [notes])
  | removePlayer requester lobbyEpoch target nowMs =>
    simp only [losesSocket, Bool.and_eq_true, removePlayer_answered.isOk] at h
    obtain ⟨slot, hslot, hc⟩ := (Option.any_eq_true _ _).mp h.2
    cases hstep with
    | refused hrefused => exact absurd h.1 (by simp [hrefused])
    | removed => exact gone_after_vacate hapart hk rfl hslot (by simpa using hc)
    | noted hop => exact absurd hop (by simp [notes])
  | join license c' displayName capabilities resumeToken nowMs =>
    simp only [losesSocket, Bool.and_eq_true, decide_eq_true_eq] at h
    obtain ⟨slot, hslot, hc⟩ := (Option.any_eq_true _ _).mp h.2
    have hheld : slot.connectionId = some c := by simpa using hc
    have hnew : c' ≠ c := by
      rintro rfl
      exact hfresh c' rfl ⟨slot, List.mem_of_find?_eq_some hslot, hheld⟩
    cases hstep with
    | refused hrefused => exact absurd hrefused (by simp [accepts, h.1, any_of_find? hslot])
    | refreshed _ hslot' =>
      exact gone_after_edit hapart hk hslot hheld (by simpa [LobbyPlayerSlot.occupy] using hnew)
    | joined _ hnone => exact absurd (hnone.symm.trans hslot) (by simp)
    | noted hop => exact absurd hop (by simp [notes])
  | reconnect request =>
    simp only [losesSocket, Bool.and_eq_true, reconnectPlayer_answered.isOk] at h
    obtain ⟨slot, hslot, hc⟩ := (Option.any_eq_true _ _).mp h.2
    have hheld : slot.connectionId = some c := by simpa using hc
    have hnew : request.connectionId ≠ c := by
      intro hsame
      exact hfresh request.connectionId rfl
        ⟨slot, List.mem_of_find?_eq_some hslot, hsame ▸ hheld⟩
    cases hstep with
    | refused hrefused => exact absurd h.1 (by simp [hrefused])
    | reconnected =>
      exact gone_after_edit hapart hk hslot hheld (by simpa [LobbyPlayerSlot.occupy] using hnew)
    | noted hop => exact absurd hop (by simp [notes])
  | _ => exact absurd h (by simp [losesSocket])

theorem losesSocket_held (hapart : SeatsApart l) (h : losesSocket server l c op) :
    HoldsSocket l c := by
  suffices hslot : ∃ slot ∈ l.players, slot.connectionId = some c from hslot
  cases op with
  | leave c' nowMs =>
    simp only [losesSocket, Bool.and_eq_true, decide_eq_true_eq] at h
    obtain ⟨slot, hslot, _⟩ := (Option.any_eq_true _ _).mp h.2
    exact ⟨slot, List.mem_of_find?_eq_some (memberSlot_found hslot), memberSlot_socket hapart hslot⟩
  | removePlayer | join | reconnect =>
    simp only [losesSocket, Bool.and_eq_true] at h
    obtain ⟨slot, hslot, hc⟩ := (Option.any_eq_true _ _).mp h.2
    exact ⟨slot, List.mem_of_find?_eq_some hslot, by simpa using hc⟩
  | _ => exact absurd h (by simp [losesSocket])

theorem losesToken_held (h : losesToken server l x op) : HoldsToken l x := by
  cases op with
  | leave c nowMs =>
    obtain ⟨slot, hslot, hterms⟩ := (Option.any_eq_true _ _).mp h
    simp only [Bool.and_eq_true, decide_eq_true_eq] at hterms
    exact ⟨slot, List.mem_of_find?_eq_some (memberSlot_found hslot), hterms.2⟩
  | removePlayer =>
    simp only [losesToken, Bool.and_eq_true] at h
    obtain ⟨slot, hslot, hx⟩ := (Option.any_eq_true _ _).mp h.2
    exact ⟨slot, List.mem_of_find?_eq_some hslot, by simpa using hx⟩
  | _ => exact absurd h (by simp [losesToken])

theorem losesToken_gone (hapart : SeatsApart l) (h : losesToken server l x op) :
    ¬HoldsToken (applyLobbyOp server l op) x := by
  suffices hgone : ∀ b ∈ (applyLobbyOp server l op).players, b.resumeTokenHash ≠ some x by
    rintro ⟨b, hb, hx⟩
    exact hgone b hb hx
  have hk : ∀ a b, MembersApart a b → a.resumeTokenHash = some x → b.resumeTokenHash ≠ some x :=
    fun a b hab => hab.token x
  have hstep := applyLobbyOp_step server l op
  generalize applyLobbyOp server l op = l' at hstep
  cases op with
  | leave c nowMs =>
    obtain ⟨slot, hslot, hterms⟩ := (Option.any_eq_true _ _).mp h
    simp only [ne_eq, Bool.and_eq_true, decide_eq_true_eq] at hterms
    cases hstep with
    | refused hrefused => exact absurd hrefused (by simp [accepts, hslot])
    | closed hhost => simp_all [hosts]
    | left hslot' _ =>
      obtain rfl := Option.some.inj (hslot.symm.trans hslot')
      exact gone_after_vacate hapart hk rfl (memberSlot_found hslot) hterms.2
    | noted hop => exact absurd hop (by simp [notes])
  | removePlayer requester lobbyEpoch target nowMs =>
    simp only [losesToken, Bool.and_eq_true, removePlayer_answered.isOk] at h
    obtain ⟨slot, hslot, hx⟩ := (Option.any_eq_true _ _).mp h.2
    cases hstep with
    | refused hrefused => exact absurd h.1 (by simp [hrefused])
    | removed => exact gone_after_vacate hapart hk rfl hslot (by simpa using hx)
    | noted hop => exact absurd hop (by simp [notes])
  | _ => exact absurd h (by simp [losesToken])

/-! ## Whole histories -/

/-- A lobby takes one call after the other. -/
def lobbyStep (server : LobbyServer) (l : Lobby) (op : LobbyOp) : Option Lobby :=
  some (applyLobbyOp server l op)

/-- Every socket and every token that a call brings is new to the lobby. -/
def BringsUnknown (server : LobbyServer) (l : Lobby) (op : LobbyOp) : Prop :=
  (∀ c, brings op = some c → ¬HoldsSocket l c)
    ∧ ∀ token, issuesToken op = some token → ¬HoldsToken l (server.hashResumeToken token)

theorem notes_speaksFor (h : notes op = some (c, nowMs)) : speaksFor op = some c := by
  cases op <;> simp_all [notes, speaksFor]

/-- Only the holder of a socket is let through with it. -/
theorem accepts_speaksFor (hc : speaksFor op = some c) (h : accepts server l op) :
    HoldsSocket l c := by
  suffices hslot : (l.slotForConnection c).isSome by
    obtain ⟨slot, hslot⟩ := Option.isSome_iff_exists.mp hslot
    exact ⟨slot, List.mem_of_find?_eq_some hslot, by simpa using List.find?_some hslot⟩
  have hmember : ∀ {c slot}, l.memberSlot c = some slot → (l.slotForConnection c).isSome := by
    intro c slot hslot
    obtain ⟨slot₀, hslot₀, _⟩ := Option.bind_eq_some_iff.mp hslot
    rw [hslot₀]
    rfl
  have hhosts : ∀ {c}, hosts l c → (l.slotForConnection c).isSome := by
    intro c hhost
    obtain ⟨slot, hslot, _⟩ := (Option.any_eq_true _ _).mp hhost
    exact hmember hslot
  have hstep := applyLobbyOp_step server l op
  generalize applyLobbyOp server l op = l' at hstep
  cases hstep with
  | refused hrefused => exact absurd h (by simp [hrefused])
  | refreshed | joined | reconnected => exact absurd hc (by simp [speaksFor])
  | noted hop hslot =>
    obtain rfl := Option.some.inj (hc.symm.trans (notes_speaksFor hop))
    exact hslot
  | disconnected hslot | readied hslot | returned hslot | voiced hslot =>
    obtain rfl := Option.some.inj hc
    simp [hslot]
  | closed hhost | removed _ hhost | published hhost =>
    obtain rfl := Option.some.inj hc
    exact hhosts hhost
  | left hslot | chosen hslot | launched hslot | started hslot =>
    obtain rfl := Option.some.inj hc
    exact hmember hslot

/-- Only the token of a seat opens it. -/
theorem accepts_reconnect {request : LobbyReconnectRequest}
    (h : accepts server l (.reconnect request)) :
    HoldsToken l (server.hashResumeToken request.resumeToken) := by
  simp only [accepts, Bool.and_eq_true] at h
  obtain ⟨slot, hslot, hterms⟩ := (Option.any_eq_true _ _).mp h.2
  simp only [Bool.and_eq_true, decide_eq_true_eq] at hterms
  exact ⟨slot, List.mem_of_find?_eq_some hslot, hterms.2⟩

/-- The hashes of the tokens a call issues. -/
def issuedHashes (server : LobbyServer) (op : LobbyOp) : List ResumeTokenHash :=
  (issuesToken op).toList.map server.hashResumeToken

theorem lobbyStep_eq (h : lobbyStep server l op = some l') : LobbyStep server l op l' := by
  rw [← Option.some.inj h]
  exact applyLobbyOp_step server l op

theorem socket_live (server : LobbyServer) (l : Lobby) (op : LobbyOp) (l' : Lobby)
    (h : lobbyStep server l op = some l') (c : ConnectionId) (hc : HoldsSocket l' c) :
    HoldsSocket l c ∨ c ∈ (brings op).toList := by
  rw [Option.mem_toList]
  exact holdsSocket_step (lobbyStep_eq h) hc

theorem token_live (server : LobbyServer) (l : Lobby) (op : LobbyOp) (l' : Lobby)
    (h : lobbyStep server l op = some l') (x : ResumeTokenHash) (hx : HoldsToken l' x) :
    HoldsToken l x ∨ x ∈ issuedHashes server op := by
  refine (holdsToken_step (lobbyStep_eq h) hx).imp_right ?_
  rintro ⟨token, hissued, rfl⟩
  rw [issuedHashes, hissued]
  exact List.mem_singleton.mpr rfl

theorem guarded_bringsUnknown {ops : List LobbyOp}
    (hsockets : (ops.flatMap fun op => (brings op).toList).Nodup)
    (hsocketsNew : ∀ c, HoldsSocket l c → c ∉ ops.flatMap fun op => (brings op).toList)
    (htokens : (ops.flatMap (issuedHashes server)).Nodup)
    (htokensNew : ∀ x, HoldsToken l x → x ∉ ops.flatMap (issuedHashes server)) :
    Guarded (lobbyStep server) (BringsUnknown server) l ops := by
  have hfresh := guarded_fresh (fun _ _ _ _ _ _ => trivial)
    (fun l op l' _ _ => socket_live server l op l') trivial guarded_true hsockets hsocketsNew
  have hboth := guarded_fresh (fun _ _ _ _ _ _ => trivial)
    (fun l op l' _ _ => token_live server l op l') trivial hfresh htokens htokensNew
  refine hboth.imp ?_
  rintro l op ⟨⟨_, hsocket⟩, htoken⟩
  refine ⟨fun c hc => hsocket c (Option.mem_toList.mpr hc), fun token hissued => htoken _ ?_⟩
  rw [issuedHashes, hissued]
  exact List.mem_singleton.mpr rfl

/-- The call comes from this socket and is let through. -/
def usesSocket (server : LobbyServer) (c : ConnectionId) (visit : Lobby × LobbyOp) : Bool :=
  speaksFor visit.2 = some c && accepts server visit.1 visit.2

/-- The call presents this token and is let through. -/
def usesToken (server : LobbyServer) (x : ResumeTokenHash) (visit : Lobby × LobbyOp) : Bool :=
  (match visit.2 with
    | .reconnect request => server.hashResumeToken request.resumeToken = x
    | _ => false) && accepts server visit.1 visit.2

/-- A socket that is held nowhere and not brought again is not let through. -/
theorem gone_socket_refused (hgone : ¬HoldsSocket l c)
    (hnever : c ∉ later.flatMap fun op => (brings op).toList) :
    ∀ visit ∈ visits (lobbyStep server) l later, speaksFor visit.2 = some c →
      applyLobbyOp server visit.1 visit.2 = visit.1 := by
  have huse : ∀ l op, usesSocket server c (l, op) → HoldsSocket l c := by
    intro l op hused
    simp only [usesSocket, Bool.and_eq_true, decide_eq_true_eq] at hused
    exact accepts_speaksFor hused.1 hused.2
  have hcount := countP_uses_eq_zero (fun _ _ _ _ _ _ => trivial)
    (fun l op l' _ _ h => socket_live server l op l' h c) (fun l op _ _ => huse l op) trivial
    guarded_true hgone hnever
  intro visit hvisit hspeaks
  have hunused := List.countP_eq_zero.mp hcount visit hvisit
  refine refused_unchanged (Bool.eq_false_iff.mpr fun haccepts => hunused ?_)
  simp [usesSocket, hspeaks, haccepts]

/-- A token that is held nowhere and not issued again opens no seat. -/
theorem gone_token_refused {token : Text} (hgone : ¬HoldsToken l (server.hashResumeToken token))
    (hnever : server.hashResumeToken token ∉ later.flatMap (issuedHashes server)) :
    ∀ visit ∈ visits (lobbyStep server) l later, ∀ reconnect, visit.2 = .reconnect reconnect →
      reconnect.resumeToken = token → applyLobbyOp server visit.1 visit.2 = visit.1 := by
  have huse : ∀ l op, usesToken server (server.hashResumeToken token) (l, op) →
      HoldsToken l (server.hashResumeToken token) := by
    intro l op hused
    simp only [usesToken, Bool.and_eq_true] at hused
    cases op with
    | reconnect request =>
      have hsame : server.hashResumeToken request.resumeToken = server.hashResumeToken token := by
        simpa using hused.1
      exact hsame ▸ accepts_reconnect hused.2
    | _ => exact absurd hused.1 (by simp)
  have hcount := countP_uses_eq_zero (fun _ _ _ _ _ _ => trivial)
    (fun l op l' _ _ h => token_live server l op l' h _) (fun l op _ _ => huse l op) trivial
    guarded_true hgone hnever
  intro visit hvisit reconnect hop htoken
  have hunused := List.countP_eq_zero.mp hcount visit hvisit
  refine refused_unchanged (Bool.eq_false_iff.mpr fun haccepts => hunused ?_)
  rw [hop] at haccepts
  simp [usesToken, hop, htoken, haccepts]

theorem complete_players :
    (request.complete voice).players
      = [.host request.host request.hostConnection request.hostDisplayName request.hostCapabilities
          request.hostResumeTokenHash request.nowMs, .empty ⟨1⟩, .empty ⟨2⟩, .empty ⟨3⟩] := by
  cases voice <;> rfl

theorem complete_seatsApart : SeatsApart (request.complete voice) := by
  rw [SeatsApart, complete_players]
  have hempty : ∀ (slot : LobbyPlayerSlot) p, slot.playerIndex ≠ p → MembersApart slot (.empty p) :=
    fun slot p h => ⟨h, fun _ _ => by simp [LobbyPlayerSlot.empty],
      fun _ _ => by simp [LobbyPlayerSlot.empty]⟩
  have hone : ∀ n, n ≠ 0 → PlayerIndex.one ≠ ⟨n⟩ := fun n h hn =>
    h (congrArg PlayerIndex.zeroBased hn).symm
  refine List.pairwise_cons.mpr ⟨?_, List.pairwise_cons.mpr ⟨?_, List.pairwise_pair.mpr ?_⟩⟩
  · intro b hb
    simp only [List.mem_cons, List.not_mem_nil, or_false] at hb
    rcases hb with rfl | rfl | rfl
    · exact hempty _ _ (hone 1 (by decide))
    · exact hempty _ _ (hone 2 (by decide))
    · exact hempty _ _ (hone 3 (by decide))
  · intro b hb
    rcases List.mem_pair.mp hb with rfl | rfl
    · exact hempty _ _ (by decide)
    · exact hempty _ _ (by decide)
  · exact hempty _ _ (by decide)

theorem complete_holdsSocket (h : HoldsSocket (request.complete voice) c) :
    c = request.hostConnection := by
  simp only [HoldsSocket, complete_players] at h
  obtain ⟨slot, hslot, hc⟩ := h
  simp only [List.mem_cons, List.not_mem_nil, or_false] at hslot
  rcases hslot with rfl | rfl | rfl | rfl
  · exact (Option.some.inj hc).symm
  all_goals exact absurd hc (by simp [LobbyPlayerSlot.empty])

theorem complete_holdsToken (h : HoldsToken (request.complete voice) x) :
    x = request.hostResumeTokenHash := by
  simp only [HoldsToken, complete_players] at h
  obtain ⟨slot, hslot, hx⟩ := h
  simp only [List.mem_cons, List.not_mem_nil, or_false] at hslot
  rcases hslot with rfl | rfl | rfl | rfl
  · exact (Option.some.inj hx).symm
  all_goals exact absurd hx (by simp [LobbyPlayerSlot.empty])

/-- The lobby after some calls still has its seats apart, and what it holds was brought before. -/
theorem history_apart {ops : List LobbyOp}
    (hguarded : Guarded (lobbyStep server) (BringsUnknown server) (request.complete voice) ops) :
    SeatsApart (ops.foldl (applyLobbyOp server) (request.complete voice)) := by
  have hstep : ∀ (l : Lobby) op l', SeatsApart l → BringsUnknown server l op →
      lobbyStep server l op = some l' → SeatsApart l' := by
    intro l op l' hapart hnew h
    rw [← Option.some.inj h]
    exact seatsApart_step (applyLobbyOp_step server l op) hapart hnew.1 hnew.2
  exact invariant_run hstep hguarded (run_some (applyLobbyOp server) _ ops) complete_seatsApart

/-- In a list without repetitions, what came first or before a point does not come after it. -/
theorem not_later {f : LobbyOp → List β} {first y : β} {done : List LobbyOp}
    (hnodup : (first :: (done ++ op :: later).flatMap f).Nodup)
    (hy : y = first ∨ y ∈ done.flatMap f) : y ∉ later.flatMap f := by
  rw [List.flatMap_append, List.flatMap_cons, List.nodup_cons, List.mem_append,
    List.mem_append, not_or, not_or] at hnodup
  obtain ⟨⟨_, _, hfirst⟩, hrest⟩ := hnodup
  rcases hy with rfl | hdone
  · exact hfirst
  · intro hlater
    exact (List.nodup_append.mp hrest).2.2 y hdone y (List.mem_append_right _ hlater) rfl

theorem removePlayer_accepted {lobbyEpoch : Nat} {target : PlayerIndex}
    (h : accepts server l (.removePlayer c lobbyEpoch target nowMs)) :
    ∃ slot, l.slot target = some slot
      ∧ applyLobbyOp server l (.removePlayer c lobbyEpoch target nowMs)
        = (l.vacate target).bumpWithActivity nowMs := by
  have hstep := applyLobbyOp_step server l (.removePlayer c lobbyEpoch target nowMs)
  generalize applyLobbyOp server l (.removePlayer c lobbyEpoch target nowMs) = l' at hstep
  cases hstep with
  | refused hrefused => exact absurd h (by simp [hrefused])
  | removed _ _ _ _ hslot => exact ⟨_, hslot, rfl⟩
  | noted hop => exact absurd hop (by simp [notes])

theorem removed_erased {target : PlayerIndex} (hslot : l.slot target = some slot) :
    ((l.vacate target).bumpWithActivity nowMs).slot target = some (.empty target)
      ∧ ∀ readiness ∈ ((l.vacate target).bumpWithActivity nowMs).gameReadiness,
        readiness.playerIndex ≠ target.zeroBased := by
  constructor
  · have hfound : (updateFirst (fun a => a.playerIndex = target) (fun _ => .empty target)
        l.players).find? (fun a => a.playerIndex = target) = some (.empty target) :=
      find?_updateFirst hslot (by simp [LobbyPlayerSlot.empty])
    exact hfound
  · intro readiness hreadiness
    have hmem : readiness ∈ l.gameReadiness.filter (·.playerIndex ≠ target.zeroBased) := hreadiness
    simpa using (List.mem_filter.mp hmem).2

/-- **Who is gone stays gone.** Connection ids and resume tokens are new each time and tokens are
hashed injectively. Take any call of any history. A socket that it takes from a seat (a guest leaves
or is removed, or a member takes its seat again) is never let through again, and a token that it
takes from a seat (a guest leaves or is removed) opens no seat again: later calls with them change
nothing, whatever happened in between. A removal that succeeds moves both counters on by one and
erases the seat and its readiness, and one that fails changes nothing. -/
theorem departed_members_stay_out (server : LobbyServer) (request : LobbyCreateRequest)
    (voice : Option RoomVoiceState) (hostToken : Text) (ops : List LobbyOp)
    (hhost : request.hostResumeTokenHash = server.hashResumeToken hostToken)
    (hsockets : (request.hostConnection :: ops.filterMap brings).Nodup)
    (htokens : (hostToken :: ops.filterMap issuesToken).Nodup)
    (hinjective : ∀ a ∈ hostToken :: ops.filterMap issuesToken,
      ∀ b ∈ hostToken :: ops.filterMap issuesToken,
      server.hashResumeToken a = server.hashResumeToken b → a = b) :
    ∀ done op later, ops = done ++ op :: later →
      let before := done.foldl (applyLobbyOp server) (request.complete voice)
      let after := applyLobbyOp server before op
      (∀ c, losesSocket server before c op → ∀ visit ∈ visits (lobbyStep server) after later,
          (speaksFor visit.2 = some c ∨ brings visit.2 = some c) →
          applyLobbyOp server visit.1 visit.2 = visit.1)
        ∧ (∀ token, losesToken server before (server.hashResumeToken token) op →
          ∀ visit ∈ visits (lobbyStep server) after later, ∀ reconnect,
            visit.2 = .reconnect reconnect → reconnect.resumeToken = token →
            applyLobbyOp server visit.1 visit.2 = visit.1)
        ∧ ∀ requester lobbyEpoch target nowMs,
          op = .removePlayer requester lobbyEpoch target nowMs →
          ((removeLobbyPlayer server before requester lobbyEpoch target nowMs).1.isOk →
            after.eventSeq = before.eventSeq + 1 ∧ after.lobbyEpoch = before.lobbyEpoch + 1
              ∧ after.slot target = some (.empty target)
              ∧ ∀ readiness ∈ after.gameReadiness, readiness.playerIndex ≠ target.zeroBased)
          ∧ ((removeLobbyPlayer server before requester lobbyEpoch target nowMs).1.isOk = false →
            after = before) := by
  rw [List.filterMap_eq_flatMap_toList] at hsockets
  have hhashes : (request.hostResumeTokenHash :: ops.flatMap (issuedHashes server)).Nodup := by
    have hmapped := htokens.map_on hinjective
    rw [List.map_cons, ← hhost, List.filterMap_eq_flatMap_toList, List.map_flatMap] at hmapped
    exact hmapped
  have hguarded : Guarded (lobbyStep server) (BringsUnknown server) (request.complete voice) ops :=
    guarded_bringsUnknown (List.nodup_cons.mp hsockets).2
      (fun c hc => complete_holdsSocket hc ▸ (List.nodup_cons.mp hsockets).1)
      (List.nodup_cons.mp hhashes).2
      (fun x hx => complete_holdsToken hx ▸ (List.nodup_cons.mp hhashes).1)
  rintro done op later rfl before after
  have hrun : run (lobbyStep server) (request.complete voice) done = some before :=
    run_some (applyLobbyOp server) _ done
  obtain ⟨hdone, hrest⟩ := (guarded_append hrun).mp hguarded
  have hapart : SeatsApart before := history_apart hdone
  have hnew : BringsUnknown server before op := hrest.1
  refine ⟨fun c hloses => ?_, fun token hloses => ?_, ?_⟩
  · have hheld := losesSocket_held hapart hloses
    have hnever : c ∉ later.flatMap fun op => (brings op).toList := by
      refine not_later hsockets ?_
      refine (live_run (fun _ _ _ _ _ _ => trivial)
        (fun l op l' _ _ h => socket_live server l op l' h c) trivial guarded_true hrun
        hheld).imp_left complete_holdsSocket
    have hgone := losesSocket_gone hapart hnew.1 hloses
    rintro visit hvisit (hspeaks | hbrings)
    · exact gone_socket_refused hgone hnever visit hvisit hspeaks
    · -- the socket is not brought again
      have hevents := visits_events (run_some (applyLobbyOp server) after later)
      have hmem : visit.2 ∈ later := hevents ▸ List.mem_map_of_mem hvisit
      exact absurd (List.mem_flatMap.mpr ⟨visit.2, hmem, Option.mem_toList.mpr hbrings⟩) hnever
  · have hnever : server.hashResumeToken token ∉ later.flatMap (issuedHashes server) := by
      refine not_later hhashes ?_
      exact (live_run (fun _ _ _ _ _ _ => trivial)
        (fun l op l' _ _ h => token_live server l op l' h _) trivial guarded_true hrun
        (losesToken_held hloses)).imp_left complete_holdsToken
    exact gone_token_refused (losesToken_gone hapart hloses) hnever
  · rintro requester lobbyEpoch target nowMs rfl
    rw [removePlayer_answered.isOk]
    constructor
    · intro haccepts
      obtain ⟨slot, hslot, hremoved⟩ := removePlayer_accepted haccepts
      have hafter : after = (before.vacate target).bumpWithActivity nowMs := hremoved
      rw [hafter]
      exact ⟨rfl, rfl, removed_erased hslot⟩
    · exact refused_unchanged

/-- The guest joins, is removed by the host and joins again: its first socket and token are dead. -/
theorem departed_members_stay_out_removal :
    let server : LobbyServer := ⟨id, true⟩
    let guest : VerifiedLicense := { sampleLicense with subjectId := "guest".toList }
    let join (c : Nat) (token : String) : LobbyOp :=
      .join guest ⟨c⟩ none .default token.toList 1
    let later : List LobbyOp := [join 2 "t2", .sendChat ⟨1⟩ "hi".toList 2, .disconnect ⟨1⟩ 3]
    let lobby := (sampleLobbyRequest 0 firstUuid).complete none
    let joined := applyLobbyOp server lobby (join 1 "t1")
    let removal : LobbyOp := .removePlayer ⟨0⟩ 2 ⟨1⟩ 1
    losesSocket server joined ⟨1⟩ removal ∧ losesToken server joined "t1".toList removal
      ∧ ∀ visit ∈ visits (lobbyStep server) (applyLobbyOp server joined removal) later,
        (speaksFor visit.2 = some ⟨1⟩ ∨ brings visit.2 = some ⟨1⟩) →
        applyLobbyOp server visit.1 visit.2 = visit.1 := by
  intro server guest join later lobby joined removal
  have hsample :
      losesSocket server joined ⟨1⟩ removal ∧ losesToken server joined "t1".toList removal
      ∧ (⟨0⟩ :: ([join 1 "t1", removal] ++ later).filterMap brings).Nodup
      ∧ ([] :: ([join 1 "t1", removal] ++ later).filterMap issuesToken).Nodup := by
    decide +kernel
  obtain ⟨hsocket, htoken, hsockets, htokens⟩ := hsample
  have hstay := departed_members_stay_out server (sampleLobbyRequest 0 firstUuid) none []
    ([join 1 "t1", removal] ++ later) rfl hsockets htokens (fun _ _ _ _ h => h)
      [join 1 "t1"] removal
    later rfl
  exact ⟨hsocket, htoken, hstay.1 ⟨1⟩ hsocket⟩

end NetplayRelay.Proof
