import Mathlib.Data.List.TakeWhile
import NetplayRelay.Proof.Contracts
import NetplayRelay.Proof.LobbyInvariants

/-!
# All lobbies of a relay

Two results about whole registries. A game that is selected later is checked, the one that a lobby
is created with is not: it is stored as the client sent it, once the voice broker has answered. And
idle cleanup skips closed lobbies. A lobby that its host has closed is therefore never cleaned up,
since nothing happens to it any more.
-/

namespace NetplayRelay.Proof

open Lib Protocol Rooms Auth Lobbies

variable {server : LobbyServer} {l l' : Lobby} {op : LobbyOp} {registry : LobbyRegistry}

/-! ## Games -/

/-- There is something to read in the text. -/
def NonBlank (value : Text) : Prop := ∃ c ∈ value, Text.isWhitespace c = false

/-- What a game candidate has to be. -/
structure GameFits (game : LobbyGameCandidate) : Prop where
  title : NonBlank game.title
  systemId : NonBlank game.systemId
  coreId : NonBlank game.coreId
  /-- A hash is 64 hexadecimal characters. -/
  contentSha256 : ∀ hash, game.contentSha256 = some hash →
    hash.length = 64 ∧ ∀ c ∈ hash, Text.isAsciiHexdigit c

theorem trim_isEmpty_iff {value : Text} : value.trim.isEmpty = false ↔ NonBlank value := by
  rw [Text.trim, List.isEmpty_reverse, NonBlank, Bool.eq_false_iff, ne_eq, List.isEmpty_iff,
    List.dropWhile_eq_nil_iff]
  constructor
  · intro h
    obtain ⟨c, hc, hblank⟩ := not_forall₂.mp h
    have hmem : c ∈ value := (List.dropWhile_sublist _).subset (List.mem_reverse.mp hc)
    exact ⟨c, hmem, Bool.eq_false_iff.mpr hblank⟩
  · rintro ⟨c, hmem, hblank⟩ hall
    rw [← List.takeWhile_append_dropWhile (p := Text.isWhitespace) (l := value)] at hmem
    rcases List.mem_append.mp hmem with htaken | hrest
    · exact absurd (List.mem_takeWhile_imp htaken) (by simp [hblank])
    · exact absurd (hall c (List.mem_reverse.mpr hrest)) (by simp [hblank])

theorem isSha256Hex_iff {value : Text} :
    isSha256Hex value ↔ value.length = 64 ∧ ∀ c ∈ value, Text.isAsciiHexdigit c := by
  rw [isSha256Hex, Bool.and_eq_true, beq_iff_eq, List.all_eq_true]
  refine and_congr_left fun hdigits => ?_
  rw [len_of_hexdigits hdigits]

theorem validateGameCandidate_ok_iff {game : LobbyGameCandidate} :
    validateGameCandidate game = .ok () ↔ GameFits game := by
  have hhash : game.contentSha256.any (fun hash => !isSha256Hex hash) = false
      ↔ ∀ hash, game.contentSha256 = some hash →
        hash.length = 64 ∧ ∀ c ∈ hash, Text.isAsciiHexdigit c := by
    cases game.contentSha256 with
    | none => simp
    | some hash => simp [← isSha256Hex_iff]
  unfold validateGameCandidate
  constructor
  · intro h
    split at h
    · exact absurd h (by simp)
    rename_i htexts
    simp only [Bool.or_eq_true, not_or, Bool.not_eq_true, trim_isEmpty_iff] at htexts
    obtain ⟨⟨htitle, hsystem⟩, hcore⟩ := htexts
    split at h
    · exact absurd h (by simp)
    · rename_i hother
      exact ⟨htitle, hsystem, hcore, hhash.mp (by simpa using hother)⟩
  · rintro ⟨htitle, hsystem, hcore, hsha⟩
    rw [trim_isEmpty_iff.mpr htitle, trim_isEmpty_iff.mpr hsystem, trim_isEmpty_iff.mpr hcore,
      hhash.mpr hsha]
    rfl

/-- The game of a lobby, if it has one, is what a candidate has to be. -/
def SelectionFits (l : Lobby) : Prop := ∀ game, l.selectedGame = some game → GameFits game.game

theorem selectionFits_step (h : SelectionFits l) (hstep : LobbyStep server l op l') :
    SelectionFits l' := by
  cases hstep with
  | chosen _ _ hgame =>
    intro game hselected
    obtain rfl := Option.some.inj hselected
    exact validateGameCandidate_ok_iff.mp hgame
  | _ => exact h

theorem selectionFits_complete {request : LobbyCreateRequest} {voice : Option RoomVoiceState} :
    SelectionFits (request.complete voice)
      ↔ ∀ game, request.initialGame = some game → GameFits game := by
  have hselected : (request.complete voice).selectedGame = request.initialGame.map fun game =>
      ⟨request.proposalId, PlayerIndex.one.zeroBased, request.nowMs, game⟩ := by
    cases voice <;> rfl
  rw [SelectionFits, hselected]
  cases request.initialGame with
  | none => simp
  | some game => simp

/-- What every stored lobby satisfies. -/
def AllStored (P : Lobby → Prop) (registry : LobbyRegistry) : Prop :=
  ∀ code l, registry.stored.lookup code = some l → P l

theorem allStored_insert {P : Lobby → Prop} {code : Text} (h : AllStored P registry)
    (awaited : List (Text × LobbyCreateRequest)) :
    AllStored P ⟨registry.stored.insert code l, awaited⟩ ↔ P l := by
  constructor
  · intro hall
    exact hall code l (AList.lookup_insert _)
  intro hl code' l' hl'
  by_cases hcode : code' = code
  · subst hcode
    rw [AList.lookup_insert] at hl'
    exact Option.some.inj hl' ▸ hl
  · rw [AList.lookup_insert_ne hcode] at hl'
    exact h code' l' hl'

/-- Cleanup closes what it finds idle: a closed lobby never counts as idle. -/
theorem idle_closes {nowMs idleTimeoutMs : Nat} :
    (l.isMeaningfullyIdle nowMs idleTimeoutMs && (l.closeDueToIdle nowMs).1)
      = l.isMeaningfullyIdle nowMs idleTimeoutMs := by
  unfold Lobby.closeDueToIdle
  split
  · rename_i hclosed
    simp [Lobby.isMeaningfullyIdle, hclosed]
  · exact Bool.and_true _

/-- Idle cleanup takes out the lobbies that are idle and touches no other. -/
theorem lookup_expireIdleLobbies {nowMs idleTimeoutMs : Nat} {code : Text} :
    (LobbyRegistry.expireIdleLobbies registry nowMs idleTimeoutMs).2.stored.lookup code
      = (registry.stored.lookup code).filter
        fun l => !l.isMeaningfullyIdle nowMs idleTimeoutMs := by
  unfold LobbyRegistry.expireIdleLobbies
  simp only [idle_closes, Store.lookup_eraseAll, Store.mem_keysWhere, Store.lookup_mapValues]
  cases registry.stored.lookup code with
  | none => simp
  | some l =>
    by_cases hidle : l.isMeaningfullyIdle nowMs idleTimeoutMs
    · simp [hidle, Option.filter]
    · simp [hidle, Option.filter]

/-- A creation that is completed has a game that fits, if it has one. -/
def createsFitting (registry : LobbyRegistry) : LobbyRegistryOp → Prop
  | .finishCreateLobby i _ => ∀ code request, registry.awaited[i]? = some (code, request) →
    ∀ game, request.initialGame = some game → GameFits game
  | _ => True

theorem allFit_finish {i : Nat} {voice : Option RoomVoiceState}
    (h : AllStored SelectionFits registry) :
    AllStored SelectionFits (LobbyRegistry.finishCreateLobby registry i voice)
      ↔ createsFitting registry (.finishCreateLobby i voice) := by
  unfold LobbyRegistry.finishCreateLobby Intake.finish createsFitting
  cases hawaited : registry.awaited[i]? with
  | none => exact iff_of_true h fun _ _ hnone => absurd (hawaited.symm.trans hnone) (by simp)
  | some entry =>
    obtain ⟨code, request⟩ := entry
    refine (allStored_insert h _).trans (selectionFits_complete.trans ?_)
    constructor
    · rintro hfits code' request' hsame
      obtain ⟨-, rfl⟩ := Prod.mk.inj (Option.some.inj (hawaited.symm.trans hsame))
      exact hfits
    · intro hfits
      exact hfits code request hawaited

/-- Games that are selected are checked: only a completed creation can bring one that does not
fit. -/
theorem allFit_apply (server : LobbyServer) (registry : LobbyRegistry) (op : LobbyRegistryOp)
    (h : AllStored SelectionFits registry) :
    AllStored SelectionFits (LobbyRegistry.apply server registry op)
      ↔ createsFitting registry op := by
  cases op with
  | beginCreateLobby request => exact iff_of_true h trivial
  | finishCreateLobby i voice => exact allFit_finish h
  | call code op =>
    refine iff_of_true ?_ trivial
    rw [LobbyRegistry.apply, LobbyRegistry.call]
    cases hlobby : registry.stored.lookup code.normalized with
    | none => exact h
    | some l =>
      exact (allStored_insert h _).mpr
        (selectionFits_step (h code.normalized l hlobby) (applyLobbyOp_step server l op))
  | expireIdleLobbies nowMs idleTimeoutMs =>
    refine iff_of_true (fun code l hl => ?_) trivial
    rw [LobbyRegistry.apply, lookup_expireIdleLobbies] at hl
    exact h code l (Option.filter_eq_some_iff.mp hl).1

/-- **Every stored game fits**, in every state of a history, exactly if every creation that is
completed brings a game that fits or none. -/
theorem selected_games_fit_iff (server : LobbyServer) (ops : List LobbyRegistryOp) :
    (∀ done, done <+: ops →
        AllStored SelectionFits (done.foldl (LobbyRegistry.apply server) Intake.empty))
      ↔ Guarded (fun registry op => some (LobbyRegistry.apply server registry op)) createsFitting
        Intake.empty ops := by
  refine forall_prefix_iff_guarded (fun registry op h _ => allFit_apply server registry op h) ?_
    guarded_true
  intro code l hl
  exact absurd hl (by simp [Intake.empty])

def blankCandidate : LobbyGameCandidate := { sampleCandidate with title := " ".toList }

/-- A lobby is created with a game whose title is blank, and the game is selected. -/
theorem selected_games_fit_blank :
    let request := { sampleLobbyRequest 0 firstUuid with initialGame := some blankCandidate }
    let registry := [LobbyRegistryOp.beginCreateLobby request, .finishCreateLobby 0 none].foldl
      (LobbyRegistry.apply ⟨id, true⟩) Intake.empty
    (registry.stored.lookup request.inviteCode.normalized).map (·.selectedGame.map (·.game))
        = some (some blankCandidate)
      ∧ (validateGameCandidate blankCandidate).isOk = false := by
  decide +kernel

/-! ## Idle cleanup -/

/-- The last meaningful activity is at least the timeout ago. -/
def IdleSince (nowMs idleTimeoutMs : Nat) (l : Lobby) : Prop :=
  l.lastMeaningfulActivityAtMs + idleTimeoutMs ≤ nowMs

/-- **Cleanup is complete** exactly if no closed lobby has been idle for that long. A closed lobby
stays as it is. -/
theorem idle_lobbies_gone_iff (registry : LobbyRegistry) (nowMs idleTimeoutMs : Nat) :
    let cleaned := (LobbyRegistry.expireIdleLobbies registry nowMs idleTimeoutMs).2
    (AllStored (fun l => ¬IdleSince nowMs idleTimeoutMs l) cleaned
        ↔ AllStored (fun l => l.status = .closed → ¬IdleSince nowMs idleTimeoutMs l) registry)
      ∧ ∀ code l, registry.stored.lookup code = some l → l.status = .closed →
        cleaned.stored.lookup code = some l := by
  intro cleaned
  have hstays : ∀ code l, registry.stored.lookup code = some l → l.status = .closed →
      cleaned.stored.lookup code = some l := by
    intro code l hl hclosed
    rw [lookup_expireIdleLobbies, hl]
    simp [Lobby.isMeaningfullyIdle, hclosed]
  refine ⟨⟨fun hgone code l hl hclosed => hgone code l (hstays code l hl hclosed), ?_⟩, hstays⟩
  intro hclosed code l hl hidle
  rw [lookup_expireIdleLobbies, Option.filter_eq_some_iff] at hl
  obtain ⟨hstored, hkept⟩ := hl
  by_cases hstatus : l.status = .closed
  · exact hclosed code l hstored hstatus hidle
  · have hago : idleTimeoutMs ≤ nowMs - l.lastMeaningfulActivityAtMs := by
      rw [IdleSince] at hidle
      omega
    simp [Lobby.isMeaningfullyIdle, hstatus, hago] at hkept

/-- The host leaves, and a cleanup an hour later finds the lobby idle for long and keeps it. -/
theorem idle_lobby_kept :
    let request := sampleLobbyRequest 0 firstUuid
    let code := request.inviteCode
    let registry := [LobbyRegistryOp.beginCreateLobby request, .finishCreateLobby 0 none,
      .call code (.leave ⟨0⟩ 1)].foldl (LobbyRegistry.apply ⟨id, true⟩) Intake.empty
    let cleaned := (LobbyRegistry.expireIdleLobbies registry 3600000 60000).2
    (cleaned.stored.lookup code.normalized).map
        (fun l => (l.status, decide (l.lastMeaningfulActivityAtMs + 60000 ≤ 3600000)))
      = some (.closed, true) := by
  decide +kernel

/-! ## Lobbies do not touch each other -/

/-- What an operation of the registry is to the lobby under `code`: a call, or a cleanup. -/
def lobbyCall (code : Text) : LobbyRegistryOp → Option (LobbyOp ⊕ Nat × Nat)
  | .call code' op => if code'.normalized = code then some (.inl op) else none
  | .expireIdleLobbies nowMs timeout => some (.inr (nowMs, timeout))
  | .beginCreateLobby .. | .finishCreateLobby .. => none

/-- The lobby after it, unless cleanup takes it out. -/
def keptLobby (server : LobbyServer) (l : Lobby) : LobbyOp ⊕ Nat × Nat → Option Lobby
  | .inl op => some (applyLobbyOp server l op)
  | .inr (nowMs, timeout) => if l.isMeaningfullyIdle nowMs timeout then none else some l

/-- A new lobby is stored under `code`. -/
def storesLobby (code : Text) (registry : LobbyRegistry) : LobbyRegistryOp → Bool
  | .finishCreateLobby i _ => registry.awaited[i]?.any (·.1 = code)
  | _ => false

theorem lobby_apply_lookup {code : Text} (op : LobbyRegistryOp)
    (h : storesLobby code registry op = false) :
    (LobbyRegistry.apply server registry op).stored.lookup code
      = (lobbyCall code op).elim (registry.stored.lookup code) fun call =>
        (registry.stored.lookup code).bind (keptLobby server · call) := by
  cases op with
  | beginCreateLobby => rfl
  | finishCreateLobby i voice =>
    simp only [lobbyCall, LobbyRegistry.apply, LobbyRegistry.finishCreateLobby, Intake.finish]
    split
    · rfl
    · rename_i code' request hi
      have hcode : code' ≠ code := by simpa [storesLobby, hi] using h
      exact AList.lookup_insert_ne hcode.symm
  | call code' lobbyOp =>
    simp only [LobbyRegistry.apply, LobbyRegistry.call, lobbyCall]
    by_cases hcode : code'.normalized = code
    · subst hcode
      cases hl : registry.stored.lookup code'.normalized <;> simp [hl, keptLobby]
    · rw [if_neg hcode]
      split
      · rfl
      · exact AList.lookup_insert_ne (Ne.symm hcode)
  | expireIdleLobbies nowMs timeout =>
    rw [LobbyRegistry.apply, lookup_expireIdleLobbies]
    cases registry.stored.lookup code with
    | none => rfl
    | some l => cases hidle : l.isMeaningfullyIdle nowMs timeout <;>
        simp [lobbyCall, keptLobby, hidle, Option.filter]

/-- **Lobbies are independent**, like rooms. -/
theorem lobbies_independent (server : LobbyServer) (registry : LobbyRegistry) (code : Text)
    (ops : List LobbyRegistryOp)
    (h : Guarded (fun registry op => some (LobbyRegistry.apply server registry op))
      (fun registry op => storesLobby code registry op = false) registry ops) :
    (ops.foldl (LobbyRegistry.apply server) registry).stored.lookup code
      = (registry.stored.lookup code).bind fun l =>
        run (keptLobby server) l (ops.filterMap (lobbyCall code)) :=
  part_run (·.stored.lookup code) (fun _ op h => lobby_apply_lookup op h) h

/-- Another lobby is created between two cleanups. -/
theorem lobbies_independent_creation :
    let code := (sampleLobbyRequest 0 firstUuid).inviteCode.normalized
    let registry := [LobbyRegistryOp.beginCreateLobby (sampleLobbyRequest 0 firstUuid),
      .finishCreateLobby 0 none].foldl (LobbyRegistry.apply ⟨id, true⟩) Intake.empty
    let ops := [.expireIdleLobbies 1 2, .beginCreateLobby (sampleLobbyRequest 1 (.replicate 16 1)),
      .finishCreateLobby 0 none, .expireIdleLobbies 5 2]
    (ops.foldl (LobbyRegistry.apply ⟨id, true⟩) registry).stored.lookup code
      = (registry.stored.lookup code).bind fun l =>
        run (keptLobby ⟨id, true⟩) l (ops.filterMap (lobbyCall code)) :=
  lobbies_independent _ _ _ _ (by decide +kernel)

end NetplayRelay.Proof
