import NetplayRelay.Lobbies.LobbyRegistry
import NetplayRelay.Proof.Registries

/-!
# Creating rooms and lobbies

A creation draws a code, waits for the voice broker and then inserts what it made, under the write
lock but without a look at what is stored under the code by then. Codes have six characters, so two
draws can agree, and the second creation then replaces the first: its players keep their sockets to
a room or a lobby that nobody finds any more.

Both registries are intakes of the library, and both results are instances of its rule.
-/

namespace NetplayRelay.Proof

open Lib Protocol Rooms Registry Lobbies Auth

/-- No other room is stored under the code that creation `i` has drawn. -/
def RoomCodeFree (registry : RoomRegistry) (i : Nat) (voice : Option RoomVoiceState) : Prop :=
  ∀ code draft, registry.awaited[i]? = some (code, draft) →
    ∀ stored, registry.stored.lookup code = some stored → stored = draft.complete voice

/-- No other lobby is stored under the code that creation `i` has drawn. -/
def LobbyCodeFree (registry : LobbyRegistry) (i : Nat) (voice : Option RoomVoiceState) : Prop :=
  ∀ code request, registry.awaited[i]? = some (code, request) →
    ∀ stored, registry.stored.lookup code = some stored → stored = request.complete voice

/-- **Creations keep what is stored** exactly if the code is free. Drawing the code changes nothing
that is stored; inserting keeps every stored room, or lobby, exactly if no other one is stored under
the code at that moment. -/
theorem creation_keeps_iff (rooms : RoomRegistry) (lobbies : LobbyRegistry) (code : InviteCode)
    (draft : RoomDraft) (request : LobbyCreateRequest) (i : Nat) (voice : Option RoomVoiceState) :
    rooms.stored.Keeps (RoomRegistry.beginCreateRoom rooms code draft).stored
      ∧ (rooms.stored.Keeps (RoomRegistry.finishCreateRoom rooms i voice).stored
        ↔ RoomCodeFree rooms i voice)
      ∧ lobbies.stored.Keeps (LobbyRegistry.beginCreateLobby lobbies request).stored
      ∧ (lobbies.stored.Keeps (LobbyRegistry.finishCreateLobby lobbies i voice).stored
        ↔ LobbyCodeFree lobbies i voice) := by
  refine ⟨?_, ?_, ?_, ?_⟩
  · exact fun _ _ h => h
  · exact Intake.keeps_finish
  · exact fun _ _ h => h
  · exact Intake.keeps_finish

/-- Two random UUIDs. Their first bytes differ by the length of the alphabet. -/
def firstUuid : Vector UInt8 16 := #v[0, 0, 0, 0, 0, 0, 0x40, 0, 0x80, 0, 0, 0, 0, 0, 0, 0]
def secondUuid : Vector UInt8 16 := #v[32, 0, 0, 0, 0, 0, 0x40, 0, 0x80, 0, 0, 0, 0, 0, 0, 0]

def sampleLicense : VerifiedLicense :=
  ⟨.desktop, "install".toList, "subject".toList, "pro".toList, [], true, false⟩

def sampleGuest : VerifiedLicense := { sampleLicense with subjectId := "guest".toList }

def sampleLobbyRequest (lobbyId : Nat) (bytes : Vector UInt8 16) : LobbyCreateRequest :=
  ⟨⟨lobbyId⟩, .generate bytes, sampleLicense, ⟨0⟩, none, .default, [], none, ⟨0⟩, .private, 0⟩

/-- Both draws give one code, and the second creation takes the place of the first. -/
theorem creation_overwrites :
    (let registry := (storedHistory []).foldl (RoomRegistry.apply sampleRelay) Intake.empty
      let creating := RoomRegistry.beginCreateRoom registry (.generate secondUuid)
        { sampleDraft with roomId := ⟨1⟩ }
      let code := (InviteCode.generate firstUuid).normalized
      firstUuid ≠ secondUuid
        ∧ (registry.stored.lookup code).map (·.room.roomId) = some ⟨0⟩
        ∧ ((RoomRegistry.finishCreateRoom creating 0 none).stored.lookup code).map (·.room.roomId)
          = some ⟨1⟩)
      ∧ let registry := LobbyRegistry.finishCreateLobby
          (LobbyRegistry.beginCreateLobby Intake.empty (sampleLobbyRequest 0 firstUuid)) 0 none
        let creating := LobbyRegistry.beginCreateLobby registry (sampleLobbyRequest 1 secondUuid)
        let code := (InviteCode.generate firstUuid).normalized
        (registry.stored.lookup code).map (·.lobbyId) = some ⟨0⟩
          ∧ ((LobbyRegistry.finishCreateLobby creating 0 none).stored.lookup code).map (·.lobbyId)
            = some ⟨1⟩ := by
  decide +kernel

end NetplayRelay.Proof
