import NetplayRelay.Protocol.Text
import Mathlib.Data.List.GetD

/-!
# Invite codes

Rooms and lobbies are looked up by a code of six characters that players read out to each other.
-/

namespace NetplayRelay.Rooms

open Protocol

/-- The length of a code. -/
def inviteCodeLen : Nat := 6

/-- Digits and capital letters without those that are easily mixed up. -/
def inviteAlphabet : List Char := "23456789ABCDEFGHJKLMNPQRSTUVWXYZ".toList

/-- A code in its canonical form, which is the key a registry stores under. -/
structure InviteCode where
  normalized : Text
  wellFormed : normalized.length = inviteCodeLen ∧ ∀ c ∈ normalized, c ∈ inviteAlphabet

/-- The character a byte selects. -/
def inviteCharacter (byte : UInt8) : Char :=
  inviteAlphabet.getD (byte.toNat % inviteAlphabet.length) '2'

theorem inviteCharacter_mem (byte : UInt8) : inviteCharacter byte ∈ inviteAlphabet := by
  have hlt : byte.toNat % inviteAlphabet.length < inviteAlphabet.length :=
    Nat.mod_lt _ (by decide)
  rw [inviteCharacter, List.getD_eq_getElem _ _ hlt]
  exact List.getElem_mem hlt

/-- The generator takes the first six of the sixteen bytes of a random UUID. -/
def InviteCode.generate (bytes : Vector UInt8 16) : InviteCode where
  normalized := (bytes.toList.take inviteCodeLen).map inviteCharacter
  wellFormed := by
    constructor
    · simp [inviteCodeLen]
    · intro c hc
      obtain ⟨byte, _, rfl⟩ := List.mem_map.mp hc
      exact inviteCharacter_mem byte

/-- The form players read, with a hyphen after the fourth character. -/
def InviteCode.display (code : InviteCode) : Text :=
  code.normalized.take 4 ++ "-".toList ++ code.normalized.drop 4

/-- An ASCII blank. -/
def isAsciiWhitespace (c : Char) : Bool :=
  c == ' ' || c == '\t' || c == '\n' || c == '\r' || c.val == 0x0c

/-- Decided by walking through the code, not through all characters. -/
instance (normalized : Text) : Decidable (∀ c ∈ normalized, c ∈ inviteAlphabet) :=
  List.decidableBAll _ _

/-- A code as a player enters it. All characters of the alphabet are single bytes, so that counting
characters is counting bytes. -/
def InviteCode.parse (value : Text) : Option InviteCode :=
  let normalized := (value.filter fun c => !isAsciiWhitespace c && c != '-').map Char.toUpper
  if h : normalized.length = inviteCodeLen ∧ ∀ c ∈ normalized, c ∈ inviteAlphabet then
    some ⟨normalized, h⟩
  else none

end NetplayRelay.Rooms
