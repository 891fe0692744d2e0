import NetplayRelay.Protocol.Compatibility

/-!
# Session descriptors

What a room is about: the game, the core, the controller settings, and for link-cable
rooms the cable. Only the fields a room operation reads are carried.
-/

namespace NetplayRelay.Protocol

/-- The two kinds of session. -/
inductive NetplaySessionMode
  | controllerNetplay
  | linkCable
deriving DecidableEq

/-- Which ROM it is. -/
structure RomIdentity where
  contentHash : Text
  sizeBytes : Nat
deriving DecidableEq

/-- Drop a leading `sha256:` tag. -/
def stripSha256Tag (value : Text) : Option Text :=
  if "sha256:".toList.isPrefixOf value then some (value.drop 7) else none

/-- The hash without its tag, in lower case. -/
def normalizeContentHash (value : Text) : Text :=
  ((stripSha256Tag value.trim).getD value.trim).toAsciiLowercase

/-- The ROM's hash in that form. -/
def RomIdentity.normalizedHash (self : RomIdentity) : Text := normalizeContentHash self.contentHash

/-- Why a room relays no ROM. -/
inductive RomRelayCapabilityReason
  | disabled | brokerUnavailable | unsupportedRoom | missingIdentity | tooLarge | unsupportedSystem
deriving DecidableEq

/-- Whether a room relays its ROM. -/
structure RomRelayCapability where
  available : Bool
  reason : Option RomRelayCapabilityReason
deriving DecidableEq

/-- The game. -/
structure NetplayGameDescriptor where
  systemId : Text
  romSha256 : Text
deriving DecidableEq

/-- The emulator core. -/
structure NetplayCoreDescriptor where
  coreId : Text
  coreOptionsSha256 : Option Text
  stateFormat : Option Text
deriving DecidableEq

/-- The usual input delay. -/
def defaultControllerInputDelayFrames : Nat := 3
/-- The largest input delay. -/
def maxControllerInputDelayFrames : Nat := 8

/-- The terms of controller netplay. -/
structure ControllerNetplayDescriptor where
  inputDelayFrames : Nat
deriving DecidableEq

/-- The terms of a link cable. -/
structure LinkCableDescriptor where
  systemFamily : Text
  linkProtocol : Text
  runtimeProfile : Text
deriving DecidableEq

/-- What a client runs at its end of the cable. -/
structure LinkCableCompatibility where
  protocolVersion : Nat
  systemFamily : Text
  linkProtocol : Text
  runtimeProfile : Text
  systemDataHash : Option Text
deriving DecidableEq

namespace LinkCableCompatibility

/-- The end fits the terms. -/
def matchesDescriptor (self : LinkCableCompatibility) (link : LinkCableDescriptor) : Bool :=
  self.systemFamily == link.systemFamily && self.linkProtocol == link.linkProtocol
    && self.runtimeProfile == link.runtimeProfile

/-- The ends fit each other. -/
def matchesPeer (self other : LinkCableCompatibility) : Bool :=
  self.protocolVersion == other.protocolVersion && self.systemFamily == other.systemFamily
    && self.linkProtocol == other.linkProtocol && self.runtimeProfile == other.runtimeProfile
    && self.systemDataHash == other.systemDataHash

end LinkCableCompatibility

/-- What a room is made for. -/
structure NetplaySessionDescriptor where
  mode : NetplaySessionMode
  game : NetplayGameDescriptor
  core : NetplayCoreDescriptor
  controller : ControllerNetplayDescriptor
  link : Option LinkCableDescriptor
  romIdentity : Option RomIdentity
  romRelay : Option RomRelayCapability
deriving DecidableEq

end NetplayRelay.Protocol
