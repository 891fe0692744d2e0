import NetplayRelay.Protocol.Text

/-!
# Verified licenses

What the license authority vouches for: who a client is and what it may use. Rooms and lobbies
compare players by `identityKey`, so that equal subject ids of different platforms stay apart.
-/

namespace NetplayRelay.Auth

open Protocol

/-- The platforms a client runs on. -/
inductive ClientKind
  | desktop | android | ios
deriving DecidableEq

/-- The name on the wire. -/
def ClientKind.asStr : ClientKind → Text
  | .desktop => "desktop".toList
  | .android => "android".toList
  | .ios => "ios".toList

/-- A client kind from a header or from an answer of the authority. -/
def ClientKind.parse (value : Text) : Option ClientKind :=
  let kind := value.trim.toAsciiLowercase
  if kind = "desktop".toList then some .desktop
  else if kind = "android".toList then some .android
  else if kind = "ios".toList then some .ios
  else none

/-- Subjects are told apart per platform. -/
def ClientKind.identityNamespace (kind : ClientKind) : Text := kind.asStr

/-- What the authority confirmed of a client. -/
structure VerifiedLicense where
  clientKind : ClientKind
  installationId : Text
  subjectId : Text
  tier : Text
  features : List Text
  hasPremium : Bool
  trialActive : Bool
deriving DecidableEq

/-- Who the client is, over all its connections. -/
def VerifiedLicense.identityKey (license : VerifiedLicense) : Text :=
  license.clientKind.identityNamespace ++ ":".toList ++ license.subjectId

end NetplayRelay.Auth
