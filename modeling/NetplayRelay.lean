import NetplayRelay.Proof.Closed
import NetplayRelay.Proof.Cursors
import NetplayRelay.Proof.FrameLimits
import NetplayRelay.Proof.Freeze
import NetplayRelay.Proof.Handlers
import NetplayRelay.Proof.InputBatcher
import NetplayRelay.Proof.InputDelay
import NetplayRelay.Proof.InputWindow
import NetplayRelay.Proof.LateClaims
import NetplayRelay.Proof.LegacyRelay
import NetplayRelay.Proof.Links
import NetplayRelay.Proof.LobbyRegistries
import NetplayRelay.Proof.LobbyReturns
import NetplayRelay.Proof.Nacks
import NetplayRelay.Proof.Occupancy
import NetplayRelay.Proof.Opens
import NetplayRelay.Proof.PauseRequests
import NetplayRelay.Proof.Pauses
import NetplayRelay.Proof.RateLimits
import NetplayRelay.Proof.RomRelays
import NetplayRelay.Proof.Snapshots
import NetplayRelay.Proof.Sockets
import NetplayRelay.Proof.Starts
import NetplayRelay.Proof.StoredRooms
import NetplayRelay.Proof.StrictInput
import NetplayRelay.Proof.Tokens
import NetplayRelay.Proof.TrialEnds
