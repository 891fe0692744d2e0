import NetplayRelay.Lib.Store
import NetplayRelay.Protocol.Messages

/-!
# The public rate limiter

HTTP handlers ask the limiter before they do expensive work. It keeps, for each action and key, the
times of the requests it let through, and drops old ones when the same pair is checked again. The
map of buckets is behind a mutex, so checks happen one after the other.
-/

namespace NetplayRelay.RateLimit

open Lib Protocol

/-- What is limited. -/
inductive RateLimitAction
  | createRoom
  | webSocketJoin
  | roomStatus
deriving DecidableEq

/-- Ceilings per minute. The source has `u32` here and widens them. -/
structure RateLimitPolicy where
  createRoomPerMinute : Nat
  websocketJoinPerMinute : Nat
  roomStatusPerMinute : Nat

namespace RateLimitPolicy

/-- The limits of the server. -/
def default : RateLimitPolicy where
  createRoomPerMinute := 12
  websocketJoinPerMinute := 30
  roomStatusPerMinute := 120

/-- The limit of an action. -/
def limitFor (self : RateLimitPolicy) : RateLimitAction → Nat
  | .createRoom => self.createRoomPerMinute
  | .webSocketJoin => self.websocketJoinPerMinute
  | .roomStatus => self.roomStatusPerMinute

end RateLimitPolicy

/-- The window that is counted over. -/
def rateLimitWindow : Duration := secs 60

/-- An action and who asks for it. -/
structure RateLimitBucket where
  action : RateLimitAction
  key : Text
deriving DecidableEq

/-- The refusal, and when to ask again. -/
structure RateLimitExceeded where
  action : RateLimitAction
  retryAfter : Duration
deriving DecidableEq

/-- The times of the recent requests, by bucket. -/
structure InMemoryRateLimiter where
  policy : RateLimitPolicy
  buckets : Store RateLimitBucket (List Instant)

namespace InMemoryRateLimiter

/-- A limiter without requests. -/
def new (policy : RateLimitPolicy) : InMemoryRateLimiter := ⟨policy, ∅⟩

/-- One check. A bucket is created when its pair is first checked, except where the action is
switched off. The cutoff `now - window` of the source may lie before the clock's origin, where
natural numbers have nothing: the comparison is the one without the subtraction. -/
def checkAt (self : InMemoryRateLimiter) (action : RateLimitAction) (key : Text) (now : Instant) :
    Except RateLimitExceeded Unit × InMemoryRateLimiter :=
  let limit := self.policy.limitFor action
  if limit = 0 then (.error ⟨action, rateLimitWindow⟩, self)
  else
    let bucket : RateLimitBucket := ⟨action, key⟩
    let entries := ((self.buckets.lookup bucket).getD []).dropWhile
      fun entry => entry + rateLimitWindow ≤ now
    if limit ≤ entries.length then
      let retryAfter := match entries.head? with
        | some oldest => rateLimitWindow - (now - oldest)
        | none => rateLimitWindow
      (.error ⟨action, retryAfter⟩, { self with buckets := self.buckets.insert bucket entries })
    else (.ok (), { self with buckets := self.buckets.insert bucket (entries ++ [now]) })

end InMemoryRateLimiter

end NetplayRelay.RateLimit
