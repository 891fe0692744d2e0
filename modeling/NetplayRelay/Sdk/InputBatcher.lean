import NetplayRelay.Sdk.InputBatch

/-!
# The input batcher of the TypeScript library

Input frames are collected for a few milliseconds and flushed as one batch: when enough of them are
there, when the timer fires, when the room moves to other epochs, or on request. What the flush
callback was given is kept as a list here.
-/

namespace NetplayRelay.Sdk

open Protocol

/-- Whose frames are collected, and on which epochs. -/
structure InputBatchContext where
  playerIndex : Int
  roomEpoch : Int
  sessionEpoch : Int
deriving DecidableEq

/-- The frames collected so far. -/
structure NetplayInputFrameBatcher where
  maxFrames : Int
  context : Option InputBatchContext
  frames : List SdkInputFrame
  /-- Whether the timer is armed. -/
  timer : Bool
  /-- What the flush callback was given so far. -/
  flushed : List SdkInputBatch
deriving DecidableEq

namespace NetplayInputFrameBatcher

/-- A batcher without frames. Only whole limits are modelled: a caller may pass `NaN` as well, which
no count reaches, so that the limit is off. -/
def new (maxFrames : Option Int) : NetplayInputFrameBatcher where
  maxFrames := min (maxFrames.getD 2) maxInputBatchFrames
  context := none
  frames := []
  timer := false
  flushed := []

/-- The collected frames as a batch. -/
def batch (context : InputBatchContext) (frames : List SdkInputFrame) : SdkInputBatch where
  roomEpoch := context.roomEpoch
  sessionEpoch := context.sessionEpoch
  playerIndex := context.playerIndex
  frames := frames

variable (self : NetplayInputFrameBatcher)

/-- Hands the open batch over. -/
def flushNow : NetplayInputFrameBatcher :=
  match self.frames, self.context with
  | [], _ | _, none => { self with timer := false }
  | frames, some context => { self with
    frames := []
    context := none
    timer := false
    flushed := self.flushed ++ [batch context frames] }

/-- The open batch has this context, or there is none. -/
def canAppend (context : InputBatchContext) : Bool := self.context.all (· = context)

/-- An input of another player throws before anything happens. -/
def enqueue (context : InputBatchContext) (input : SdkInputFrame) : NetplayInputFrameBatcher :=
  if input.playerIndex ≠ context.playerIndex then self
  else
    let ready := if self.canAppend context then self else self.flushNow
    let pushed := { ready with context := some context, frames := ready.frames ++ [input] }
    if (pushed.frames.length : Int) ≥ pushed.maxFrames then pushed.flushNow
    else { pushed with timer := true }

/-- The callback of the timer. Only an armed timer fires. -/
def timerFires : NetplayInputFrameBatcher := if self.timer then self.flushNow else self

end NetplayInputFrameBatcher

end NetplayRelay.Sdk
