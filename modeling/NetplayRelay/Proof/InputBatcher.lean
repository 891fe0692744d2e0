import NetplayRelay.Lib.Run
import NetplayRelay.Proof.InputBatches
import NetplayRelay.Sdk.InputBatcher

/-!
# What the batcher does with the frames it is given

The batches that were flushed and the one that would be flushed now make up the outbox. A call that
flushes leaves the outbox as it is, and an enqueued frame goes to its end: into the last batch if
that is still open and of the same context, into a new one otherwise. So no frame is lost or
reordered inside the batcher.

Whether a batch can be encoded is another matter. The batcher counts frames, the encoder also counts
bytes, and frames that fit each on their own need not fit together.
-/

namespace NetplayRelay.Proof

open Lib Protocol Sdk NetplayInputFrameBatcher

inductive BatcherCall
  | enqueue (context : InputBatchContext) (input : SdkInputFrame)
  | timerFires
  | flushNow
deriving DecidableEq

def batcherStep (s : NetplayInputFrameBatcher) : BatcherCall → NetplayInputFrameBatcher
  | .enqueue context input => s.enqueue context input
  | .timerFires => s.timerFires
  | .flushNow => s.flushNow

/-- The frame a call adds, with its context. A frame of another player is refused. -/
def enqueued : BatcherCall → List (InputBatchContext × SdkInputFrame)
  | .enqueue context input =>
    if input.playerIndex = context.playerIndex then [(context, input)] else []
  | .timerFires | .flushNow => []

/-- The frames of a batch, each with the context of the batch. -/
def tagged (batch : SdkInputBatch) : List (InputBatchContext × SdkInputFrame) :=
  batch.frames.map fun input => (⟨batch.playerIndex, batch.roomEpoch, batch.sessionEpoch⟩, input)

/-- The frames that were not flushed yet. -/
def pendingFrames (s : NetplayInputFrameBatcher) : List (InputBatchContext × SdkInputFrame) :=
  s.context.toList.flatMap fun context => s.frames.map fun input => (context, input)

/-- What was flushed and what would be flushed now. -/
def outbox (s : NetplayInputFrameBatcher) : List SdkInputBatch := s.flushNow.flushed

/-- Each frame can be encoded in a batch of its own. -/
def EncodableAlone : BatcherCall → Prop
  | .enqueue context input => (typescriptCodec.encode (batch context [input])).isOk
  | .timerFires | .flushNow => True

instance decidableEncodableAlone : DecidablePred EncodableAlone
  | .enqueue _ _ => inferInstanceAs (Decidable (_ = true))
  | .timerFires | .flushNow => inferInstanceAs (Decidable True)

/-- A frame that joins the open batch leaves it within the encoder's limit. -/
def FitsOpenBatch (s : NetplayInputFrameBatcher) : BatcherCall → Prop
  | .enqueue context input => input.playerIndex = context.playerIndex → s.canAppend context →
    NetplayInputBatchCodec.totalBytes (batch context (s.frames ++ [input])) ≤ maxInputBatchBytes
  | .timerFires | .flushNow => True

variable {s : NetplayInputFrameBatcher} {context : InputBatchContext} {input : SdkInputFrame}
  {call : BatcherCall}

/-! ## The outbox -/

/-- The open batch has a context and few frames. -/
structure OpenBatch (s : NetplayInputFrameBatcher) : Prop where
  few : s.maxFrames ≤ maxInputBatchFrames
  waiting : s.frames = [] ↔ s.context = none
  short : s.frames = [] ∨ (s.frames.length : Int) < s.maxFrames

theorem outbox_of_none (h : s.frames = []) : outbox s = s.flushed := by
  rw [outbox, NetplayInputFrameBatcher.flushNow, h]

theorem outbox_of_some (h : s.frames ≠ []) (hcontext : s.context = some context) :
    outbox s = s.flushed ++ [batch context s.frames] := by
  obtain ⟨first, rest, hframes⟩ := List.exists_cons_of_ne_nil h
  rw [outbox, NetplayInputFrameBatcher.flushNow, hframes, hcontext]

theorem flushNow_frames (h : OpenBatch s) : s.flushNow.frames = [] ∧ s.flushNow.context = none := by
  by_cases hnil : s.frames = []
  · rw [NetplayInputFrameBatcher.flushNow, hnil]
    exact ⟨rfl, h.waiting.mp hnil⟩
  obtain ⟨first, rest, hframes⟩ := List.exists_cons_of_ne_nil hnil
  obtain ⟨context, hcontext⟩ := Option.ne_none_iff_exists'.mp fun hnone =>
    hnil (h.waiting.mpr hnone)
  rw [NetplayInputFrameBatcher.flushNow, hframes, hcontext]
  exact ⟨rfl, rfl⟩

theorem flushNow_maxFrames (s : NetplayInputFrameBatcher) : s.flushNow.maxFrames = s.maxFrames := by
  unfold NetplayInputFrameBatcher.flushNow
  split <;> rfl

theorem flushNow_open (h : OpenBatch s) : OpenBatch s.flushNow := by
  obtain ⟨hframes, hcontext⟩ := flushNow_frames h
  exact ⟨flushNow_maxFrames s ▸ h.few, iff_of_true hframes hcontext, .inl hframes⟩

/-- A second flush does nothing. -/
theorem outbox_flushNow (h : OpenBatch s) : outbox s.flushNow = outbox s :=
  outbox_of_none (flushNow_frames h).1

/-- The frames that a new one joins. -/
def joined (s : NetplayInputFrameBatcher) (context : InputBatchContext) : List SdkInputFrame :=
  if s.canAppend context then s.frames else []

/-- What is closed when a frame of the context comes. -/
def closed (s : NetplayInputFrameBatcher) (context : InputBatchContext) : List SdkInputBatch :=
  if s.canAppend context then s.flushed else outbox s

theorem enqueue_outbox (h : OpenBatch s) (hplayer : input.playerIndex = context.playerIndex) :
    OpenBatch (s.enqueue context input)
      ∧ outbox (s.enqueue context input)
        = closed s context ++ [batch context (joined s context ++ [input])]
      ∧ ((s.enqueue context input).context = none
        ∨ (s.enqueue context input).context = some context
          ∧ (s.enqueue context input).frames = joined s context ++ [input]) := by
  -- the batcher just before it decides whether to flush
  have hpush : ∀ {ready : NetplayInputFrameBatcher}, ready.maxFrames = s.maxFrames →
      ready.frames = joined s context → ready.flushed = closed s context →
      let pushed := { ready with context := some context, frames := ready.frames ++ [input] }
      let done := if (pushed.frames.length : Int) ≥ pushed.maxFrames then pushed.flushNow
        else { pushed with timer := true }
      OpenBatch done ∧ outbox done
          = closed s context ++ [batch context (joined s context ++ [input])]
        ∧ (done.context = none
          ∨ done.context = some context ∧ done.frames = joined s context ++ [input]) := by
    intro ready hmax hframes hflushed pushed done
    have hsome : pushed.frames ≠ [] := by simp [pushed]
    have hout :
        outbox pushed = closed s context ++ [batch context (joined s context ++ [input])] := by
      rw [outbox_of_some hsome rfl]
      simp only [pushed, hflushed, hframes]
    have hfew : pushed.maxFrames ≤ maxInputBatchFrames := by
      rw [show pushed.maxFrames = s.maxFrames from hmax]
      exact h.few
    by_cases hfull : (pushed.frames.length : Int) ≥ pushed.maxFrames
    · have hdone : done = pushed.flushNow := if_pos hfull
      obtain ⟨first, rest, hcons⟩ := List.exists_cons_of_ne_nil hsome
      have hempty : pushed.flushNow.frames = [] ∧ pushed.flushNow.context = none := by
        rw [NetplayInputFrameBatcher.flushNow, hcons]
        exact ⟨rfl, rfl⟩
      rw [hdone, outbox_of_none hempty.1, ← hout]
      exact ⟨⟨flushNow_maxFrames pushed ▸ hfew, iff_of_true hempty.1 hempty.2, .inl hempty.1⟩, rfl,
        .inl hempty.2⟩
    · have hdone : done = { pushed with timer := true } := if_neg hfull
      rw [hdone]
      refine ⟨⟨hfew, iff_of_false hsome (by simp [pushed]), .inr (Int.not_le.mp hfull)⟩, ?_, ?_⟩
      · rw [← hout, outbox_of_some hsome rfl]
        exact outbox_of_some hsome rfl
      · exact .inr ⟨rfl, congrArg (· ++ [input]) hframes⟩
  rw [NetplayInputFrameBatcher.enqueue, if_neg (not_not.mpr hplayer)]
  by_cases happend : s.canAppend context
  · rw [if_pos happend]
    exact hpush rfl (if_pos happend).symm (if_pos happend).symm
  rw [if_neg happend]
  refine hpush (flushNow_maxFrames s) ?_ (if_neg happend).symm
  rw [joined, if_neg happend]
  exact (flushNow_frames h).1

theorem batcherStep_open (h : OpenBatch s) (call : BatcherCall) :
    OpenBatch (batcherStep s call) := by
  cases call with
  | flushNow => exact flushNow_open h
  | timerFires =>
    rw [batcherStep, NetplayInputFrameBatcher.timerFires]
    split
    · exact flushNow_open h
    · exact h
  | enqueue context input =>
    by_cases hplayer : input.playerIndex = context.playerIndex
    · exact (enqueue_outbox h hplayer).1
    · rw [batcherStep, NetplayInputFrameBatcher.enqueue, if_pos hplayer]
      exact h

/-- A call that adds a frame is an enqueue by the player of its context. -/
theorem exists_of_enqueued (h : enqueued call ≠ []) : ∃ context input,
    call = .enqueue context input ∧ input.playerIndex = context.playerIndex := by
  cases call with
  | flushNow | timerFires => exact absurd rfl h
  | enqueue context input =>
    refine ⟨context, input, rfl, ?_⟩
    by_contra hplayer
    exact h (if_neg hplayer)

/-- A call that adds nothing leaves the outbox. -/
theorem batcherStep_outbox (h : OpenBatch s) (hnone : enqueued call = []) :
    outbox (batcherStep s call) = outbox s := by
  cases call with
  | flushNow => exact outbox_flushNow h
  | timerFires =>
    rw [batcherStep, NetplayInputFrameBatcher.timerFires]
    split
    · exact outbox_flushNow h
    · rfl
  | enqueue context input =>
    have hplayer : input.playerIndex ≠ context.playerIndex := by
      intro hplayer
      rw [enqueued, if_pos hplayer] at hnone
      exact absurd hnone (by simp)
    rw [batcherStep, NetplayInputFrameBatcher.enqueue, if_pos hplayer]

theorem new_open (maxFrames : Option Int) : OpenBatch (.new maxFrames) :=
  ⟨Int.min_le_right _ _, iff_of_true rfl rfl, .inl rfl⟩

/-! ## No frame is lost -/

theorem tagged_batch (context : InputBatchContext) (frames : List SdkInputFrame) :
    tagged (batch context frames) = frames.map fun input => (context, input) := rfl

/-- An open batch that a frame can join is of the frame's context. -/
theorem outbox_of_canAppend (h : OpenBatch s) (happend : s.canAppend context) :
    (outbox s).flatMap tagged
      = s.flushed.flatMap tagged ++ s.frames.map fun input => (context, input) := by
  by_cases hnil : s.frames = []
  · rw [outbox_of_none hnil, hnil, List.map_nil, List.append_nil]
  obtain ⟨other, hother⟩ := Option.ne_none_iff_exists'.mp fun hnone => hnil (h.waiting.mpr hnone)
  have hsame : other = context := by simpa [canAppend, hother] using happend
  subst hsame
  rw [outbox_of_some hnil hother, List.flatMap_append, List.flatMap_singleton, tagged_batch]

/-- Each call adds its frame at the end. -/
theorem batcherStep_tagged (h : OpenBatch s) (call : BatcherCall) :
    (outbox (batcherStep s call)).flatMap tagged
      = (outbox s).flatMap tagged ++ enqueued call := by
  by_cases hnone : enqueued call = []
  · rw [batcherStep_outbox h hnone, hnone, List.append_nil]
  obtain ⟨context, input, rfl, hplayer⟩ := exists_of_enqueued hnone
  rw [batcherStep, (enqueue_outbox h hplayer).2.1, enqueued, if_pos hplayer, List.flatMap_append,
    List.flatMap_singleton, tagged_batch, List.map_append, closed, joined]
  by_cases happend : s.canAppend context
  · rw [if_pos happend, if_pos happend, outbox_of_canAppend h happend, List.append_assoc]
    rfl
  · rw [if_neg happend, if_neg happend]
    rfl

theorem batcherRun_tagged (calls : List BatcherCall) (h : OpenBatch s) :
    OpenBatch (calls.foldl batcherStep s)
      ∧ (outbox (calls.foldl batcherStep s)).flatMap tagged
        = (outbox s).flatMap tagged ++ calls.flatMap enqueued := by
  induction calls generalizing s with
  | nil => exact ⟨h, (List.append_nil _).symm⟩
  | cons call calls ih =>
    obtain ⟨hopen, hrest⟩ := ih (batcherStep_open h call)
    refine ⟨hopen, ?_⟩
    rw [List.foldl_cons, hrest, batcherStep_tagged h, List.append_assoc, List.flatMap_cons]

/-- The outbox is what was flushed and what is pending. -/
theorem outbox_tagged (h : OpenBatch s) :
    (outbox s).flatMap tagged = s.flushed.flatMap tagged ++ pendingFrames s := by
  by_cases hnil : s.frames = []
  · rw [outbox_of_none hnil, pendingFrames, h.waiting.mp hnil, Option.toList_none,
      List.flatMap_nil, List.append_nil]
  obtain ⟨context, hcontext⟩ := Option.ne_none_iff_exists'.mp fun hnone =>
    hnil (h.waiting.mpr hnone)
  rw [outbox_of_some hnil hcontext, List.flatMap_append, List.flatMap_singleton, tagged_batch,
    pendingFrames, hcontext, Option.toList_some, List.flatMap_singleton]

/-! ## What the encoder accepts -/

/-- The checks of one frame in a context. -/
structure ValidIn (codec : NetplayInputBatchCodec) (context : InputBatchContext)
    (input : SdkInputFrame) : Prop where
  roomEpoch : 0 ≤ context.roomEpoch ∧ context.roomEpoch ≤ codec.maxInteger
  sessionEpoch : 0 ≤ context.sessionEpoch ∧ context.sessionEpoch ≤ codec.maxInteger
  playerIndex : 0 ≤ context.playerIndex ∧ context.playerIndex ≤ 255
  frame : codec.validateFrame context.playerIndex input = .ok ()

theorem encode_isOk_iff {codec : NetplayInputBatchCodec} {frames : List SdkInputFrame}
    (hsome : frames ≠ []) (hcount : frames.length ≤ maxInputBatchFrames) :
    (codec.encode (batch context frames)).isOk
      ↔ (∀ input ∈ frames, ValidIn codec context input)
        ∧ NetplayInputBatchCodec.totalBytes (batch context frames) ≤ maxInputBatchBytes := by
  have hok : (codec.encode (batch context frames)).isOk
      ↔ ∃ bytes, codec.encode (batch context frames) = .ok bytes := by
    cases codec.encode (batch context frames) with
    | error error | ok bytes => simp [Except.isOk, Except.toBool]
  rw [hok]
  simp only [NetplayInputBatchCodec.encode, NetplayInputBatchCodec.validateBatch,
    NetplayInputBatchCodec.assertInteger, NetplayInputBatchCodec.assertByte, bind_eq_ok,
    checked_eq_ok, exists_const, forM_eq_ok, pure, Except.pure, Except.ok.injEq]
  constructor
  · rintro ⟨_, _, ⟨hroom, hsession, hplayer, _, _, hframes⟩, hsize, _⟩
    exact ⟨fun input hinput => ⟨hroom, hsession, hplayer, hframes input hinput⟩, hsize⟩
  rintro ⟨hvalid, hsize⟩
  obtain ⟨first, rest, rfl⟩ := List.exists_cons_of_ne_nil hsome
  have hfirst := hvalid first List.mem_cons_self
  exact ⟨_, (), ⟨hfirst.roomEpoch, hfirst.sessionEpoch, hfirst.playerIndex, hsome, hcount,
    fun input hinput => (hvalid input hinput).frame⟩, hsize, rfl⟩

/-- Frames that are encodable alone. -/
def AllValid (s : NetplayInputFrameBatcher) : Prop :=
  ∀ context, s.context = some context → ∀ input ∈ s.frames, ValidIn typescriptCodec context input

theorem valid_of_alone (h : EncodableAlone (.enqueue context input)) :
    ValidIn typescriptCodec context input :=
  ((encode_isOk_iff (by simp) (by simp [maxInputBatchFrames])).mp h).1 input List.mem_cons_self

/-- What a new frame joins is of its context. -/
theorem joined_valid (hvalid : AllValid s) (h : OpenBatch s) :
    ∀ other ∈ joined s context, ValidIn typescriptCodec context other := by
  intro other hother
  rw [joined] at hother
  by_cases happend : s.canAppend context
  · rw [if_pos happend] at hother
    obtain ⟨current, hcurrent⟩ := Option.ne_none_iff_exists'.mp fun hnone =>
      List.ne_nil_of_mem hother (h.waiting.mpr hnone)
    have hsame : current = context := by simpa [canAppend, hcurrent] using happend
    exact hvalid context (hsame ▸ hcurrent) other hother
  · rw [if_neg happend] at hother
    exact absurd hother (by simp)

theorem joined_short (h : OpenBatch s) :
    (joined s context ++ [input]).length ≤ maxInputBatchFrames := by
  have hfew := h.few
  have hshort : joined s context = [] ∨ ((joined s context).length : Int) < s.maxFrames := by
    rw [joined]
    split
    · exact h.short
    · exact .inl rfl
  rw [List.length_append, List.length_singleton]
  rcases hshort with hnil | hless
  · rw [hnil]
    decide
  · omega

/-- The last batch is encodable exactly if it is small enough. -/
theorem joined_isOk_iff (h : OpenBatch s) (hvalid : AllValid s)
    (halone : EncodableAlone (.enqueue context input)) :
    (typescriptCodec.encode (batch context (joined s context ++ [input]))).isOk
      ↔ (s.canAppend context →
        NetplayInputBatchCodec.totalBytes (batch context (s.frames ++ [input]))
          ≤ maxInputBatchBytes) := by
  have hall : ∀ other ∈ joined s context ++ [input], ValidIn typescriptCodec context other := by
    intro other hother
    rcases List.mem_append.mp hother with hbefore | hlast
    · exact joined_valid hvalid h other hbefore
    · rw [List.mem_singleton.mp hlast]
      exact valid_of_alone halone
  rw [encode_isOk_iff (by simp) (joined_short h), and_iff_right hall, joined]
  by_cases happend : s.canAppend context
  · rw [if_pos happend]
    exact ⟨fun hsize _ => hsize, fun hsize => hsize happend⟩
  · rw [if_neg happend]
    refine iff_of_true ?_ fun hother => absurd hother happend
    exact ((encode_isOk_iff (by simp) (by simp [maxInputBatchFrames])).mp halone).2

theorem flushNow_valid (h : OpenBatch s) : AllValid s.flushNow := by
  intro context hcontext
  rw [(flushNow_frames h).2] at hcontext
  exact absurd hcontext (by simp)

theorem batcherStep_valid (h : OpenBatch s) (hvalid : AllValid s) (halone : EncodableAlone call) :
    AllValid (batcherStep s call) := by
  cases call with
  | flushNow => exact flushNow_valid h
  | timerFires =>
    rw [batcherStep, NetplayInputFrameBatcher.timerFires]
    split
    · exact flushNow_valid h
    · exact hvalid
  | enqueue context input =>
    by_cases hplayer : input.playerIndex = context.playerIndex
    · intro current hcurrent other hother
      obtain ⟨_, _, hnone | ⟨hcontext, hframes⟩⟩ := enqueue_outbox h hplayer
      · exact absurd (hnone.symm.trans hcurrent) (by simp)
      obtain rfl := Option.some.inj (hcontext.symm.trans hcurrent)
      rw [batcherStep, hframes] at hother
      rcases List.mem_append.mp hother with hbefore | hlast
      · exact joined_valid hvalid h other hbefore
      · rw [List.mem_singleton.mp hlast]
        exact valid_of_alone halone
    · rw [batcherStep, NetplayInputFrameBatcher.enqueue, if_pos hplayer]
      exact hvalid

/-- Everything that was flushed or would be flushed now can be encoded. -/
def AllEncode (s : NetplayInputFrameBatcher) : Prop :=
  ∀ batch ∈ outbox s, (typescriptCodec.encode batch).isOk

theorem closed_subset (h : OpenBatch s) (context : InputBatchContext) :
    closed s context ⊆ outbox s := by
  rw [closed]
  split
  · by_cases hnil : s.frames = []
    · rw [outbox_of_none hnil]
      exact List.Subset.refl _
    obtain ⟨current, hcurrent⟩ := Option.ne_none_iff_exists'.mp fun hnone =>
      hnil (h.waiting.mpr hnone)
    rw [outbox_of_some hnil hcurrent]
    exact List.subset_append_left _ _
  · exact List.Subset.refl _

/-- One call keeps everything encodable exactly if its frame fits the open batch. -/
theorem batcherStep_allEncode (h : OpenBatch s) (hvalid : AllValid s) (hall : AllEncode s)
    (halone : EncodableAlone call) : AllEncode (batcherStep s call) ↔ FitsOpenBatch s call := by
  by_cases hnone : enqueued call = []
  · have hkept : AllEncode (batcherStep s call) := by
      rw [AllEncode, batcherStep_outbox h hnone]
      exact hall
    refine iff_of_true hkept ?_
    cases call with
    | flushNow | timerFires => trivial
    | enqueue context input =>
      intro hplayer
      rw [enqueued, if_pos hplayer] at hnone
      exact absurd hnone (by simp)
  · obtain ⟨context, input, rfl, hplayer⟩ := exists_of_enqueued hnone
    have hlast := joined_isOk_iff h hvalid halone
    rw [AllEncode, batcherStep, (enqueue_outbox h hplayer).2.1, FitsOpenBatch,
      forall_prop_of_true hplayer, ← hlast]
    constructor
    · exact fun hboth => hboth _ (by simp)
    intro hok batch hbatch
    rcases List.mem_append.mp hbatch with hclosed | hnew
    · exact hall batch (closed_subset h context hclosed)
    · rw [List.mem_singleton.mp hnew]
      exact hok

/-- An open batch with a frame more can be encoded only if the batch can. -/
theorem isOk_of_append (hsome : s.frames ≠ [])
    (hok : (typescriptCodec.encode (batch context (s.frames ++ [input]))).isOk)
    (hcount : (s.frames ++ [input]).length ≤ maxInputBatchFrames) :
    (typescriptCodec.encode (batch context s.frames)).isOk := by
  obtain ⟨hvalid, hsize⟩ := (encode_isOk_iff (by simp) hcount).mp hok
  have hfewer : s.frames.length ≤ maxInputBatchFrames := by
    rw [List.length_append] at hcount
    omega
  refine (encode_isOk_iff hsome hfewer).mpr
    ⟨fun other hother => hvalid other (List.mem_append_left _ hother), le_trans ?_ hsize⟩
  simp [NetplayInputBatchCodec.totalBytes, batch]

/-- A batch that cannot be encoded stays in the outbox, and no further frame makes it encodable. -/
theorem allEncode_before (h : OpenBatch s) (hall : AllEncode (batcherStep s call)) :
    AllEncode s := by
  by_cases hnone : enqueued call = []
  · rw [AllEncode, batcherStep_outbox h hnone] at hall
    exact hall
  obtain ⟨context, input, rfl, hplayer⟩ := exists_of_enqueued hnone
  rw [AllEncode, batcherStep, (enqueue_outbox h hplayer).2.1] at hall
  have hcount : (joined s context ++ [input]).length ≤ maxInputBatchFrames := joined_short h
  intro earlier hearlier
  by_cases happend : s.canAppend context
  · rw [closed, joined, if_pos happend, if_pos happend] at hall
    rw [joined, if_pos happend] at hcount
    by_cases hnil : s.frames = []
    · rw [outbox_of_none hnil] at hearlier
      exact hall earlier (List.mem_append_left _ hearlier)
    obtain ⟨current, hcurrent⟩ := Option.ne_none_iff_exists'.mp fun hnone =>
      hnil (h.waiting.mpr hnone)
    have hsame : current = context := by simpa [canAppend, hcurrent] using happend
    rw [outbox_of_some hnil hcurrent, hsame] at hearlier
    rcases List.mem_append.mp hearlier with hflushed | hopen
    · exact hall earlier (List.mem_append_left _ hflushed)
    · rw [List.mem_singleton.mp hopen]
      exact isOk_of_append hnil (hall _ (by simp)) hcount
  · rw [closed, if_neg happend] at hall
    exact hall earlier (List.mem_append_left _ hearlier)

theorem allEncode_run (calls : List BatcherCall) (h : OpenBatch s)
    (hall : AllEncode (calls.foldl batcherStep s)) : AllEncode s := by
  induction calls generalizing s with
  | nil => exact hall
  | cons call calls ih => exact allEncode_before h (ih (batcherStep_open h call) hall)

/-- The outbox is what was flushed and the open batch. -/
theorem allEncode_iff (h : OpenBatch s) :
    AllEncode s ↔ (∀ batch ∈ s.flushed, (typescriptCodec.encode batch).isOk)
      ∧ ∀ context, s.context = some context →
        (typescriptCodec.encode (batch context s.frames)).isOk := by
  by_cases hnil : s.frames = []
  · rw [AllEncode, outbox_of_none hnil, h.waiting.mp hnil]
    simp
  obtain ⟨current, hcurrent⟩ := Option.ne_none_iff_exists'.mp fun hnone =>
    hnil (h.waiting.mpr hnone)
  rw [AllEncode, outbox_of_some hnil hcurrent, hcurrent]
  simp [or_imp, forall_and]

/-- **The batcher loses no frame, and the encoder takes its batches while they are small.** What was
flushed, then what is pending, is what was enqueued, in order and each frame under its context; and
for frames that can be encoded alone, every batch that was flushed and the one that is open can be
encoded exactly if no frame ever joined an open batch that it makes too large. -/
theorem batcher_conserves (maxFrames : Option Int) (calls : List BatcherCall) :
    let s := calls.foldl batcherStep (.new maxFrames)
    s.flushed.flatMap tagged ++ pendingFrames s = calls.flatMap enqueued
      ∧ (∀ batch ∈ s.flushed, ∀ input ∈ batch.frames, input.playerIndex = batch.playerIndex)
      ∧ ((∀ call ∈ calls, EncodableAlone call) →
        ((∀ batch ∈ s.flushed, (typescriptCodec.encode batch).isOk)
          ∧ (∀ context, s.context = some context →
            (typescriptCodec.encode (batch context s.frames)).isOk)
          ↔ Guarded (fun s call => some (batcherStep s call)) FitsOpenBatch (.new maxFrames)
            calls)) := by
  intro s
  obtain ⟨hopen, htagged⟩ := batcherRun_tagged calls (new_open maxFrames)
  have hall : s.flushed.flatMap tagged ++ pendingFrames s = calls.flatMap enqueued := by
    rw [← outbox_tagged hopen, htagged]
    rfl
  refine ⟨hall, ?_, fun halone => ?_⟩
  · intro batch hbatch input hinput
    have hpair : (⟨batch.playerIndex, batch.roomEpoch, batch.sessionEpoch⟩, input)
        ∈ calls.flatMap enqueued := by
      rw [← hall]
      exact List.mem_append_left _
        (List.mem_flatMap.mpr ⟨batch, hbatch, List.mem_map.mpr ⟨input, hinput, rfl⟩⟩)
    obtain ⟨call, _, hcall⟩ := List.mem_flatMap.mp hpair
    cases call with
    | flushNow | timerFires => exact absurd hcall (by simp [enqueued])
    | enqueue context other =>
        rw [enqueued] at hcall
        split at hcall
        · rename_i hplayer
          obtain ⟨rfl, rfl⟩ := Prod.mk.inj (List.mem_singleton.mp hcall)
          exact hplayer
        · exact absurd hcall (by simp)
  · have hallowed : Guarded (fun s call => some (batcherStep s call)) (fun _ => EncodableAlone)
        (.new maxFrames) calls :=
      guarded_iff_forall_split.mpr fun done call rest hsplit => halone call (by simp [hsplit])
    have hinv : ∀ s call t, OpenBatch s ∧ AllValid s → EncodableAlone call →
        some (batcherStep s call) = some t → OpenBatch t ∧ AllValid t := by
      intro s call t hinv halone ht
      rw [← Option.some.inj ht]
      exact ⟨batcherStep_open hinv.1 call, batcherStep_valid hinv.1 hinv.2 halone⟩
    have hstep : ∀ s call t, OpenBatch s ∧ AllValid s → AllEncode s → EncodableAlone call →
        some (batcherStep s call) = some t → (AllEncode t ↔ FitsOpenBatch s call) := by
      intro s call t hinv hencode halone ht
      rw [← Option.some.inj ht]
      exact batcherStep_allEncode hinv.1 hinv.2 hencode halone
    have hvalid : AllValid (.new maxFrames) :=
      fun context hcontext => absurd hcontext (by simp [NetplayInputFrameBatcher.new])
    have hempty : AllEncode (.new maxFrames) := fun batch hbatch => absurd hbatch (by
      simp [outbox, NetplayInputFrameBatcher.flushNow, NetplayInputFrameBatcher.new])
    rw [← allEncode_iff hopen, ← forall_reached_iff_guarded hinv hstep
      (fun _ _ _ _ _ hstop => absurd hstop (by simp)) ⟨new_open maxFrames, hvalid⟩ hempty hallowed]
    constructor
    · -- whatever could not be encoded on the way could not be encoded at the end
      rintro hend done t ⟨rest, hrest⟩ ht
      rw [run_some] at ht
      obtain rfl := Option.some.inj ht
      refine allEncode_run rest (batcherRun_tagged done (new_open maxFrames)).1 ?_
      rwa [← List.foldl_append, hrest]
    · exact fun h => h calls _ (List.prefix_refl calls) (run_some batcherStep _ calls)

/-- Two frames of one context, and one of the next that waits. -/
def sampleStream : List BatcherCall :=
  [.enqueue ⟨0, 1, 1⟩ ⟨0, 5, [1]⟩, .enqueue ⟨0, 1, 1⟩ ⟨0, 6, [2]⟩, .enqueue ⟨0, 2, 2⟩ ⟨0, 0, []⟩]

/-- Small frames are flushed in batches that can be encoded. -/
theorem batcher_conserves_sample :
    let s := sampleStream.foldl batcherStep (.new none)
    s.flushed = [batch ⟨0, 1, 1⟩ [⟨0, 5, [1]⟩, ⟨0, 6, [2]⟩]]
      ∧ pendingFrames s = [(⟨0, 2, 2⟩, ⟨0, 0, []⟩)]
      ∧ ∀ batch ∈ s.flushed, (typescriptCodec.encode batch).isOk := by
  have halone : ∀ call ∈ sampleStream, EncodableAlone call := by decide +kernel
  have hfits : Guarded (fun s call => some (batcherStep s call)) FitsOpenBatch (.new none)
      sampleStream :=
    ⟨fun _ _ => by decide, fun _ _ => by decide, fun _ _ => by decide, trivial⟩
  exact ⟨rfl, rfl, (((batcher_conserves none sampleStream).2.2 halone).mpr hfits).1⟩

/-- Half of a message, with room for a header. -/
def halfFrame (frame : Int) : SdkInputFrame := ⟨0, frame, List.replicate 4100 0⟩

theorem halfFrame_alone {frame : Int} (h : 0 ≤ frame ∧ frame ≤ maxSafeInteger) :
    EncodableAlone (.enqueue ⟨0, 1, 1⟩ (halfFrame frame)) := by
  refine (encode_isOk_iff (by simp) (by simp [maxInputBatchFrames])).mpr ⟨?_, ?_⟩
  · intro input hinput
    rw [List.mem_singleton.mp hinput]
    refine ⟨by decide, by decide, by decide, validateFrame_eq_ok.mpr ⟨h, rfl, ?_, ?_⟩⟩
    · rw [halfFrame, List.length_replicate]
      decide
    · intro value hvalue
      rw [List.eq_of_mem_replicate hvalue]
      decide
  · simp only [NetplayInputBatchCodec.totalBytes, batch, halfFrame, List.map_cons, List.map_nil,
      List.length_replicate]
    decide

/-- Two frames that each fit a message are flushed together, in a batch that does not. -/
theorem batcher_overfills :
    ∃ calls : List BatcherCall, (∀ call ∈ calls, EncodableAlone call)
      ∧ ∃ batch ∈ (calls.foldl batcherStep (.new none)).flushed,
        ¬(typescriptCodec.encode batch).isOk := by
  refine ⟨[.enqueue ⟨0, 1, 1⟩ (halfFrame 0), .enqueue ⟨0, 1, 1⟩ (halfFrame 1)], ?_,
    batch ⟨0, 1, 1⟩ [halfFrame 0, halfFrame 1], List.mem_cons_self, fun hok => ?_⟩
  · intro call hcall
    rcases List.mem_pair.mp hcall with rfl | rfl
    · exact halfFrame_alone (by decide)
    · exact halfFrame_alone (by decide)
  · have hsize := ((encode_isOk_iff (by simp) (by simp [maxInputBatchFrames])).mp hok).2
    simp only [NetplayInputBatchCodec.totalBytes, batch, halfFrame, List.map_cons, List.map_nil,
      List.length_replicate] at hsize
    exact absurd hsize (by decide)

end NetplayRelay.Proof
