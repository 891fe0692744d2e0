import NetplayRelay.Proof.SideSteps
import NetplayRelay.Proof.Transfers
import Mathlib.Data.List.DropRight

/-!
# A lent ROM

The guest asks for the host's ROM, the broker issues two grants, and the room records the transfer:
who sends, who receives, both grants and the ROM. The host is given its grant right away. The
guest's grant is kept back until the host reports that the upload is done; the guest's report that
the download is done ends the transfer.

`romMove` says what any call can do to the recorded transfer. From it, the record is compared with
the history: `activeCalls` are the calls made while the present transfer was there, and the upload
counts as done exactly when one of them was the sender's report of it.
-/

namespace NetplayRelay.Proof

open Lib Protocol Rooms Registry NetplayRoom

variable {relay : Relay} {r r' : NetplayRoom} {op : RoomOp} {past : List (StoredRoom × RoomOp)}
  {s : StoredRoom} {c : ConnectionId}

/-! ## Reports -/

/-- The socket that reports for a role. -/
def participant (transfer : RomRelayTransferState) : RomRelayGrantRole → ConnectionId
  | .upload => transfer.senderConnection
  | .download => transfer.receiverConnection

/-- The participant of this role reports that its part is done, with the id of the transfer and the
content hash of its ROM. -/
def reportsDone (transfer : RomRelayTransferState) (role : RomRelayGrantRole) : RoomOp → Bool
  | .relayRomRelayCompleted c completion =>
    completion.role = role && c = participant transfer role
      && completion.transferId = transfer.uploadGrant.transferId
      && normalizeContentHash completion.contentHash = transfer.rom.normalizedHash
  | _ => false

/-- One of the two participants, speaking of this transfer if it names one. -/
def takesPartIn (transfer : RomRelayTransferState) (c : ConnectionId) (id : Option Text) : Bool :=
  (c = transfer.senderConnection || c = transfer.receiverConnection)
    && id.all (· = transfer.uploadGrant.transferId)

/-- The grant that a call hands out after the upload, and to whom. -/
def handedOut (r : NetplayRoom) : RoomOp → Option (ConnectionId × RomRelayGrant)
  | .relayRomRelayCompleted c completion =>
    match (r.acceptRomRelayCompletion c completion).1 with
    | .ok download => download
    | .error _ => none
  | _ => none

/-- What is recorded when the grants arrive. -/
def lend (intent : RomRelayTransferIntent) (grants : RomRelayGrantPair) :
    RomRelayTransferState where
  senderConnection := intent.senderConnection
  receiverConnection := intent.receiverConnection
  senderPlayerIndex := intent.senderPlayerIndex
  receiverPlayerIndex := intent.receiverPlayerIndex
  uploadGrant := grants.upload
  downloadGrant := grants.download
  rom := intent.rom
  uploadComplete := false
  downloadComplete := false

/-- What becomes of a report that something is done. -/
inductive RomReport (transfer : RomRelayTransferState) (c : ConnectionId)
    (completion : RomRelayCompletion) :
    Except RomRelayBlockReason ConnectionId × RomRelayTransferState → Prop
  | refused {reason : RomRelayBlockReason}
      (h : reportsDone transfer .upload (.relayRomRelayCompleted c completion) = false) :
      RomReport transfer c completion (.error reason, transfer)
  | uploaded (hrole : completion.role = .upload)
      (h : reportsDone transfer .upload (.relayRomRelayCompleted c completion)) :
      RomReport transfer c completion
        (.ok transfer.receiverConnection, { transfer with uploadComplete := true })
  | downloaded (hrole : completion.role = .download)
      (h : reportsDone transfer .download (.relayRomRelayCompleted c completion))
      (huploaded : transfer.uploadComplete) :
      RomReport transfer c completion
        (.ok transfer.senderConnection, { transfer with downloadComplete := true })

theorem acceptCompletion_report (transfer : RomRelayTransferState) (c : ConnectionId)
    (completion : RomRelayCompletion) :
    RomReport transfer c completion (transfer.acceptCompletion c completion) := by
  fun_cases RomRelayTransferState.acceptCompletion transfer c completion with
  | case1 hhash => exact .refused (by simp [reportsDone, hhash])
  | case2 _ hid => exact .refused (by simp [reportsDone, hid])
  | case3 hhash hid hrole hsource =>
    exact .uploaded hrole (by simp_all [reportsDone, participant])
  | case4 hhash hid hrole hsource => exact .refused (by simp [reportsDone, participant, hsource])
  | case5 hhash hid hrole | case7 hhash hid hrole => exact .refused (by simp [reportsDone, hrole])
  | case6 hhash hid hrole hsource huploaded =>
    exact .downloaded hrole (by simp_all [reportsDone, participant]) (by simpa using huploaded)

/-! ## What a call can do to the transfer -/

def isRomCall : RoomOp → Bool
  | .grantRomRelayUpload .. | .relayRomRelayCompleted .. | .relayRomRelayFailed ..
  | .relayRomRelayCancelled .. => true
  | _ => false

/-- Calls that are not about the ROM leave the transfer alone or forget it. -/
theorem effect_rom (hop : isRomCall op = false) (h : Effect relay r op r') :
    r'.romRelayTransfer = r.romRelayTransfer ∨ r'.romRelayTransfer = none := by
  cases effect_side h with
  | aside haside =>
    cases haside with
    | kept h | fileGranted _ h | packetTaken h | hashNoted h =>
      exact .inl (congrArg (·.romRelayTransfer) h)
    | romGranted | romWentOn => exact absurd hop (by simp [isRomCall])
    | romEnded h => exact .inr (congrArg (·.romRelayTransfer) h)
  | fresh hside | rejected hside => exact .inr (congrArg (·.romRelayTransfer) hside)
  | resumed hside | linked hside => exact .inl (congrArg (·.romRelayTransfer) hside)

/-- What a call makes of the recorded transfer. -/
inductive RomMove (r : NetplayRoom) : RoomOp → Option RomRelayTransferState → Prop
  | kept {op : RoomOp}
      (h : ∀ transfer, r.romRelayTransfer = some transfer →
        reportsDone transfer .upload op = false) :
      RomMove r op r.romRelayTransfer
  | dropped {op : RoomOp} (h : ∀ c completion, op = .relayRomRelayCompleted c completion →
        ∀ transfer, r.romRelayTransfer = some transfer →
          reportsDone transfer .download op ∧ transfer.uploadComplete) :
      RomMove r op none
  | granted {c : ConnectionId} {grants : RomRelayGrantPair} {intent : RomRelayTransferIntent}
      (h : RomIntent r c intent) :
      RomMove r (.grantRomRelayUpload c grants) (some (lend intent grants))
  | uploaded {op : RoomOp} {transfer : RomRelayTransferState}
      (htransfer : r.romRelayTransfer = some transfer) (h : reportsDone transfer .upload op) :
      RomMove r op (some { transfer with uploadComplete := true })

theorem acceptRomRelayCompletion_move (c : ConnectionId) (completion : RomRelayCompletion) :
    RomMove r (.relayRomRelayCompleted c completion)
      (r.acceptRomRelayCompletion c completion).2.romRelayTransfer := by
  rw [acceptRomRelayCompletion]
  cases htransfer : r.romRelayTransfer with
  | none =>
    have hkept : RomMove r (.relayRomRelayCompleted c completion) r.romRelayTransfer :=
      .kept fun transfer h => absurd (htransfer.symm.trans h) (by simp)
    exact hkept
  | some transfer =>
    have hreport := acceptCompletion_report transfer c completion
    dsimp only
    generalize transfer.acceptCompletion c completion = outcome at hreport ⊢
    cases hreport with
    | refused h =>
      have hkept : RomMove r (.relayRomRelayCompleted c completion) r.romRelayTransfer := by
        refine .kept fun transfer' h' => ?_
        obtain rfl := Option.some.inj (htransfer.symm.trans h')
        exact h
      rw [htransfer] at hkept
      exact hkept
    | uploaded hrole h =>
      simp only [hrole]
      exact .uploaded htransfer h
    | downloaded hrole h huploaded =>
      simp only [hrole]
      refine .dropped fun c' completion' _ transfer' h' => ?_
      obtain rfl := Option.some.inj (htransfer.symm.trans h')
      exact ⟨h, huploaded⟩

/-- **Every call makes one of four moves.** -/
theorem romMove (relay : Relay) (r : NetplayRoom) (op : RoomOp) :
    RomMove r op (applyOp relay r op).romRelayTransfer := by
  have hkept : (∀ transfer, reportsDone transfer .upload op = false) →
      RomMove r op r.romRelayTransfer := fun h => .kept fun transfer _ => h transfer
  cases hop : isRomCall op with
  | false =>
    have hreport : ∀ transfer, reportsDone transfer .upload op = false := by
      intro transfer
      cases op <;> first | rfl | exact absurd hop (by simp [isRomCall])
    rcases effect_rom hop (applyOp_effect relay r op) with h | h
    · rw [h]
      exact hkept hreport
    · rw [h]
      refine .dropped fun c completion hcompleted => ?_
      exact absurd hop (by simp [hcompleted, isRomCall])
  | true =>
    cases op with
    | relayRomRelayCompleted c completion => exact acceptRomRelayCompletion_move c completion
    | grantRomRelayUpload c grants =>
      rw [applyOp, acceptRomRelayGrants]
      split
      · exact hkept fun _ => rfl
      · rename_i hintent
        exact .granted (prepareRomRelayTransfer_intent hintent)
    | relayRomRelayFailed c id | relayRomRelayCancelled c id =>
      rw [applyOp]
      simp only [acceptRomRelayFailure, acceptRomRelayCancelled, endRomRelayTransfer]
      split
      · exact hkept fun _ => rfl
      · exact .dropped fun _ _ h => absurd h (by simp)
    | _ => exact absurd hop (by simp [isRomCall])

/-! ## The transfer along a history -/

/-- The calls made while the present transfer was there. -/
def activeCalls (past : List (StoredRoom × RoomOp)) : List (StoredRoom × RoomOp) :=
  past.rtakeWhile fun visit => visit.1.room.romRelayTransfer.isSome

/-- How a transfer came to be recorded, and what has happened since. -/
structure Lent (past : List (StoredRoom × RoomOp)) (transfer : RomRelayTransferState) : Prop where
  /-- It was granted in a room without a transfer, and has been the only one since. -/
  granted : ∃ before s c grants intent,
    past = before ++ (s, .grantRomRelayUpload c grants) :: activeCalls past
      ∧ RomIntent s.room c intent
      ∧ transfer = { lend intent grants with uploadComplete := transfer.uploadComplete }
  /-- The upload counts as done once the sender has said so. -/
  uploaded : transfer.uploadComplete
    ↔ ∃ visit ∈ activeCalls past, reportsDone transfer .upload visit.2

/-- The transfer in the room was lent, with the ROM of the session. -/
def RomLent (past : List (StoredRoom × RoomOp)) (r : NetplayRoom) : Prop :=
  ∀ transfer, r.romRelayTransfer = some transfer →
    Lent past transfer ∧ r.session.romIdentity = some transfer.rom

theorem SameTerms.romIdentity (h : SameTerms r r') :
    r'.session.romIdentity = r.session.romIdentity := by
  obtain ⟨_, hsession⟩ := h.session
  rw [hsession]

theorem activeCalls_concat (h : s.room.romRelayTransfer.isSome) :
    activeCalls (past ++ [(s, op)]) = activeCalls past ++ [(s, op)] :=
  List.rtakeWhile_concat_pos _ _ _ h

/-- The transfer goes on: the upload may have been reported by this call. -/
theorem Lent.concat {transfer : RomRelayTransferState} (h : Lent past transfer)
    (htransfer : s.room.romRelayTransfer.isSome) :
    Lent (past ++ [(s, op)])
      { transfer with
        uploadComplete := transfer.uploadComplete || reportsDone transfer .upload op } := by
  constructor
  · obtain ⟨before, s₀, c, grants, intent, hpast, hintent, hsame⟩ := h.granted
    refine ⟨before, s₀, c, grants, intent, ?_, hintent, ?_⟩
    · rw [activeCalls_concat htransfer]
      nth_rewrite 1 [hpast]
      simp
    · exact congrArg (fun lent : RomRelayTransferState =>
        { lent with
          uploadComplete := transfer.uploadComplete || reportsDone transfer .upload op }) hsame
  · rw [activeCalls_concat htransfer, Bool.or_eq_true, h.uploaded]
    simp only [List.mem_append, List.mem_singleton, or_and_right, exists_or, exists_eq_left]
    rfl

theorem romLent_step (hinv : RomLent past s.room) :
    RomLent (past ++ [(s, op)]) (applyOp relay s.room op) := by
  intro transfer htransfer
  have hterms := effect_terms (applyOp_effect relay s.room op)
  rw [hterms.romIdentity]
  have hmove := romMove relay s.room op
  rw [htransfer] at hmove
  generalize hafter : some transfer = after at hmove
  cases hmove with
  | kept h =>
    obtain ⟨hlent, hrom⟩ := hinv transfer hafter.symm
    have hnext : Lent (past ++ [(s, op)]) _ := hlent.concat (by rw [← hafter]; rfl)
    rw [h transfer hafter.symm, Bool.or_false] at hnext
    exact ⟨hnext, hrom⟩
  | dropped => exact absurd hafter (by simp)
  | @granted c grants intent h =>
    obtain rfl := Option.some.inj hafter
    have hnone : activeCalls (past ++ [(s, .grantRomRelayUpload c grants)]) = [] :=
      List.rtakeWhile_concat_neg _ _ _ (by simp [h.free])
    refine ⟨⟨⟨past, s, c, grants, intent, ?_, h, rfl⟩, ?_⟩, h.rom⟩
    · rw [hnone]
    · rw [hnone]
      exact iff_of_false Bool.false_ne_true (by simp)
  | @uploaded _ old hold h =>
    obtain rfl := Option.some.inj hafter
    obtain ⟨hlent, hrom⟩ := hinv old hold
    have hnext : Lent (past ++ [(s, op)]) _ := hlent.concat (by rw [hold]; rfl)
    rw [h, Bool.or_true] at hnext
    exact ⟨hnext, hrom⟩

/-! ## Who may do what -/

/-- What a room makes of its next call, as far as the ROM goes. -/
structure RomInOrder (relay : Relay) (past : List (StoredRoom × RoomOp)) (r : NetplayRoom)
    (op : RoomOp) : Prop where
  /-- There is one transfer at most, and it was granted and reported as it says. -/
  lent : RomLent past r
  /-- The download grant is handed to the receiver when the sender reports its upload. -/
  handed : ∀ receiver grant, handedOut r op = some (receiver, grant) →
    ∃ transfer, r.romRelayTransfer = some transfer ∧ reportsDone transfer .upload op
      ∧ receiver = transfer.receiverConnection ∧ grant = transfer.downloadGrant
  /-- A completion report ends the transfer only if it is the receiver's, after the sender's. -/
  downloaded : ∀ c completion transfer, op = .relayRomRelayCompleted c completion →
    r.romRelayTransfer = some transfer → (applyOp relay r op).romRelayTransfer = none →
    reportsDone transfer .download op
      ∧ ∃ visit ∈ activeCalls past, reportsDone transfer .upload visit.2
  /-- Nobody else can end it. -/
  ended : ∀ c id, op = .relayRomRelayFailed c id ∨ op = .relayRomRelayCancelled c id →
    (∀ transfer, r.romRelayTransfer = some transfer → takesPartIn transfer c id = false) →
    applyOp relay r op = r
  /-- Progress is passed on for the participants only, and changes nothing. -/
  progress : ∀ c progress, op = .relayRomRelayProgress c progress → applyOp relay r op = r
    ∧ ((r.acceptRomRelayProgress c progress).isOk → ∃ transfer, r.romRelayTransfer = some transfer
      ∧ takesPartIn transfer c (some progress.transferId))
  /-- While there is a transfer no other one is granted. -/
  single : ∀ c grants, op = .grantRomRelayUpload c grants → r.romRelayTransfer.isSome →
    applyOp relay r op = r

theorem handedOut_spec {receiver : ConnectionId} {grant : RomRelayGrant}
    (h : handedOut r op = some (receiver, grant)) :
    ∃ transfer, r.romRelayTransfer = some transfer ∧ reportsDone transfer .upload op
      ∧ receiver = transfer.receiverConnection ∧ grant = transfer.downloadGrant := by
  cases op with
  | relayRomRelayCompleted c completion =>
    rw [handedOut, acceptRomRelayCompletion] at h
    cases htransfer : r.romRelayTransfer with
    | none =>
      rw [htransfer] at h
      exact absurd h (by simp)
    | some transfer =>
      rw [htransfer] at h
      dsimp only at h
      have hreport := acceptCompletion_report transfer c completion
      generalize transfer.acceptCompletion c completion = outcome at hreport h
      cases hreport with
      | refused => exact absurd h (by simp)
      | uploaded hrole hdone =>
        simp only [hrole, Option.some.injEq, Prod.mk.injEq] at h
        exact ⟨transfer, rfl, hdone, h.1.symm, h.2.symm⟩
      | downloaded hrole => exact absurd h (by simp [hrole])
  | _ => exact absurd h (by simp [handedOut])

theorem endRomRelayTransfer_refused {id : Option Text}
    (h : ∀ transfer, r.romRelayTransfer = some transfer → takesPartIn transfer c id = false) :
    (r.endRomRelayTransfer c id).2 = r := by
  rw [endRomRelayTransfer, ensureRomRelayParticipant]
  cases htransfer : r.romRelayTransfer with
  | none => rfl
  | some transfer =>
    have hother := h transfer htransfer
    dsimp only
    by_cases hid : id.any (· ≠ transfer.uploadGrant.transferId)
    · rw [if_pos hid]
    have hsource : ¬(c = transfer.senderConnection ∨ c = transfer.receiverConnection) := by
      intro hsource
      cases id <;> simp_all [takesPartIn]
    rw [if_neg hid, if_neg hsource]

theorem acceptRomRelayProgress_participant {progress : RomRelayProgress}
    (h : (r.acceptRomRelayProgress c progress).isOk) :
    ∃ transfer, r.romRelayTransfer = some transfer
      ∧ takesPartIn transfer c (some progress.transferId) := by
  rw [acceptRomRelayProgress] at h
  cases htransfer : r.romRelayTransfer with
  | none =>
    rw [htransfer] at h
    exact absurd h Bool.false_ne_true
  | some transfer =>
    rw [htransfer] at h
    refine ⟨transfer, rfl, ?_⟩
    dsimp only at h
    split at h
    · exact absurd h Bool.false_ne_true
    rename_i hid
    have hsource : c = transfer.senderConnection ∨ c = transfer.receiverConnection := by
      cases hrole : progress.role <;> rw [hrole] at h <;> dsimp only at h
      · by_contra hother
        rw [if_neg (fun hc => hother (.inl hc))] at h
        exact absurd h Bool.false_ne_true
      · by_contra hother
        rw [if_neg (fun hc => hother (.inr hc))] at h
        exact absurd h Bool.false_ne_true
    simp [takesPartIn, hsource, not_not.mp hid]

theorem acceptRomRelayGrants_active {grants : RomRelayGrantPair} (h : r.romRelayTransfer.isSome) :
    (r.acceptRomRelayGrants c grants).2 = r := by
  rw [acceptRomRelayGrants]
  split
  · rfl
  · rename_i hintent
    rw [(prepareRomRelayTransfer_intent hintent).free] at h
    exact absurd h Bool.false_ne_true

/-- **For every history of a room and every next call: the guest's grant is handed out only on the
report of the recorded sender, only the recorded receiver's report of the download ends the
transfer, and only after the upload, nobody else changes anything, and there is one transfer at
most.** -/
theorem rom_relay_in_order {roomId key c session version resume input now voice ops s}
    (hrun : run (StoredRoom.step relay)
      (createRoom roomId key c session version resume input now voice) ops = some s) (op : RoomOp) :
    RomInOrder relay (visits (StoredRoom.step relay)
      (createRoom roomId key c session version resume input now voice) ops) s.room op := by
  have hkeep : ∀ past s op t, RomLent past s.room → True → s.step relay op = some t →
      RomLent (past ++ [(s, op)]) t.room := by
    intro past s op t hinv _ hstep
    rw [step_room hstep]
    exact romLent_step hinv
  have hnew : RomLent [] (createRoom roomId key c session version resume input now voice).room := by
    intro transfer htransfer
    have hnone : (createRoom roomId key c session version resume input now
        voice).room.romRelayTransfer = none := by
      cases voice <;> rfl
    exact absurd (hnone.symm.trans htransfer) (by simp)
  have hlent := history_run hkeep guarded_true.history hrun hnew
  rw [List.nil_append] at hlent
  refine ⟨hlent, fun _ _ h => handedOut_spec h, ?_, ?_, ?_, ?_⟩
  · rintro c completion transfer rfl htransfer hnone
    have hmove := romMove relay s.room (.relayRomRelayCompleted c completion)
    rw [hnone] at hmove
    generalize hafter : (none : Option RomRelayTransferState) = after at hmove
    cases hmove with
    | kept => exact absurd (hafter.trans htransfer) (by simp)
    | dropped h =>
        obtain ⟨hdone, huploaded⟩ := h c completion rfl transfer htransfer
        exact ⟨hdone, (hlent transfer htransfer).1.uploaded.mp huploaded⟩
    | uploaded => exact absurd hafter (by simp)
  · rintro c id (rfl | rfl) h <;> exact endRomRelayTransfer_refused h
  · rintro c progress rfl
    exact ⟨rfl, acceptRomRelayProgress_participant⟩
  · rintro c grants rfl h
    exact acceptRomRelayGrants_active h

/-- The host reports its upload, with the hash of the session's ROM, and the guest gets its
grant. -/
theorem rom_relay_in_order_upload :
    let report := RoomOp.relayRomRelayCompleted hostSocket ⟨"rom".toList, .upload, sampleHash⟩
    ∃ s, run (StoredRoom.step sampleRelay) lendingRoom lending = some s
      ∧ handedOut s.room report = some (guestSocket, sampleRomGrants.download)
      ∧ ∃ transfer, s.room.romRelayTransfer = some transfer ∧ reportsDone transfer .upload report
        ∧ Lent (visits (StoredRoom.step sampleRelay) lendingRoom lending) transfer := by
  intro report
  have hfacts : ∃ s ∈ run (StoredRoom.step sampleRelay) lendingRoom lending,
      handedOut s.room report = some (guestSocket, sampleRomGrants.download) := by
    decide +kernel
  obtain ⟨s, hs, hhanded⟩ := hfacts
  have horder := rom_relay_in_order hs report
  obtain ⟨transfer, htransfer, hdone, _⟩ := horder.handed _ _ hhanded
  exact ⟨s, hs, hhanded, transfer, htransfer, hdone, (horder.lent transfer htransfer).1⟩

end NetplayRelay.Proof
