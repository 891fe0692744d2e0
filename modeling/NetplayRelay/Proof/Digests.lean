import NetplayRelay.Proof.Fingerprints
import NetplayRelay.Proof.Recorders

/-!
# Letter case of digests

Six fields of a fingerprint are SHA-256 digests, written in hexadecimal, and every check of a single
fingerprint takes them in either case. When two fingerprints are compared the six are treated in
three ways. The content hash is stored in lower case. The two digests of the determinism profile
are compared without regard to case. The hashes of the settings, the cheats and the system data are
compared as they came.

The first half is about the verdict on a pair of fingerprints. It depends on the two stored
fingerprints alone: not on who reports first and not on the entry that the map yields first. The
second half changes letter case. A verdict that ignores case throughout is that on the folded
fingerprints; the room gives it for every spelling of the digests exactly when the folded
fingerprints differ anyway, or when the three digests that are compared as they came have no
letters.
-/

namespace NetplayRelay.Proof

open Lib Protocol Rooms Registry NetplayRoom

variable {relay : Relay} {r r' : NetplayRoom} {c d : ConnectionId} {p q : PlayerIndex}
  {f g : CompatibilityFingerprint}

/-! ## The verdict on a pair -/

/-- A fingerprint as it is stored. -/
def asStored (fp : CompatibilityFingerprint) : CompatibilityFingerprint :=
  { fp with contentHash := fp.contentHash.toAsciiLowercase }

/-- Two players report one after the other: the answer to the second report, and the status that the
room is left in. -/
def verdict (r : NetplayRoom) (order₁ order₂ : HashOrder)
    (first second : ConnectionId × CompatibilityFingerprint) : Except RoomError Unit × RoomStatus :=
  let reported := (r.setCompatibilityForConnection order₁ first.1 first.2).2
  let (answer, room) := reported.setCompatibilityForConnection order₂ second.1 second.2
  (answer, room.status)

/-- A fingerprint that fits the session is stored; all are compared once all are there. -/
theorem setCompatibility_fitting (order : HashOrder) {fp : CompatibilityFingerprint}
    (hmode : r.session.mode = .controllerNetplay) (hopen : r.status ≠ .closed)
    (hp : r.playerIndexForConnection c = some p) (hfp : r.fingerprintMatchesSession fp) :
    r.setCompatibilityForConnection order c fp
      = if !(r.storeFingerprint p fp).connectedPlayersHaveFingerprints then
          (.ok (), r.storeFingerprint p fp)
        else if (r.storeFingerprint p fp).storedFingerprintsMismatch order then
          (.error .compatibilityMismatch, (r.storeFingerprint p fp).failCompatibility)
        else (.ok (), (r.storeFingerprint p fp).enterSyncingState) := by
  rw [setCompatibilityForConnection, if_neg (not_not.mpr hmode), if_neg hopen, hp]
  simp only [hfp, Bool.not_true, Bool.false_eq_true, if_false]

/-- Whatever the comparison says, the fingerprint is stored and the room stays open. -/
theorem setCompatibility_stores (order : HashOrder) {fp : CompatibilityFingerprint}
    (hmode : r.session.mode = .controllerNetplay) (hopen : r.status ≠ .closed)
    (hp : r.playerIndexForConnection c = some p) (hfp : r.fingerprintMatchesSession fp) :
    (r.setCompatibilityForConnection order c fp).2.compatibility
        = r.compatibility.insert p (asStored fp)
      ∧ (r.setCompatibilityForConnection order c fp).2.status ≠ .closed := by
  rw [setCompatibility_fitting order hmode hopen hp hfp]
  split
  · exact ⟨rfl, hopen⟩
  · split
    · exact ⟨rfl, by simp⟩
    · exact ⟨rfl, by simp⟩

/-- Fingerprints are stored for the two players only. -/
def KeysSeated (r : NetplayRoom) : Prop :=
  ∀ p, (r.compatibility.lookup p).isSome → p = .one ∨ p = .two

theorem Seats.index (h : Seats r) (hp : r.playerIndexForConnection c = some p) :
    p = .one ∨ p = .two := by
  obtain ⟨slot, hslot, rfl⟩ := Option.map_eq_some_iff.mp hp
  have hindex : slot.playerIndex ∈ r.players.map (·.playerIndex) :=
    List.mem_map_of_mem (List.mem_of_find?_eq_some hslot)
  rw [h.indices] at hindex
  simpa using hindex

/-- There are no more than two seats. -/
theorem Seats.either {k : PlayerIndex} (h : Seats r) (hp : r.playerIndexForConnection c = some p)
    (hq : r.playerIndexForConnection d = some q) (hpq : p ≠ q) (hk : k = .one ∨ k = .two) :
    k = p ∨ k = q := by
  rcases h.index hp with rfl | rfl <;> rcases h.index hq with rfl | rfl
  · exact absurd rfl hpq
  · exact hk
  · exact hk.symm
  · exact absurd rfl hpq

theorem keysSeated_reachable {s : StoredRoom} (h : Reachable relay s) : KeysSeated s.room := by
  refine reachable_inv KeysSeated ?_ ?_ h
  · intro roomId key c session version resume input now voice p hp
    cases voice <;> exact absurd hp Bool.false_ne_true
  intro s op hreachable hinv _ p hp
  have hentry : holdsEntry (sessionCore (applyOp relay s.room op)) p .fingerprint := hp
  rcases entry_recorded hentry with hold | ⟨c, hc⟩
  · exact hinv p hold
  · exact (seats_reachable hreachable).index (recorder_spec hc).1

/-- The two stored fingerprints are compared, whichever comes first. -/
theorem storedFingerprintsMismatch_iff (order : HashOrder)
    (hmode : r.session.mode = .controllerNetplay) (hfit : StoredFit r)
    (hp : r.compatibility.lookup p = some f) (hq : r.compatibility.lookup q = some g)
    (hkeys : ∀ k fp, r.compatibility.lookup k = some fp → fp = f ∨ fp = g) :
    r.storedFingerprintsMismatch order = false ↔ f.firstMismatch g = none := by
  refine ⟨fun h => stored_agree hmode hfit h hp hq, fun hagree => ?_⟩
  have hself := firstMismatch_self hmode (hfit p f hp)
  have hself' := firstMismatch_self hmode (hfit q g hq)
  have hboth : ∀ v ∈ r.compatibility.values order, v = f ∨ v = g := by
    intro v hv
    obtain ⟨k, hk⟩ := mem_values_iff.mp hv
    exact hkeys k v hk
  rw [storedFingerprintsMismatch]
  cases hvalues : r.compatibility.values order with
  | nil => rfl
  | cons baseline others =>
    rw [hvalues] at hboth
    refine List.any_eq_false.mpr fun candidate hcandidate => ?_
    rcases hboth baseline List.mem_cons_self with rfl | rfl <;>
      rcases hboth candidate (List.mem_cons_of_mem _ hcandidate) with rfl | rfl
    · simp [hself]
    · simp [hagree]
    · simp [firstMismatch_symm hagree]
    · simp [hself']

/-- With both players' control sockets there, both are connected. -/
theorem full_of_both (h : Seats r) (hp : r.playerIndexForConnection c = some p)
    (hq : r.playerIndexForConnection d = some q) (hpq : p ≠ q) : Full r := by
  intro slot hslot
  have hindex : slot.playerIndex ∈ r.players.map (·.playerIndex) := List.mem_map_of_mem hslot
  rw [h.indices] at hindex
  have hseat : slot.playerIndex = p ∨ slot.playerIndex = q :=
    h.either hp hq hpq (by simpa using hindex)
  have hcontrol : ∀ {c}, r.playerIndexForConnection c = some slot.playerIndex →
      slot.isConnected := by
    intro c hc
    have hheld := h.controlOf hc
    rw [controlOf, h.slotForPlayer hslot, Option.bind_some] at hheld
    rw [PlayerSlot.isConnected, hheld]
    rfl
  rcases hseat with hseat | hseat
  · exact hcontrol (hseat ▸ hp)
  · exact hcontrol (hseat ▸ hq)

/-- **The verdict on a pair is that on the two stored fingerprints**, in whichever order they come
and whichever is the baseline. -/
theorem verdict_eq (relay : Relay) (order₁ order₂ : HashOrder) (hseats : Seats r)
    (hkeys : KeysSeated r) (hfit : StoredFit r) (hmode : r.session.mode = .controllerNetplay)
    (hopen : r.status ≠ .closed) (hp : r.playerIndexForConnection c = some p)
    (hq : r.playerIndexForConnection d = some q) (hpq : p ≠ q) (hf : r.fingerprintMatchesSession f)
    (hg : r.fingerprintMatchesSession g) :
    verdict r order₁ order₂ (c, f) (d, g)
      = if (asStored f).firstMismatch (asStored g) = none then (.ok (), .syncingState)
        else (.error .compatibilityMismatch, .checkingCompatibility) := by
  obtain ⟨hstored, hopen₁⟩ := setCompatibility_stores order₁ hmode hopen hp hf
  have heffect := applyOp_effect relay r (.setCompatibility order₁ c f)
  rw [applyOp] at heffect
  have hterms := effect_terms heffect
  have hplayers := (effect_seats hseats heffect).stays rfl rfl
  have hfit₁ := effect_storedFit heffect hfit
  rw [verdict]
  generalize (r.setCompatibilityForConnection order₁ c f).2 = r₁ at *
  have hmode₁ := hterms.mode.trans hmode
  have hq₁ := (playerIndexForConnection_keeps hplayers d).trans hq
  have hg₁ : r₁.fingerprintMatchesSession g := by
    rw [hterms.fingerprintMatchesSession]
    exact hg
  have hseats₁ : Seats r₁ := hseats.keep hplayers hterms.maxPlayers
  have hfull₁ : Full r₁ := (full_of_both hseats hp hq hpq).keep hplayers
  have hfirst : r₁.compatibility.lookup p = some (asStored f) := by
    rw [hstored, AList.lookup_insert]
  have hall : (r₁.storeFingerprint q g).connectedPlayersHaveFingerprints := by
    rw [storeFingerprint_complete, allConnected, hfull₁.connectedPlayerIndices hseats₁,
      hseats₁.capacity]
    rcases hseats.index hp with rfl | rfl <;> rcases hseats.index hq with rfl | rfl
    · exact absurd rfl hpq
    · simp [hfirst]
    · simp [hfirst]
    · exact absurd rfl hpq
  rw [setCompatibility_fitting order₂ hmode₁ hopen₁ hq₁ hg₁, hall]
  -- the entries are the two that were just reported
  have hlookup : (r₁.storeFingerprint q g).compatibility.lookup p = some (asStored f) := by
    rw [storeFingerprint_compatibility, AList.lookup_insert_ne hpq, hfirst]
  have hlookup' : (r₁.storeFingerprint q g).compatibility.lookup q = some (asStored g) :=
    AList.lookup_insert ..
  have hentries : ∀ k fp, (r₁.storeFingerprint q g).compatibility.lookup k = some fp →
      fp = asStored f ∨ fp = asStored g := by
    intro k fp hk
    rw [storeFingerprint_compatibility, hstored] at hk
    by_cases hkq : k = q
    · rw [hkq, AList.lookup_insert] at hk
      exact .inr (Option.some.inj hk).symm
    rw [AList.lookup_insert_ne hkq] at hk
    by_cases hkp : k = p
    · rw [hkp, AList.lookup_insert] at hk
      exact .inl (Option.some.inj hk).symm
    rw [AList.lookup_insert_ne hkp] at hk
    rcases hseats.either hp hq hpq (hkeys k (by rw [hk]; rfl)) with h | h
    · exact absurd h hkp
    · exact absurd h hkq
  have hfit₂ : StoredFit (r₁.storeFingerprint q g) :=
    hfit₁.of_insert (.of_eq rfl rfl rfl) (fingerprintMatchesSession_lowered hg₁) rfl
  have hmode₂ : (r₁.storeFingerprint q g).session.mode = .controllerNetplay := hmode₁
  have hverdict := storedFingerprintsMismatch_iff order₂ hmode₂ hfit₂ hlookup hlookup' hentries
  by_cases hagree : (asStored f).firstMismatch (asStored g) = none
  · rw [hverdict.mpr hagree, if_pos hagree]
    rfl
  have hdiffer : (r₁.storeFingerprint q g).storedFingerprintsMismatch order₂ := by
    by_contra hsame
    exact hagree (hverdict.mp (by simpa using hsame))
  rw [hdiffer, if_neg hagree]
  rfl

/-! ## Letter case -/

/-- The profile with its digests in lower case. -/
@[simps]
def foldProfile (profile : DeterminismProfileV5) : DeterminismProfileV5 :=
  { profile with
    coreOptionsDigest := profile.coreOptionsDigest.toAsciiLowercase
    contentTransformationDigest :=
      profile.contentTransformationDigest.map Text.toAsciiLowercase }

/-- The fingerprint with all its digests in lower case. -/
@[simps]
def foldCase (fp : CompatibilityFingerprint) : CompatibilityFingerprint :=
  { fp with
    contentHash := fp.contentHash.toAsciiLowercase
    settingsHash := fp.settingsHash.toAsciiLowercase
    cheatsHash := fp.cheatsHash.toAsciiLowercase
    systemDataHash := fp.systemDataHash.map Text.toAsciiLowercase
    determinismV5 := fp.determinismV5.map foldProfile }

/-- The two fingerprints differ in the letter case of their digests only. -/
def SameUpToCase (f g : CompatibilityFingerprint) : Prop := foldCase f = foldCase g

def letterless (digest : Text) : Bool := digest.all fun c => !c.isAlpha

/-- The digests that are compared as they came have no letters. -/
def plainDigests (fp : CompatibilityFingerprint) : Bool :=
  letterless fp.settingsHash && letterless fp.cheatsHash && fp.systemDataHash.all letterless

theorem foldProfile_isValid (profile : DeterminismProfileV5) :
    (foldProfile profile).isValid = profile.isValid := by
  simp only [foldProfile, DeterminismProfileV5.isValid, validateSha256_lowered,
    validateOptionalSha256_lowered]
  rfl

theorem validDeterminismV5_folded (fp : CompatibilityFingerprint) :
    (foldCase fp).validDeterminismV5 = fp.validDeterminismV5.map foldProfile := by
  simp only [CompatibilityFingerprint.validDeterminismV5, foldCase, validateSha256_lowered,
    validateOptionalSha256_lowered, Option.filter_map]
  congr 1
  refine congrArg (Option.filter · fp.determinismV5) (funext fun profile => ?_)
  rw [Function.comp_apply, foldProfile_isValid]

/-- **The check against the session takes digests in either case.** -/
theorem fingerprintMatchesSession_folded (r : NetplayRoom) (fp : CompatibilityFingerprint) :
    r.fingerprintMatchesSession (foldCase fp) = r.fingerprintMatchesSession fp := by
  have hright : ∀ left right : Text,
      left.eqIgnoreAsciiCase right.toAsciiLowercase = left.eqIgnoreAsciiCase right := by
    intro left right
    rw [Text.eqIgnoreAsciiCase, Text.eqIgnoreAsciiCase, toAsciiLowercase_idem]
  have hformat : r.fingerprintStateFormatMatchesSession (foldCase fp)
      = r.fingerprintStateFormatMatchesSession fp := rfl
  rw [fingerprintMatchesSession, fingerprintMatchesSession, validDeterminismV5_folded, hformat]
  cases fp.validDeterminismV5 <;> cases r.session.romIdentity <;>
    simp only [foldCase_protocolVersion, foldCase_systemId, foldCase_coreId, foldCase_contentHash,
      foldCase_settingsHash, eqIgnoreAsciiCase_lowered, Option.map_none, Option.map_some,
      foldProfile_romSizeBytes, foldProfile_coreOptionsDigest, hright]

theorem SameUpToCase.fits (h : SameUpToCase f g) :
    r.fingerprintMatchesSession g = r.fingerprintMatchesSession f := by
  rw [← fingerprintMatchesSession_folded, ← h, fingerprintMatchesSession_folded]

theorem profileContract_folded (profile : DeterminismProfileV5) :
    profileContract (foldProfile profile) = profileContract profile := by
  simp [profileContract, foldProfile, toAsciiLowercase_idem, Function.comp_def]

/-- The contract without regard to case is that of the stored fingerprint with three of its digests
in lower case. -/
theorem contract_folded (fp : CompatibilityFingerprint) :
    contract (foldCase fp) =
      { contract (asStored fp) with
        settingsHash := fp.settingsHash.toAsciiLowercase
        cheatsHash := fp.cheatsHash.toAsciiLowercase
        systemDataHash := fp.systemDataHash.map Text.toAsciiLowercase } := by
  have hprofile : (fp.determinismV5.map foldProfile).map profileContract
      = fp.determinismV5.map profileContract := by
    simp [Function.comp_def, profileContract_folded]
  rw [contract, contract, foldCase_determinismV5, hprofile]
  rfl

/-- **Stored fingerprints agree exactly if they do without regard to case and the three digests that
are compared as they came are the same.** -/
theorem asStored_agree_iff :
    (asStored f).firstMismatch (asStored g) = none
      ↔ (foldCase f).firstMismatch (foldCase g) = none ∧ f.settingsHash = g.settingsHash
        ∧ f.cheatsHash = g.cheatsHash ∧ f.systemDataHash = g.systemDataHash := by
  have hprofile : (asStored f).determinismV5.isSome = (foldCase f).determinismV5.isSome :=
    Option.isSome_map.symm
  rw [firstMismatch_none, firstMismatch_none, hprofile]
  constructor
  · rintro ⟨hcontract, hstrict⟩
    have hsettings : f.settingsHash = g.settingsHash := congrArg (·.settingsHash) hcontract
    have hcheats : f.cheatsHash = g.cheatsHash := congrArg (·.cheatsHash) hcontract
    have hdata : f.systemDataHash = g.systemDataHash := congrArg (·.systemDataHash) hcontract
    refine ⟨⟨?_, hstrict⟩, hsettings, hcheats, hdata⟩
    rw [contract_folded, contract_folded, hcontract, hsettings, hcheats, hdata]
  · rintro ⟨⟨hcontract, hstrict⟩, hsettings, hcheats, hdata⟩
    refine ⟨?_, hstrict⟩
    -- the stored contract is the folded one with the three digests put back
    have hback : ∀ fp, contract (asStored fp) =
        { contract (foldCase fp) with
          settingsHash := fp.settingsHash
          cheatsHash := fp.cheatsHash
          systemDataHash := fp.systemDataHash } := by
      intro fp
      rw [contract_folded]
      rfl
    rw [hback, hback, hcontract, hsettings, hcheats, hdata]

/-! ## Spellings -/

theorem toLower_toUpper (c : Char) : c.toUpper.toLower = c.toLower := by
  revert c
  refine forall_char (by decide +kernel) fun c hc => ?_
  rw [toUpper_of_le hc]

theorem isAlpha_of_le {c : Char} (h : 128 ≤ c.toNat) : c.isAlpha = false := by
  have hval : c.val.toNat = c.toNat := rfl
  have hlast : ('Z' : Char).val.toNat = 90 ∧ ('z' : Char).val.toNat = 122 := ⟨rfl, rfl⟩
  refine Bool.or_eq_false_iff.mpr ⟨decide_eq_false ?_,
    Bool.and_eq_false_iff.mpr (.inr (decide_eq_false ?_))⟩
  all_goals
    simp only [UInt32.le_iff_toNat_le, ge_iff_le]
    omega

/-- A character has one spelling exactly if it is not a letter. -/
theorem isAlpha_eq_false_iff (c : Char) : c.isAlpha = false ↔ c.toLower = c.toUpper := by
  revert c
  refine forall_char (by decide +kernel) fun c hc => ?_
  rw [toLower_of_le hc, toUpper_of_le hc]
  exact iff_of_true (isAlpha_of_le hc) rfl

theorem isAlpha_toLower (c : Char) : c.toLower.isAlpha = c.isAlpha := by
  revert c
  refine forall_char (by decide +kernel) fun c hc => ?_
  rw [toLower_of_le hc]

theorem toLower_of_not_alpha {c : Char} (h : c.isAlpha = false) : c.toLower = c := by
  revert c
  exact @forall_char _ (by decide +kernel) fun c hc _ => toLower_of_le hc

theorem eq_of_toLower_eq {c d : Char} (hd : d.isAlpha = false) (h : c.toLower = d.toLower) :
    c = d := by
  have hc : c.isAlpha = false := by rw [← isAlpha_toLower, h, isAlpha_toLower, hd]
  rw [toLower_of_not_alpha hc, toLower_of_not_alpha hd] at h
  exact h

theorem letterless_iff {digest : Text} :
    letterless digest ↔ digest.toAsciiLowercase = digest.map Char.toUpper := by
  simp only [letterless, List.all_eq_true, Bool.not_eq_true', isAlpha_eq_false_iff]
  exact List.map_inj_left.symm

/-- A digest without letters is spelt in one way. -/
theorem eq_of_lowercase_eq {digest other : Text} (h : letterless digest)
    (heq : other.toAsciiLowercase = digest.toAsciiLowercase) : other = digest := by
  induction digest generalizing other with
  | nil => exact List.map_eq_nil_iff.mp heq
  | cons d digest ih =>
    obtain ⟨c, rest, rfl, hc, hrest⟩ := List.map_eq_cons_iff.mp heq
    rw [letterless, List.all_cons, Bool.and_eq_true, Bool.not_eq_true'] at h
    rw [eq_of_toLower_eq h.1 hc, ih h.2 hrest]

/-- The three digests that are compared as they came, in upper case. -/
def shout (fp : CompatibilityFingerprint) : CompatibilityFingerprint :=
  { fp with
    settingsHash := fp.settingsHash.map Char.toUpper
    cheatsHash := fp.cheatsHash.map Char.toUpper
    systemDataHash := fp.systemDataHash.map (·.map Char.toUpper) }

theorem toAsciiLowercase_upper (digest : Text) :
    Text.toAsciiLowercase (digest.map Char.toUpper) = digest.toAsciiLowercase := by
  rw [Text.toAsciiLowercase, Text.toAsciiLowercase, List.map_map]
  exact List.map_congr_left fun c _ => toLower_toUpper c

namespace SameUpToCase

theorem folded (f : CompatibilityFingerprint) : SameUpToCase f (foldCase f) := by
  have hprofile : ∀ profile, foldProfile (foldProfile profile) = foldProfile profile := by
    intro profile
    simp [foldProfile, toAsciiLowercase_idem, Function.comp_def]
  simp [SameUpToCase, foldCase, toAsciiLowercase_idem, hprofile, Function.comp_def]

theorem shouted (f : CompatibilityFingerprint) : SameUpToCase f (shout f) := by
  simp [SameUpToCase, foldCase, shout, toAsciiLowercase_upper, Function.comp_def]

end SameUpToCase

/-- The three digests that are compared as they came are the same but for letter case. -/
structure DigestsFold (f g : CompatibilityFingerprint) : Prop where
  settings : f.settingsHash.toAsciiLowercase = g.settingsHash.toAsciiLowercase
  cheats : f.cheatsHash.toAsciiLowercase = g.cheatsHash.toAsciiLowercase
  systemData : f.systemDataHash.map Text.toAsciiLowercase
    = g.systemDataHash.map Text.toAsciiLowercase

theorem digestsFold_of_agree (h : (foldCase f).firstMismatch (foldCase g) = none) :
    DigestsFold f g := by
  obtain ⟨hcontract, _⟩ := (firstMismatch_none _ _).mp h
  exact ⟨congrArg (·.settingsHash) hcontract, congrArg (·.cheatsHash) hcontract,
    congrArg (·.systemDataHash) hcontract⟩

theorem SameUpToCase.digestsFold (h : SameUpToCase f g) : DigestsFold f g :=
  ⟨congrArg (·.settingsHash) h, congrArg (·.cheatsHash) h, congrArg (·.systemDataHash) h⟩

/-- Without letters in them they are the same altogether. -/
theorem DigestsFold.plain (h : DigestsFold f g) (hplain : plainDigests f) :
    f.settingsHash = g.settingsHash ∧ f.cheatsHash = g.cheatsHash
      ∧ f.systemDataHash = g.systemDataHash := by
  rw [plainDigests, Bool.and_eq_true, Bool.and_eq_true] at hplain
  obtain ⟨⟨hsettings, hcheats⟩, hdata⟩ := hplain
  refine ⟨(eq_of_lowercase_eq hsettings h.settings.symm).symm,
    (eq_of_lowercase_eq hcheats h.cheats.symm).symm, ?_⟩
  have hlower := h.systemData
  cases hf : f.systemDataHash with
  | none =>
    rw [hf] at hlower
    exact (Option.map_eq_none_iff.mp hlower.symm).symm
  | some digest =>
    rw [hf] at hlower hdata
    obtain ⟨other, hother, hsame⟩ := Option.map_eq_some_iff.mp hlower.symm
    rw [hother, eq_of_lowercase_eq hdata hsame]

/-- Without letters in the three digests the comparison ignores case. -/
theorem agree_of_plain (hfolded : (foldCase f).firstMismatch (foldCase g) = none)
    (hplain : plainDigests f) : (asStored f).firstMismatch (asStored g) = none :=
  asStored_agree_iff.mpr ⟨hfolded, (digestsFold_of_agree hfolded).plain hplain⟩

/-- A fingerprint whose three digests may be put in capitals has no letters in them. -/
theorem plain_of_shouted (hfolded : (foldCase f).firstMismatch (foldCase g) = none)
    (h : (asStored (shout f)).firstMismatch (asStored (foldCase g)) = none) : plainDigests f := by
  obtain ⟨_, hsettings, hcheats, hdata⟩ := asStored_agree_iff.mp h
  have hfold := digestsFold_of_agree hfolded
  rw [plainDigests, Bool.and_eq_true, Bool.and_eq_true]
  refine ⟨⟨letterless_iff.mpr ?_, letterless_iff.mpr ?_⟩, ?_⟩
  · exact hfold.settings.trans hsettings.symm
  · exact hfold.cheats.trans hcheats.symm
  have hboth : f.systemDataHash.map Text.toAsciiLowercase
      = f.systemDataHash.map (·.map Char.toUpper) := hfold.systemData.trans hdata.symm
  cases hf : f.systemDataHash with
  | none => rfl
  | some digest =>
    rw [hf] at hboth
    exact letterless_iff.mpr (Option.some.inj hboth)

/-- A closed room gives no verdict. -/
theorem verdict_closed (order₁ order₂ : HashOrder)
    (first second : ConnectionId × CompatibilityFingerprint)
    (hmode : r.session.mode = .controllerNetplay) (hclosed : r.status = .closed) :
    verdict r order₁ order₂ first second = (.error .roomClosed, .closed) := by
  have hrefused : ∀ order c fp,
      r.setCompatibilityForConnection order c fp = (.error .roomClosed, r) := by
    intro order c fp
    rw [setCompatibilityForConnection, if_neg (not_not.mpr hmode), if_pos hclosed]
  rw [verdict, hrefused]
  simp only [hrefused, hclosed]

/-- **The verdict on two fingerprints that fit a strict session does not depend on who reports first
or on the baseline. It is the same for every spelling of their digests exactly if they differ in
more than letter case, or if the digests of settings, cheats and system data have no letters.** -/
theorem verdict_ignores_case_iff {s : StoredRoom} {host guest : ConnectionId}
    {f g : CompatibilityFingerprint} (h : Reachable relay s)
    (hstrict : s.room.usesStrictControllerInput)
    (hhost : s.room.playerIndexForConnection host = some .one)
    (hguest : s.room.playerIndexForConnection guest = some .two)
    (hf : s.room.fingerprintMatchesSession f) (hg : s.room.fingerprintMatchesSession g) :
    (∀ order₁ order₂ order₃ order₄, verdict s.room order₁ order₂ (host, f) (guest, g)
        = verdict s.room order₃ order₄ (guest, g) (host, f))
      ∧ ((∀ order₁ order₂ f' g', SameUpToCase f f' → SameUpToCase g g' →
          verdict s.room order₁ order₂ (host, f') (guest, g')
            = verdict s.room order₁ order₂ (host, f) (guest, g))
        ↔ s.room.status = .closed ∨ (foldCase f).firstMismatch (foldCase g) ≠ none
          ∨ plainDigests f) := by
  have hmode : s.room.session.mode = .controllerNetplay := by
    rw [usesStrictControllerInput, Bool.and_eq_true, decide_eq_true_eq] at hstrict
    simpa using hstrict.2
  by_cases hclosed : s.room.status = .closed
  · refine ⟨fun _ _ _ _ => ?_, iff_of_true (fun _ _ _ _ _ _ => ?_) (.inl hclosed)⟩ <;>
      rw [verdict_closed _ _ _ _ hmode hclosed, verdict_closed _ _ _ _ hmode hclosed]
  have hverdict : ∀ order₁ order₂ f' g', SameUpToCase f f' → SameUpToCase g g' →
      verdict s.room order₁ order₂ (host, f') (guest, g')
        = if (asStored f').firstMismatch (asStored g') = none then (.ok (), .syncingState)
          else (.error .compatibilityMismatch, .checkingCompatibility) := by
    intro order₁ order₂ f' g' hf' hg'
    exact verdict_eq relay order₁ order₂ (seats_reachable h) (keysSeated_reachable h)
      (storedFit_reachable h) hmode hclosed hhost hguest (by decide) (hf'.fits.trans hf)
      (hg'.fits.trans hg)
  constructor
  · intro order₁ order₂ order₃ order₄
    rw [hverdict order₁ order₂ f g rfl rfl, verdict_eq relay order₃ order₄ (seats_reachable h)
      (keysSeated_reachable h) (storedFit_reachable h) hmode hclosed hguest hhost (by decide) hg hf]
    have hsymm : (asStored f).firstMismatch (asStored g) = none
        ↔ (asStored g).firstMismatch (asStored f) = none :=
      ⟨firstMismatch_symm, firstMismatch_symm⟩
    simp only [hsymm]
  constructor
  · intro hsame
    by_contra hno
    simp only [hclosed, false_or, not_or, not_not] at hno
    obtain ⟨hfolded, hletters⟩ := hno
    -- in lower case the two agree; in capitals they would have to agree too
    have hlower : (asStored (foldCase f)).firstMismatch (asStored (foldCase g)) = none := by
      have hfold := digestsFold_of_agree hfolded
      refine asStored_agree_iff.mpr ⟨?_, hfold.settings, hfold.cheats, hfold.systemData⟩
      rw [← SameUpToCase.folded f, ← SameUpToCase.folded g]
      exact hfolded
    have hquiet := hsame .stored .stored _ _ (.folded f) (.folded g)
    have hloud := hsame .stored .stored _ _ (.shouted f) (.folded g)
    rw [← hquiet, hverdict _ _ _ _ (.shouted f) (.folded g),
      hverdict _ _ _ _ (.folded f) (.folded g), if_pos hlower] at hloud
    refine absurd (plain_of_shouted hfolded ?_) hletters
    by_contra hdiffer
    rw [if_neg hdiffer] at hloud
    exact absurd (congrArg Prod.snd hloud) (by simp)
  · intro hcondition order₁ order₂ f' g' hf' hg'
    rw [hverdict order₁ order₂ f' g' hf' hg', hverdict order₁ order₂ f g rfl rfl]
    have hsame : (asStored f').firstMismatch (asStored g') = none
        ↔ (asStored f).firstMismatch (asStored g) = none := by
      by_cases hfolded : (foldCase f).firstMismatch (foldCase g) = none
      · have hplain : plainDigests f := by simpa [hclosed, hfolded] using hcondition
        have hplain' : plainDigests f' := by
          obtain ⟨hsettings, hcheats, hdata⟩ := hf'.digestsFold.plain hplain
          rw [plainDigests, ← hsettings, ← hcheats, ← hdata]
          exact hplain
        refine iff_of_true (agree_of_plain ?_ hplain') (agree_of_plain hfolded hplain)
        rw [← hf', ← hg']
        exact hfolded
      · refine iff_of_false ?_ ?_
        · intro hagree
          have hagree' := (asStored_agree_iff.mp hagree).1
          rw [← hf', ← hg'] at hagree'
          exact hfolded hagree'
        · exact fun hagree => hfolded (asStored_agree_iff.mp hagree).1
    simp only [hsame]

/-- Both players are seated and nothing has been reported. -/
def seatedRoom : StoredRoom := after sampleRelay (sampleRoom 5) (seating false)

/-- A fingerprint for the sample session whose digests have no letters, the content hash apart. -/
def digitFingerprint : CompatibilityFingerprint :=
  { sampleFingerprint 5 with
    settingsHash := List.replicate 64 '7'
    cheatsHash := List.replicate 64 '7'
    determinismV5 := some { sampleProfile with coreOptionsDigest := List.replicate 64 '7' } }

theorem verdict_ignores_case_digits :
    plainDigests digitFingerprint
      ∧ ∀ f' g', SameUpToCase digitFingerprint f' → SameUpToCase digitFingerprint g' →
        verdict seatedRoom.room .stored .reversed (hostSocket, f') (guestSocket, g')
          = verdict seatedRoom.room .stored .reversed (hostSocket, digitFingerprint)
            (guestSocket, digitFingerprint) := by
  have hfacts : Possible sampleRelay (sampleRoom 5) (seating false)
      ∧ seatedRoom.room.usesStrictControllerInput
      ∧ seatedRoom.room.playerIndexForConnection hostSocket = some .one
      ∧ seatedRoom.room.playerIndexForConnection guestSocket = some .two
      ∧ seatedRoom.room.fingerprintMatchesSession digitFingerprint
      ∧ plainDigests digitFingerprint := by
    decide +kernel
  obtain ⟨hpossible, hstrict, hhost, hguest, hfits, hplain⟩ := hfacts
  have hroom := reachable_after hpossible
  have hverdict := verdict_ignores_case_iff hroom hstrict hhost hguest hfits hfits
  exact ⟨hplain, hverdict.2.mpr (.inr (.inr hplain)) .stored .reversed⟩

/-- The two players report the same fingerprint, and then the guest's hashes of settings, cheats and
system data are spelt in capitals. -/
theorem verdict_depends_on_case :
    let fp := sampleFingerprint 5
    Reachable sampleRelay seatedRoom ∧ seatedRoom.room.usesStrictControllerInput
      ∧ seatedRoom.room.fingerprintMatchesSession fp
      ∧ seatedRoom.room.fingerprintMatchesSession (shout fp) ∧ SameUpToCase fp (shout fp)
      ∧ (verdict seatedRoom.room .stored .stored (hostSocket, fp) (guestSocket, fp)).2
        = .syncingState
      ∧ (verdict seatedRoom.room .stored .stored (hostSocket, fp) (guestSocket, shout fp)).2
        = .checkingCompatibility := by
  refine ⟨reachable_after ?_, ?_, ?_, ?_, .shouted _, ?_⟩ <;> decide +kernel

end NetplayRelay.Proof
