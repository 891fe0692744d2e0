import NetplayRelay.Auth.AuthorityResponse

/-!
# Denials of the license authority

An answer can carry its decision several times: under three keys, at the root and in the nested
records. `readBool` takes the first boolean it meets, so a denial is only seen if no permission
stands before it. When one does, the license is granted as if the denial were not there: on the
strength of a permission, or of a feature, a tier or a trial named elsewhere in the answer.
-/

namespace NetplayRelay.Proof

open Protocol Auth

/-- The decisions in an answer, in the order in which they are looked for. -/
def decisions (value : Json) : List Bool :=
  (values (collectRecords value) decisionKeys).filterMap Json.asBool

/-- Some record of the answer denies. -/
def Denies (value : Json) : Prop :=
  ∃ record ∈ collectRecords value, ∃ key ∈ decisionKeys, record.lookup key = some (.bool false)

/-- The answer names no other kind of client than the one that asked. -/
def clientFits (value : Json) (clientKind : ClientKind) : Bool :=
  match readClientKind (collectRecords value) with
  | .ok kind => kind.all (· = clientKind)
  | .error _ => false

/-- The answer grants access or describes a license that does. -/
def entitles (rfc3339 : Text → Option Int) (nowMs : Int) (value : Json) (clientKind : ClientKind)
    (installationId feature : Text) : Bool :=
  readBool (collectRecords value) grantKeys = some true
    || (licenseOf rfc3339 nowMs (collectRecords value) clientKind
      installationId).allowsFeatureOrActiveAccess feature

theorem readBool_eq_head? (records : List Record) (keys : List Text) :
    readBool records keys = ((values records keys).filterMap Json.asBool).head? :=
  (List.head?_filterMap ..).symm

theorem readClientKind_error {records : List Record} {error : AuthError}
    (h : readClientKind records = .error error) : error = .invalidAuthorityResponse := by
  unfold readClientKind at h
  split at h
  · exact absurd h (by simp)
  split at h
  · exact (Except.error.inj h).symm
  · exact absurd h (by simp)

/-- The verdict in the order of its checks: only an answer that passes the first three has its
license read. -/
theorem parseVerifiedLicense_eq (rfc3339 : Text → Option Int) (nowMs : Int) (value : Json)
    (clientKind : ClientKind) (installationId feature : Text) :
    parseVerifiedLicense rfc3339 nowMs value clientKind installationId feature
      = if (collectRecords value).isEmpty then .error .invalidAuthorityResponse
        else if (decisions value).head? = some false then .error .unauthorized
        else if !clientFits value clientKind then .error .invalidAuthorityResponse
        else if entitles rfc3339 nowMs value clientKind installationId feature then
          .ok (licenseOf rfc3339 nowMs (collectRecords value) clientKind installationId)
        else .error .entitlementRequired := by
  unfold parseVerifiedLicense clientFits
  rw [decisions, ← readBool_eq_head?]
  dsimp only
  split
  · rfl
  split
  · rfl
  cases hkind : readClientKind (collectRecords value) with
  | error error =>
    rw [readClientKind_error hkind]
    rfl
  | ok kind =>
    have hother : kind.any (· ≠ clientKind) = !kind.all (· = clientKind) := by
      cases kind <;> simp
    dsimp only
    rw [hother, entitles]

/-- A record that denies puts a denial among the decisions. -/
theorem Denies.mem {value : Json} (h : Denies value) : false ∈ decisions value := by
  obtain ⟨record, hrecord, key, hkey, hfalse⟩ := h
  refine List.mem_filterMap.mpr ⟨.bool false, List.mem_flatMap.mpr ⟨record, hrecord, ?_⟩, rfl⟩
  exact List.mem_filterMap.mpr ⟨key, hkey, hfalse⟩

/-- **When a denial counts.** An answer that denies somewhere yields no license exactly if its first
decision is a denial, or it is turned away for another reason: it names another client, or grants
and describes no access. Its first decision is no denial exactly if a permission stands before the
denials. -/
theorem denial_respected_iff (rfc3339 : Text → Option Int) (nowMs : Int) (value : Json)
    (clientKind : ClientKind) (installationId feature : Text) (hdenied : Denies value) :
    ((∀ license, parseVerifiedLicense rfc3339 nowMs value clientKind installationId feature
        ≠ .ok license)
      ↔ (decisions value).head? = some false ∨ clientFits value clientKind = false
        ∨ entitles rfc3339 nowMs value clientKind installationId feature = false)
    ∧ ((decisions value).head? ≠ some false
      ↔ ∃ later, decisions value = true :: later ∧ false ∈ later) := by
  refine ⟨?_, ?_⟩
  · have hrecords : ¬(collectRecords value).isEmpty = true := by
      obtain ⟨record, hrecord, _⟩ := hdenied
      rw [List.isEmpty_iff]
      exact List.ne_nil_of_mem hrecord
    rw [parseVerifiedLicense_eq, if_neg hrecords]
    by_cases hfirst : (decisions value).head? = some false
    · simp [hfirst]
    by_cases hother : clientFits value clientKind = false
    · simp [hfirst, hother]
    cases hentitles : entitles rfc3339 nowMs value clientKind installationId feature with
    | false | true => simp [hfirst, hother]
  · have hdenial := hdenied.mem
    cases hdecisions : decisions value with
    | nil => simp [hdecisions] at hdenial
    | cons first later =>
      cases first with
      | false => simp
      | true => simpa [hdecisions] using hdenial

/-- A premium client whose token is valid but who is not authorized. -/
def refusedPremium : Json :=
  .object [("authorized".toList, .bool false), ("hasPremium".toList, .bool true),
    ("valid".toList, .bool true)]

/-- An answer that denies at the root and permits everything else. -/
def refusedAtRoot : Json :=
  .object [("allowed".toList, .bool true), ("license".toList, refusedPremium),
    ("valid".toList, .bool false)]

/-- A denial that comes first is respected, whatever the nested records say. -/
theorem denial_respected_at_root :
    Denies refusedAtRoot
      ∧ ∀ license, parseVerifiedLicense (fun _ => none) 0 refusedAtRoot .desktop "install".toList
        "netplay".toList ≠ .ok license := by
  have hdenied : Denies refusedAtRoot :=
    ⟨_, List.mem_cons_self, "valid".toList, List.mem_cons_self, rfl⟩
  have hfirst : (decisions refusedAtRoot).head? = some false := rfl
  exact ⟨hdenied, (denial_respected_iff _ _ _ _ _ _ hdenied).1.mpr (.inl hfirst)⟩

/-- The refusal stands behind `valid`, and the license is granted. -/
theorem denial_overlooked :
    Denies refusedPremium
      ∧ (parseVerifiedLicense (fun _ => none) 0 refusedPremium .desktop "install".toList
        "netplay".toList).isOk = true := by
  refine ⟨⟨_, List.mem_cons_self, "authorized".toList, ?_, rfl⟩, by decide +kernel⟩
  exact List.mem_cons_of_mem _ List.mem_cons_self

end NetplayRelay.Proof
