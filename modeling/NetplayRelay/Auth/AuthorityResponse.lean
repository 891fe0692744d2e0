import NetplayRelay.Auth.License

/-!
# The answer of the license authority

The authority answers with a JSON object, either a decision (`valid`, `authorized`, `allowed`) or a
billing record, and either at the root or under one of a few known keys. `parseVerifiedLicense`
looks every field up in all of these records, the root first, and takes the first value of the
right type. The clock and the parser of RFC 3339 dates are parameters.
-/

namespace NetplayRelay.Auth

open Protocol

/-- Why a client is turned away. -/
inductive AuthError
  | missingToken | missingInstallationId | unsupportedClientKind | unauthorized
  | entitlementRequired | invalidAuthorityResponse | invalidAuthorityUrl | authorityRequestFailed
deriving DecidableEq

/-- A JSON value. Of a number only the `i64` it may be is kept. -/
inductive Json
  | null
  | bool (value : Bool)
  | number (asI64 : Option Int)
  | string (value : Text)
  | array (items : List Json)
  | object (fields : List (Text × Json))

/-- The fields of an object; their names differ, so the first one found is the one there is. -/
abbrev Record := List (Text × Json)

namespace Json

/-- The value of a boolean. -/
def asBool : Json → Option Bool
  | .bool value => some value
  | _ => none

/-- The value of a string. -/
def asStr : Json → Option Text
  | .string value => some value
  | _ => none

/-- The fields of an object. -/
def asObject : Json → Option Record
  | .object fields => some fields
  | _ => none

end Json

/-- Where the answer nests its records. -/
def recordKeys : List Text :=
  ["account".toList, "billing".toList, "customer".toList, "entitlement".toList, "license".toList,
    "purchase".toList, "stripe".toList]

/-- The answer and the records nested in it. -/
def collectRecords (value : Json) : List Record :=
  match value.asObject with
  | none => []
  | some root => root :: recordKeys.filterMap fun key => (root.lookup key).bind Json.asObject

/-! ## Reading a field -/

section

variable (records : List Record) (keys : List Text)

/-- The values under the given keys, record by record. -/
def values : List Json := records.flatMap fun record => keys.filterMap fun key => record.lookup key

/-- The first boolean under the keys. -/
def readBool : Option Bool := (values records keys).findSome? Json.asBool

/-- The trimmed text of a value, if there is any. -/
def trimmedText (value : Json) : Option Text :=
  (value.asStr.map Text.trim).filter (!·.isEmpty)

/-- The first text under the keys that is not blank. -/
def readString : Option Text := (values records keys).findSome? trimmedText

end

/-- The kind of client the answer speaks of, if it names one. -/
def readClientKind (records : List Record) : Except AuthError (Option ClientKind) :=
  match readString records ["clientKind".toList, "client_kind".toList] with
  | none => .ok none
  | some value =>
    match ClientKind.parse value with
    | none => .error .invalidAuthorityResponse
    | some kind => .ok (some kind)

/-! ## Features -/

/-- The features a record grants: a list, or an object of flags. -/
def recordFeatures (record : Record) : List Text :=
  match record.lookup "features".toList with
  | some (.array items) => items.filterMap trimmedText
  | some (.object fields) =>
    fields.filterMap fun (feature, enabled) =>
      if enabled.asBool = some true then some feature else none
  | _ => []

/-- The order of `sort`: by code points. -/
def textLe : Text → Text → Bool
  | [], _ => true
  | _ :: _, [] => false
  | c :: left, d :: right => c.val < d.val || (c.val == d.val && textLe left right)

/-- Insertion into a sorted list. -/
def insertSorted (value : Text) : List Text → List Text
  | [] => [value]
  | other :: rest => if textLe value other then value :: other :: rest
    else other :: insertSorted value rest

/-- Equal neighbours are kept once. -/
def dedup : List Text → List Text
  | [] => []
  | value :: rest =>
    match dedup rest with
    | [] => [value]
    | next :: rest => if value = next then next :: rest else value :: next :: rest

/-- The features of all records, sorted, each once. -/
def collectFeatures (records : List Record) : List Text :=
  dedup ((records.flatMap recordFeatures).foldr insertSorted [])

/-! ## Dates -/

/-- The unchecked product of a release build. -/
def wrapI64 (value : Int) : Int := (value + 2 ^ 63) % 2 ^ 64 - 2 ^ 63

/-- Seconds are turned into milliseconds. -/
def normalizeTimestampMs (timestamp : Int) : Int :=
  if timestamp < 10000000000 then wrapI64 (timestamp * 1000) else timestamp

/-- A number in decimal digits. -/
def parseDigits (digits : Text) : Option Nat :=
  if digits.isEmpty || !digits.all Char.isDigit then none
  else some (digits.foldl (fun n c => n * 10 + (c.toNat - '0'.toNat)) 0)

/-- A signed number in the range of `i64`. -/
def parseI64 (value : Text) : Option Int :=
  let parsed : Option Int :=
    match value with
    | '-' :: digits => (parseDigits digits).map fun n => -(n : Int)
    | '+' :: digits => (parseDigits digits).map fun n => (n : Int)
    | digits => (parseDigits digits).map fun n => (n : Int)
  parsed.filter fun n => -(2 ^ 63) ≤ n && n < 2 ^ 63

section

variable (rfc3339 : Text → Option Int) (nowMs : Int)

/-- A date in milliseconds, from a timestamp or an RFC 3339 text. -/
def parseDateMs (value : Text) : Option Int :=
  match parseI64 value.trim with
  | some timestamp => some (normalizeTimestampMs timestamp)
  | none => rfc3339 value.trim

/-- The value is a date in the future. -/
def isFutureDate : Json → Bool
  | .number (some timestamp) => normalizeTimestampMs timestamp > nowMs
  | .string value => (parseDateMs rfc3339 value).any (· > nowMs)
  | _ => false

/-- A key holds a date in the future. -/
def readFutureDate (records : List Record) (keys : List Text) : Bool :=
  (values records keys).any (isFutureDate rfc3339 nowMs)

/-! ## The license -/

/-- The license opens the feature. -/
def VerifiedLicense.allowsFeatureOrActiveAccess (license : VerifiedLicense) (feature : Text) :
    Bool :=
  license.hasPremium || license.trialActive || license.features.any (· == feature)

/-- The tier is a paid one. -/
def isPremiumTier (tier : Text) : Bool :=
  ["lifetime".toList, "paid".toList, "premium".toList, "pro".toList].contains tier.toAsciiLowercase

/-- The license that the records describe. -/
def licenseOf (records : List Record) (clientKind : ClientKind) (installationId : Text) :
    VerifiedLicense :=
  let tier := (readString records
    ["tier".toList, "accessStatus".toList, "status".toList, "entitlement".toList]).getD
    "unknown".toList
  { clientKind
    installationId
    subjectId := (readString records
      ["subjectId".toList, "subject_id".toList, "licenseId".toList, "license_id".toList,
        "accountId".toList, "account_id".toList, "installationId".toList,
        "installation_id".toList]).getD installationId
    tier
    features := collectFeatures records
    hasPremium := (readBool records
      ["hasPremium".toList, "isPremium".toList, "premiumActive".toList]).getD false
        || isPremiumTier tier
    trialActive := (readBool records ["isTrialActive".toList, "trialActive".toList]).getD false
      || tier.eqIgnoreAsciiCase "trial".toList
      || readFutureDate rfc3339 nowMs records ["trialEndsAt".toList, "trialExpiresAt".toList] }

/-- The keys of a verdict. -/
def decisionKeys : List Text := ["valid".toList, "authorized".toList, "allowed".toList]
/-- The keys of a grant. -/
def grantKeys : List Text := ["authorized".toList, "allowed".toList]

/-- The license that the answer of the authority grants. -/
def parseVerifiedLicense (value : Json) (expectedClientKind : ClientKind)
    (installationId feature : Text) : Except AuthError VerifiedLicense :=
  let records := collectRecords value
  if records.isEmpty then .error .invalidAuthorityResponse
  else if readBool records decisionKeys = some false then .error .unauthorized
  else match readClientKind records with
    | .error error => .error error
    | .ok clientKind =>
      if clientKind.any (· ≠ expectedClientKind) then .error .invalidAuthorityResponse
      else
        let verified := licenseOf rfc3339 nowMs records expectedClientKind installationId
        if readBool records grantKeys = some true
            || verified.allowsFeatureOrActiveAccess feature then .ok verified
        else .error .entitlementRequired

end

end NetplayRelay.Auth
