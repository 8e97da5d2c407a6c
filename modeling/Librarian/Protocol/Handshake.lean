import Mathlib.Order.Bounds.Basic
import Librarian.Lib.Fallible
import Librarian.Lib.Keyed
import Librarian.Protocol.Connection

/-!
# The handshake

`ClientHello`, `ServerHello` and `Connection::negotiate`. A client offers a range of versions and
asks for features; the agent selects a version and grants what was asked for, or fails. The authority
that a connection gives is checked later, by `begin_request` on the stored role and features, and
`negotiate_sound` connects the two.
-/

namespace Librarian.Protocol

/-! ## Constants -/

/-- `MAX_FEATURES`. -/
def maxFeatures : ℕ := 16

/-- `MIN_NEGOTIATED_PAYLOAD_BYTES`. -/
def minNegotiatedPayloadBytes : ℕ := 21

/-- `MAX_IN_FLIGHT_PER_CONNECTION`. -/
def maxInFlightPerConnection : ℕ := 4

/-- `MINIMUM_VERSION`. -/
def minimumVersion : Version := ⟨1, 0⟩

/-- `CURRENT_VERSION`. -/
def currentVersion : Version := ⟨1, 3⟩

/-- `WINDOWS_HELLO_VERSION`. -/
def windowsHelloVersion : Version := ⟨1, 1⟩

/-- `PASSKEY_PROVIDER_VERSION`. -/
def passkeyProviderVersion : Version := ⟨1, 2⟩

/-- `BROWSER_FILL_VERSION`. -/
def browserFillVersion : Version := ⟨1, 3⟩

/-- The first version that defines a feature. -/
def featureVersion (feature : UInt16) : Option Version :=
  if feature = featureWindowsHello then some windowsHelloVersion
  else if feature = featurePasskeyProvider then some passkeyProviderVersion
  else if feature = featureBrowserFill then some browserFillVersion
  else none

/-! ## Messages -/

/-- `windows(2).any(|pair| pair[0] >= pair[1])`: a list of features is not strictly increasing. -/
def unordered (features : List UInt16) : Bool :=
  (Keyed.windows2 features).any fun pair => pair.1 ≥ pair.2

/-- The fields of a client's offer, before validation. -/
structure ClientHelloFields where
  client_nonce : Bytes 32
  minimum : Version
  maximum : Version
  claimed_role : ClientRole
  component_build_id : Bytes 32
  required_features : List UInt16
  deriving DecidableEq

/-- The check of `ClientHello::new`. -/
def ClientHelloFields.invalid (hello : ClientHelloFields) : Bool :=
  hello.client_nonce.isZero ∨ hello.component_build_id.isZero ∨ hello.minimum.major = 0 ∨
    hello.maximum.major = 0 ∨ hello.minimum > hello.maximum ∨
    hello.required_features.length > maxFeatures ∨ unordered hello.required_features

/-- Pre-negotiation offer from an already authenticated peer. -/
structure ClientHello extends ClientHelloFields where
  /-- The constructor has validated the fields. -/
  validated : toClientHelloFields.invalid = false
  deriving DecidableEq

/-- `ClientHello::new`. -/
def ClientHello.new (hello : ClientHelloFields) : Except ProtocolError ClientHello :=
  if h : hello.invalid = false then .ok ⟨hello, h⟩ else .error .invariantViolation

/-- The fields of the agent's answer, before validation. -/
structure ServerHelloFields where
  server_nonce : Bytes 32
  selected_version : Version
  derived_role : ClientRole
  granted_features : List UInt16
  maximum_payload_bytes : UInt32
  maximum_in_flight : UInt8
  agent_state : AgentState
  unlock_epoch : UInt64
  deriving DecidableEq

/-- The check of `ServerHello::new`. -/
def ServerHelloFields.invalid (hello : ServerHelloFields) : Bool :=
  hello.server_nonce.isZero ∨ hello.selected_version.major = 0 ∨
    hello.granted_features.length > maxFeatures ∨ unordered hello.granted_features ∨
    hello.maximum_payload_bytes = 0 ∨
    ¬(minNegotiatedPayloadBytes ≤ hello.maximum_payload_bytes.toNat ∧
      hello.maximum_payload_bytes.toNat ≤ maxPayloadBytes) ∨
    hello.maximum_in_flight = 0 ∨ hello.maximum_in_flight.toNat > maxInFlightPerConnection

/-- Negotiated response from the authenticated agent. -/
structure ServerHello extends ServerHelloFields where
  /-- The constructor has validated the fields. -/
  validated : toServerHelloFields.invalid = false
  deriving DecidableEq

/-- `ServerHello::new`. -/
def ServerHello.new (hello : ServerHelloFields) : Except ProtocolError ServerHello :=
  if h : hello.invalid = false then .ok ⟨hello, h⟩ else .error .invariantViolation

/-- Negotiated limits for one authenticated connection, as `ConnectionLimits::new` accepts them. -/
structure ConnectionLimits where
  maximum_payload_bytes : UInt32
  maximum_in_flight : UInt8
  payload_bounded : minNegotiatedPayloadBytes ≤ maximum_payload_bytes.toNat ∧
    maximum_payload_bytes.toNat ≤ maxPayloadBytes
  in_flight_bounded : maximum_in_flight ≠ 0 ∧
    maximum_in_flight.toNat ≤ maxInFlightPerConnection

/-! ## Negotiation -/

/-- What the transport has established of a peer, and the agent's own part of a handshake. -/
structure Peer where
  derived_role : ClientRole
  authenticated_process_id : UInt32
  expected_build_id : Bytes 32
  supported_features : List UInt16
  server_nonce : Bytes 32
  connection_id : Bytes 16
  agent_state : AgentState
  unlock_epoch : UInt64
  limits : ConnectionLimits

/-- A feature is asked for at a version that does not define it. -/
def tooEarly (hello : ClientHello) (selected_version : Version) (feature : UInt16)
    (version : Version) : Bool :=
  feature ∈ hello.required_features ∧ selected_version < version

/-- `Connection::negotiate`. The features are sorted where they are searched, so a binary search is
membership. -/
def negotiate (peer : Peer) (hello : ClientHello) :
    Except ConnectionError (Connection × ServerHello) := do
  if hello.claimed_role ≠ peer.derived_role then throw .identityClaimMismatch
  if hello.component_build_id ≠ peer.expected_build_id then throw .buildMismatch
  let selected_version := min hello.maximum currentVersion
  if hello.minimum > selected_version ∨ selected_version < minimumVersion ∨
      selected_version.major ≠ currentVersion.major then
    throw .incompatibleVersion
  if unordered peer.supported_features then throw .unsupportedFeature
  if ∃ required ∈ hello.required_features, required ∉ peer.supported_features then
    throw .unsupportedFeature
  if tooEarly hello selected_version featureWindowsHello windowsHelloVersion then
    throw .unsupportedFeature
  if tooEarly hello selected_version featurePasskeyProvider passkeyProviderVersion then
    throw .unsupportedFeature
  if tooEarly hello selected_version featureBrowserFill browserFillVersion then
    throw .unsupportedFeature
  if peer.authenticated_process_id = 0 ∨ peer.server_nonce.isZero ∨ peer.connection_id.isZero then
    throw .invalidRandomValue
  let response ← (ServerHello.new
    { server_nonce := peer.server_nonce
      selected_version := selected_version
      derived_role := peer.derived_role
      granted_features := hello.required_features
      maximum_payload_bytes := peer.limits.maximum_payload_bytes
      maximum_in_flight := peer.limits.maximum_in_flight
      agent_state := peer.agent_state
      unlock_epoch := peer.unlock_epoch }).mapErr fun _ => .invalidLimit
  return (
    { role := peer.derived_role
      version := selected_version
      authenticated_process_id := peer.authenticated_process_id.toNat
      granted_features := hello.required_features
      connection_id := peer.connection_id
      maximum_payload_bytes := peer.limits.maximum_payload_bytes.toNat
      maximum_in_flight := peer.limits.maximum_in_flight.toNat }, response)

/-! ## What a negotiation guarantees -/

/-- The versions that the client and the agent both accept. -/
def commonVersions (hello : ClientHello) : Set Version :=
  { version | hello.minimum ≤ version ∧ version ≤ hello.maximum ∧ minimumVersion ≤ version ∧
    version ≤ currentVersion }

theorem Version.le_iff {v w : Version} :
    v ≤ w ↔ v.major.toNat < w.major.toNat ∨ v.major = w.major ∧ v.minor.toNat ≤ w.minor.toNat := by
  have h : v ≤ w ↔ v.sortKey ≤ w.sortKey := Iff.rfl
  rw [h, Version.sortKey, Version.sortKey, Prod.Lex.toLex_le_toLex, UInt16.toNat_inj]

/-- All versions that the agent accepts have the same major number. -/
theorem major_of_accepted {version : Version} (hmin : minimumVersion ≤ version)
    (hmax : version ≤ currentVersion) : version.major = currentVersion.major := by
  rw [Version.le_iff] at hmin hmax
  have hminimum : minimumVersion.major = currentVersion.major := rfl
  obtain hlt | ⟨heq, -⟩ := hmax
  · obtain hlt' | ⟨heq, -⟩ := hmin
    · rw [hminimum] at hlt'
      omega
    · rw [← heq, hminimum]
  · exact heq

/-- The version that is tried is the greatest one that both accept, if there is any. -/
theorem selected_isGreatest {hello : ClientHello} {version : Version}
    (h : version ∈ commonVersions hello) :
    IsGreatest (commonVersions hello) (min hello.maximum currentVersion) := by
  obtain ⟨hlow, hhigh, hmin, hcurrent⟩ := h
  have hle : version ≤ min hello.maximum currentVersion := le_min hhigh hcurrent
  refine ⟨⟨hlow.trans hle, min_le_left _ _, hmin.trans hle, min_le_right _ _⟩, ?_⟩
  rintro other ⟨-, hhigh', -, hcurrent'⟩
  exact le_min hhigh' hcurrent'

/-- The version check of `negotiate` fails exactly when no version is acceptable to both. -/
theorem incompatible_iff {hello : ClientHello} :
    (hello.minimum > min hello.maximum currentVersion ∨
      min hello.maximum currentVersion < minimumVersion ∨
      (min hello.maximum currentVersion).major ≠ currentVersion.major) ↔
      commonVersions hello = ∅ := by
  rw [Set.eq_empty_iff_forall_notMem]
  constructor
  · rintro h version hmem
    obtain ⟨hlow, -, hmin, hcurrent⟩ := (selected_isGreatest hmem).1
    obtain h | h | h := h
    · exact absurd hlow (not_le.mpr h)
    · exact absurd hmin (not_le.mpr h)
    · exact h (major_of_accepted hmin hcurrent)
  · intro hnone
    by_contra hok
    push Not at hok
    exact hnone _ ⟨hok.1, min_le_left _ _, hok.2.1, min_le_right _ _⟩

/-- Everything that a successful negotiation has checked, and the connection that it makes. -/
theorem negotiate_eq_ok {peer : Peer} {hello : ClientHello} {connection : Connection}
    {response : ServerHello} (h : negotiate peer hello = .ok (connection, response)) :
    hello.claimed_role = peer.derived_role ∧ hello.component_build_id = peer.expected_build_id ∧
      (commonVersions hello).Nonempty ∧
      (∀ required ∈ hello.required_features, required ∈ peer.supported_features) ∧
      (∀ required ∈ hello.required_features, ∀ version ∈ featureVersion required,
        version ≤ min hello.maximum currentVersion) ∧
      connection.role = peer.derived_role ∧
      connection.version = min hello.maximum currentVersion ∧
      connection.granted_features = hello.required_features ∧
      response.selected_version = connection.version ∧
      response.granted_features = connection.granted_features := by
  simp only [negotiate, ServerHello.new, Except.throw_eq, Except.error_bind, Except.pure_eq,
    Except.bind_eq_ok, Except.ite_error_eq_ok, Except.mapErr_eq_ok, Except.ok.injEq,
    incompatible_iff] at h
  obtain ⟨hrole, hbuild, hversions, -, hsupported, hhello, hpasskey, hbrowser, -, response',
    hresponse, hpair⟩ := h
  obtain ⟨rfl, rfl⟩ := Prod.mk.injEq .. ▸ hpair
  refine ⟨not_not.mp hrole, not_not.mp hbuild, Set.nonempty_iff_ne_empty.mpr hversions, ?_, ?_,
    rfl, rfl, rfl, ?_⟩
  · intro required hrequired
    by_contra hnot
    exact hsupported ⟨required, hrequired, hnot⟩
  · -- A feature has a version only if it is one of the three that are checked.
    intro required hrequired version hversion
    simp only [tooEarly, Bool.decide_and, Bool.and_eq_true, decide_eq_true_eq, not_and,
      not_lt] at hhello hpasskey hbrowser
    unfold featureVersion at hversion
    split_ifs at hversion with hfeature hfeature hfeature
    · cases hversion
      exact hhello (hfeature ▸ hrequired)
    · cases hversion
      exact hpasskey (hfeature ▸ hrequired)
    · cases hversion
      exact hbrowser (hfeature ▸ hrequired)
    · cases hversion
  · split_ifs at hresponse with hvalid
    cases hresponse
    exact ⟨rfl, rfl⟩

/-- Negotiation fails for want of a common version exactly when there is none. -/
theorem negotiate_eq_incompatible {peer : Peer} {hello : ClientHello} :
    negotiate peer hello = .error .incompatibleVersion ↔
      hello.claimed_role = peer.derived_role ∧
        hello.component_build_id = peer.expected_build_id ∧ commonVersions hello = ∅ := by
  rw [← incompatible_iff]
  unfold negotiate
  by_cases hrole : hello.claimed_role = peer.derived_role
  · by_cases hbuild : hello.component_build_id = peer.expected_build_id
    · simp only [hrole, hbuild, ne_eq, not_true_eq_false, if_false, true_and, Except.throw_eq,
        Except.error_bind, Except.pure_eq, Except.bind_eq_error, Except.ite_error_eq_error,
        Except.mapErr_eq_error, reduceCtorEq, and_false, exists_false, or_false, and_true]
    · simp [hrole, hbuild]
  · simp [hrole]

/-- What `begin_request` has checked of an operation that it admits. -/
theorem beginRequest_authorized {connection : Connection} {header : FrameHeader}
    {request : RequestEnvelope} {current_unlock_epoch : ℕ} {state : ConnectionState}
    {permit : RequestPermit}
    (h : (ConnectionState.beginRequest connection header request current_unlock_epoch state).1 =
      .ok permit) :
    request.operation.isAuthorizedFor connection.role = true ∧
      ∀ feature ∈ request.operation.requiredFeature, feature ∈ connection.granted_features := by
  unfold ConnectionState.beginRequest at h
  split at h
  · cases h
  · split at h
    · cases h
    · dsimp only at h
      split_ifs at h with hrole hfeature
      refine ⟨hrole, fun feature hmem => ?_⟩
      by_contra hnot
      exact hfeature ⟨feature, hmem, hnot⟩

/-- Each feature that an operation requires has a version that defines it. -/
theorem featureVersion_required {operation : OperationCode} {feature : UInt16}
    (h : feature ∈ operation.requiredFeature) : ∃ version, featureVersion feature = some version := by
  cases operation <;> simp only [OperationCode.requiredFeature, Option.mem_def, Option.some.injEq,
    reduceCtorEq] at h <;> subst h <;> exact ⟨_, rfl⟩

/-- Negotiation selects the greatest common version and fails for want of one exactly when there is
none, and a connection gives no authority beyond the derived role and the features that were asked
for, supported and defined. -/
theorem negotiate_sound (peer : Peer) (hello : ClientHello) :
    (∀ connection response, negotiate peer hello = .ok (connection, response) →
      (hello.claimed_role = peer.derived_role ∧
        hello.component_build_id = peer.expected_build_id ∧
        ∀ required ∈ hello.required_features, required ∈ peer.supported_features) ∧
      (response.selected_version = connection.version ∧
        IsGreatest (commonVersions hello) connection.version) ∧
      ∀ header request current_unlock_epoch state permit,
        (ConnectionState.beginRequest connection header request current_unlock_epoch state).1 =
          .ok permit →
        request.operation.isAuthorizedFor peer.derived_role = true ∧
          ∀ feature ∈ request.operation.requiredFeature,
            feature ∈ hello.required_features ∧ feature ∈ peer.supported_features ∧
              ∃ version, featureVersion feature = some version ∧
                version ≤ connection.version) ∧
    (negotiate peer hello = .error .incompatibleVersion ↔
      hello.claimed_role = peer.derived_role ∧
        hello.component_build_id = peer.expected_build_id ∧ commonVersions hello = ∅) := by
  refine ⟨fun connection response h => ?_, negotiate_eq_incompatible⟩
  obtain ⟨hrole, hbuild, ⟨version, hversion⟩, hsupported, hdefined, hconnection, hselected,
    hgranted, hresponse, -⟩ := negotiate_eq_ok h
  refine ⟨⟨hrole, hbuild, hsupported⟩, ⟨hresponse, hselected ▸ selected_isGreatest hversion⟩, ?_⟩
  intro header request current_unlock_epoch state permit hbegin
  obtain ⟨hauthorized, hfeatures⟩ := beginRequest_authorized hbegin
  rw [hconnection] at hauthorized
  refine ⟨hauthorized, fun feature hfeature => ?_⟩
  have hrequired : feature ∈ hello.required_features := hgranted ▸ hfeatures feature hfeature
  obtain ⟨first, hfirst⟩ := featureVersion_required hfeature
  refine ⟨hrequired, hsupported feature hrequired, first, hfirst, ?_⟩
  rw [hselected]
  exact hdefined feature hrequired first hfirst

end Librarian.Protocol
