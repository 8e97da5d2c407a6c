import Librarian.Lib.Conc.Logic
import Librarian.Lib.Fallible
import Librarian.WindowsHello.Client

/-!
# Who answers for a credential

An enrollment makes a credential before it knows whether it can use it. What Windows says of the
credential may be wrong in many ways, the deletion of a credential may fail, and what is left has to
reach the agent through numbers and buffers. The trail of a thread is what has become of its
credential so far. When the call returns, the trail is settled: the credential is enrolled, or it is
deleted, or its id is reported, unless the id is longer than the buffer for it.
-/

namespace Librarian.WindowsHello

open Conc
open Librarian.Agent (WindowsHelloEnrollment WindowsHelloProviderError)
open Librarian.Core (Primitives)

variable {P : Primitives}

/-! ## Trails -/

/-- What has become of the credential of an enrollment. -/
inductive Kept
  | nothing
  /-- It has been made for a salt. -/
  | made (value : AttestationView) (salt : Bytes 32)
  /-- Its deletion has failed. -/
  | stuck (value : AttestationView) (salt : Bytes 32)
  | deleted (value : AttestationView) (salt : Bytes 32)

namespace Kept

/-- What has been made, and for which salt. -/
def record : Kept → Option (AttestationView × Bytes 32)
  | nothing => none
  | made value salt | stuck value salt | deleted value salt => some (value, salt)

/-- The id that still has to be deleted or answered for. -/
def owned : Kept → Option (List UInt8)
  | made value _ | stuck value _ => some value.credential_id
  | nothing | deleted _ _ => none

/-- A deletion has been tried. -/
def tried (result : HResult) : Kept → Kept
  | made value salt | stuck value salt =>
    if failed result then stuck value salt else deleted value salt
  | kept => kept

theorem tried_record (kept : Kept) (result : HResult) : (kept.tried result).record = kept.record := by
  cases kept with
  | nothing => rfl
  | made value salt =>
    unfold tried
    split_ifs <;> rfl
  | stuck value salt =>
    unfold tried
    split_ifs <;> rfl
  | deleted value salt => rfl

end Kept

/-- What a thread has done. -/
structure Trail where
  call : Option Call := none
  kept : Kept := .nothing
  /-- The assertion that Windows has answered with. -/
  asserted : Option (GetAssertionRequest × AssertionView) := none
  outcome : Option Outcome := none

/-- The credential that a creation has made. -/
def created (result : HResult × Option AttestationView) : Option AttestationView :=
  result.2.filter fun value => ¬(failed result.1 ∨ value.credential_id = [])

namespace Trail

/-- The trail after an action. -/
def next (φ : Trail) : (a : Action) → a.Result → Trail
  | .began call, _ => { φ with call := some call }
  | .returned outcome, _ => { φ with outcome := some outcome }
  | .makeCredential request, result =>
    match created result with
    | some value => { φ with kept := .made value request.salt }
    | none => φ
  | .getAssertion request, result =>
    match result.2 with
    | some value => { φ with asserted := some (request, value) }
    | none => φ
  | .deleteCredential _, result => { φ with kept := φ.kept.tried result }
  | _, _ => φ

/-- An enrollment may return this. -/
def SettlesEnrollment (P : Primitives) (kept : Kept) :
    Except WindowsHelloProviderError WindowsHelloEnrollment → Prop
  | .ok enrollment => ∃ value, kept = .made value enrollment.prf_salt ∧
      enrollment.credential_id = value.credential_id ∧
      enrollment.credential_id.length ≤ Client.maximumCredentialIdBytes ∧
      Attests value (Client.relyingPartyHash P) enrollment.prf_output
  | .error (.cleanupRequired credential_id) =>
    credential_id.length ≤ Client.maximumCredentialIdBytes ∧ ∃ value salt,
      (kept = .stuck value salt ∨ kept = .deleted value salt) ∧ value.credential_id = credential_id
  | .error _ => ∀ credential_id, kept.owned = some credential_id →
      Client.maximumCredentialIdBytes < credential_id.length

/-- A call may return this. -/
def Settles (P : Primitives) (φ : Trail) : Outcome → Prop
  | .enrolled result => SettlesEnrollment P φ.kept result
  | .evaluated (.ok output) => φ.kept = .nothing ∧
      ∃ operation_id request value, φ.asserted = some (request, value) ∧
        φ.call = some (.evaluate operation_id request.credential_id request.salt) ∧
        Asserts value request.credential_id (Client.relyingPartyHash P) output
  | _ => φ.kept = .nothing

/-- What a trail allows. -/
def allows (P : Primitives) (φ : Trail) : Action → Prop
  | .began _ => φ = {}
  | .returned outcome => φ.call ≠ none ∧ φ.outcome = none ∧ φ.Settles P outcome
  | .makeCredential _ => φ.outcome = none ∧ φ.kept = .nothing
  | .deleteCredential credential_id => φ.outcome = none ∧
      (φ.call = some (.remove credential_id) ∧ φ.kept = .nothing ∨
        φ.kept.owned = some credential_id)
  | .getAssertion _ => φ.outcome = none
  | _ => True

end Trail

/-- The discipline of the credentials. -/
def custody (P : Primitives) : Discipline machine Trail where
  start := {}
  next φ a r := φ.next a.down r
  release φ _ := φ
  allows φ _ a := φ.allows P a.down
  locks _ _ _ := True
  releases _ _ := True

/-! ## The programs keep to it -/

section

variable {α : Type} {φ : Trail} {Q : α → Trail → Finset machine.Mutex → Prop}

/-- A call that has come to no credential yet. -/
def calling (call : Call) : Trail := { call := some call }

/-- A part of the programs that the trail does not see. -/
theorem wp_withCancellationLock {a : Action} {f : a.Result → Prog machine α}
    (ha : ∀ r, φ.next a r = φ) (hallowed : φ.allows P a) (hf : ∀ r, wp (custody P) (f r) Q φ ∅) :
    wp (custody P) ((withCancellationLock (act a)).bind f) Q φ ∅ := by
  refine (wp_bind (M := machine)).mpr ((wp_withLock (M := machine)).mpr ⟨trivial, fun _ => ⟨hallowed, fun r => ?_⟩⟩)
  refine ⟨Finset.mem_insert_self _ _, trivial, ?_⟩
  change wp (custody P) (f r) Q (φ.next a r) _
  rw [ha r]
  exact hf r

/-- A ceremony within its registration. -/
theorem wp_registered {β : Type} {operation_id : OperationId}
    {ceremony : Guid → Prog machine (Except Client.Thrown β)}
    {R : Except Client.Thrown β → Trail → Prop}
    (hfailed : ∀ error, error ≠ .none → error ≠ .credentialRemovalFailed →
      R (.error (.failure error)) φ)
    (hceremony : ∀ guid, wp (custody P) (ceremony guid) (fun result φ' H => H = ∅ ∧ R result φ') φ
      ∅) :
    wp (custody P) (Client.registered operation_id ceremony)
      (fun result φ' H => H = ∅ ∧ R result φ') φ ∅ := by
  refine (wp_bind (M := machine)).mpr ⟨trivial, fun drawn => ?_⟩
  dsimp only [Prog.ret_bind]
  split_ifs
  · refine ⟨rfl, hfailed _ ?_ ?_⟩
    · unfold Client.hresultError
      split_ifs <;> decide
    · unfold Client.hresultError
      split_ifs <;> decide
  · refine wp_withCancellationLock (fun _ => rfl) trivial fun inserted => ?_
    cases inserted with
    | false => exact ⟨rfl, hfailed _ (by decide) (by decide)⟩
    | true =>
      refine wp.seq (hceremony drawn.2) fun result φ' H hresult => ?_
      obtain ⟨rfl, hresult⟩ := hresult
      exact wp_withCancellationLock (fun _ => rfl) trivial fun _ => ⟨rfl, hresult⟩

end

/-- What `enroll` of the client ends with. -/
def Ends (P : Primitives) (kept : Kept) : Except Client.Thrown WindowsHelloEnrollment → Prop
  | .ok enrollment => enrollment.credential_id ≠ [] ∧ ∃ value,
      kept = .made value enrollment.prf_salt ∧ enrollment.credential_id = value.credential_id ∧
      enrollment.credential_id.length ≤ Client.maximumCredentialIdBytes ∧
      Attests value (Client.relyingPartyHash P) enrollment.prf_output
  | .error (.failure error) => error ≠ .none ∧ error ≠ .credentialRemovalFailed ∧ kept.owned = none
  | .error (.credentialCleanupFailure credential_id) => credential_id ≠ [] ∧ ∃ value salt,
      (kept = .stuck value salt ∨ kept = .deleted value salt) ∧ value.credential_id = credential_id

/-- A part of an enrollment ends, and its thread has nothing to answer for but the credential. -/
def Enrolled {α : Type} (call : Call) (R : α → Kept → Prop) (result : α) (φ : Trail)
    (H : Finset machine.Mutex) : Prop :=
  H = ∅ ∧ φ.call = some call ∧ φ.outcome = none ∧ R result φ.kept

section

variable {call : Call} {value : AttestationView} {salt : Bytes 32}

/-- The trail of an enrollment that has made a credential. -/
def holding (call : Call) (kept : Kept) : Trail := { call := some call, kept := kept }

/-- A credential that cannot be used is deleted, or it is reported. -/
theorem wp_discardCredential {error : Error} (hne : value.credential_id ≠ [])
    (hnone : error ≠ .none) (hremoval : error ≠ .credentialRemovalFailed) :
    wp (custody P) (Client.discardCredential value.credential_id error)
      (Enrolled call fun thrown kept => Ends P kept (.error thrown))
      (holding call (.made value salt)) ∅ := by
  refine ⟨⟨rfl, .inr rfl⟩, fun removed => ?_⟩
  dsimp only [Prog.ret_bind]
  by_cases hfailed : failed removed = true
  · rw [if_pos hfailed]
    have hkept : (Kept.made value salt).tried removed = .stuck value salt := if_pos hfailed
    have hphase : (custody P).next (holding call (.made value salt))
        ⟨.deleteCredential value.credential_id⟩ removed = holding call (.stuck value salt) :=
      congrArg (holding call) hkept
    rw [hphase]
    refine ⟨⟨rfl, .inr rfl⟩, fun again => ⟨rfl, rfl, rfl, hne, value, salt, ?_, rfl⟩⟩
    -- Whatever the second attempt does, the id is reported.
    show (Kept.stuck value salt).tried again = _ ∨ (Kept.stuck value salt).tried again = _
    unfold Kept.tried
    split_ifs
    · exact .inl rfl
    · exact .inr rfl
  · rw [if_neg hfailed]
    have hkept : (Kept.made value salt).tried removed = .deleted value salt := if_neg hfailed
    refine ⟨rfl, rfl, rfl, hnone, hremoval, ?_⟩
    show ((Kept.made value salt).tried removed).owned = none
    rw [hkept]
    rfl

/-- A validated output is the one that has been found, and an error of the checks is one. -/
theorem validatedOutput_eq_ok {result : ValidationResult} {output : Bytes 32}
    (h : Client.validatedOutput result = .ok output) : result = ⟨.none, some output⟩ := by
  obtain ⟨error, found⟩ := result
  cases error <;> cases found <;> cases h
  rfl

theorem validateAttestation_error (value : AttestationView) (hash : Bytes 32) :
    (validateAttestation value hash).error ≠ .credentialRemovalFailed := by
  unfold validateAttestation validatedPrf
  split_ifs
  · decide
  · decide
  · split
    · decide
    · simp
  · decide

theorem validatedOutput_eq_error {result : ValidationResult} {error : Error}
    (hresult : result.error ≠ .credentialRemovalFailed)
    (h : Client.validatedOutput result = .error error) :
    error ≠ .none ∧ error ≠ .credentialRemovalFailed := by
  obtain ⟨found, output⟩ := result
  cases found with
  | credentialRemovalFailed => exact absurd rfl hresult
  | none =>
    cases output with
    | none =>
      cases h
      exact ⟨by decide, by decide⟩
    | some _ => cases h
  | _ =>
    cases output <;> cases h <;> simp

theorem wp_acceptCredential (hne : value.credential_id ≠ []) :
    wp (custody P) (Client.acceptCredential P salt value)
      (Enrolled call fun result kept => Ends P kept result) (holding call (.made value salt)) ∅ := by
  have hdiscard (error : Error) (hnone : error ≠ .none) (hremoval : error ≠ .credentialRemovalFailed) :
      wp (custody P) ((Client.discardCredential value.credential_id error).bind fun thrown =>
        pure (.error thrown)) (Enrolled call fun result kept => Ends P kept result)
        (holding call (.made value salt)) ∅ :=
    (wp_bind (M := machine)).mpr (wp_discardCredential hne hnone hremoval)
  unfold Client.acceptCredential
  split_ifs with hlong
  · exact hdiscard _ (by decide) (by decide)
  · refine ⟨trivial, fun hashes => ?_⟩
    cases hashes with
    | false => exact hdiscard _ (by decide) (by decide)
    | true =>
      dsimp only [Prog.ret_bind]
      rw [if_pos rfl]
      cases hvalid : Client.validatedOutput
          (validateAttestation value (Client.relyingPartyHash P)) with
      | ok output =>
        obtain ⟨fixed, hfixed, hattests⟩ :=
          validateAttestation_eq_none.mp (validatedOutput_eq_ok hvalid)
        obtain rfl := Option.some.inj hfixed
        exact ⟨rfl, rfl, rfl, hne, value, rfl, rfl, not_lt.mp hlong, hattests⟩
      | error error =>
        obtain ⟨hnone, hremoval⟩ :=
          validatedOutput_eq_error (validateAttestation_error _ _) hvalid
        exact hdiscard _ hnone hremoval

theorem created_eq_some {result : HResult × Option AttestationView} :
    created result = some value ↔
      failed result.1 = false ∧ result.2 = some value ∧ value.credential_id ≠ [] := by
  unfold created
  rw [Option.filter_eq_some_iff, decide_eq_true_eq, not_or, Bool.not_eq_true]
  constructor
  · rintro ⟨hanswer, hcode, hne⟩
    exact ⟨hcode, hanswer, hne⟩
  · rintro ⟨hcode, hanswer, hne⟩
    exact ⟨hanswer, hcode, hne⟩

/-- An enrollment that has made nothing ends with an error. -/
theorem ends_nothing {error : Error} (hnone : error ≠ .none)
    (hremoval : error ≠ .credentialRemovalFailed) :
    Ends P .nothing (.error (.failure error)) := ⟨hnone, hremoval, rfl⟩

theorem hresultError_ne (result : HResult) :
    Client.hresultError result ≠ .none ∧ Client.hresultError result ≠ .credentialRemovalFailed := by
  unfold Client.hresultError
  split_ifs
  · exact ⟨by decide, by decide⟩
  · exact ⟨by decide, by decide⟩

theorem wp_makeCredential (request : MakeCredentialRequest) :
    wp (custody P) (Client.makeCredential P request)
      (Enrolled call fun result kept => Ends P kept result) (calling call) ∅ := by
  refine ⟨⟨rfl, rfl⟩, fun result => ?_⟩
  dsimp only [Prog.ret_bind]
  change wp (custody P) _ _ ((calling call).next (.makeCredential request) result) ∅
  cases hcreated : created result with
  | none =>
    have hphase : (calling call).next (.makeCredential request) result = calling call := by
      simp only [Trail.next, hcreated]
    rw [hphase]
    split_ifs with hfailed
    · obtain ⟨hnone, hremoval⟩ := hresultError_ne result.1
      exact ⟨rfl, rfl, rfl, ends_nothing hnone hremoval⟩
    · cases hanswer : result.2 with
      | none => exact ⟨rfl, rfl, rfl, ends_nothing (by decide) (by decide)⟩
      | some value =>
        dsimp only
        have hempty : value.credential_id = [] := by
          by_contra hne
          have hsome := created_eq_some.mpr ⟨by simpa using hfailed, hanswer, hne⟩
          rw [hcreated] at hsome
          cases hsome
        rw [if_pos hempty]
        exact ⟨rfl, rfl, rfl, ends_nothing (by decide) (by decide)⟩
  | some value =>
    obtain ⟨hsucceeded, hanswer, hne⟩ := created_eq_some.mp hcreated
    have hphase : (calling call).next (.makeCredential request) result =
        holding call (.made value request.salt) := by
      simp only [Trail.next, hcreated]
      rfl
    rw [hphase, if_neg (by simp [hsucceeded]), hanswer]
    dsimp only
    rw [if_neg hne]
    exact wp_acceptCredential hne

/-- `enroll` of the client. -/
theorem wp_client_enroll (parent : ℕ) (operation_id : OperationId) :
    wp (custody P) (Client.enroll P parent operation_id)
      (Enrolled call fun result kept => Ends P kept result) (calling call) ∅ := by
  have hfails {error : Error} (hnone : error ≠ .none) (hremoval : error ≠ .credentialRemovalFailed) :
      wp (custody P) (pure (.error (.failure error)))
        (Enrolled call fun result kept => Ends P kept result) (calling call) ∅ :=
    ⟨rfl, rfl, rfl, ends_nothing hnone hremoval⟩
  unfold Client.enroll
  split_ifs
  · exact hfails (by decide) (by decide)
  · refine ⟨trivial, fun version => ?_⟩
    dsimp only [Prog.ret_bind]
    split_ifs
    · exact hfails (by decide) (by decide)
    · refine ⟨trivial, fun available => ?_⟩
      dsimp only [Prog.ret_bind]
      split_ifs
      · exact hfails (hresultError_ne _).1 (hresultError_ne _).2
      · -- The three draws of random bytes.
        refine ⟨trivial, fun user_identifier => ?_⟩
        cases user_identifier with
        | none => exact hfails (by decide) (by decide)
        | some user_identifier =>
        refine ⟨trivial, fun salt => ?_⟩
        cases salt with
        | none => exact hfails (by decide) (by decide)
        | some salt =>
        refine ⟨trivial, fun random => ?_⟩
        cases random with
        | none => exact hfails (by decide) (by decide)
        | some random =>
        exact wp_registered (R := fun result φ => φ.call = some call ∧ φ.outcome = none ∧
            Ends P φ.kept result)
          (fun error hnone hremoval => ⟨rfl, rfl, ends_nothing hnone hremoval⟩)
          fun guid => wp_makeCredential _
      · exact hfails (by decide) (by decide)

end

/-! ### Through the bridge -/

section

variable {call : Call} {kept : Kept}

/-- What the agent sees of what the bridge returns. -/
def Delivers (P : Primitives) (output : Bridge.EnrollOutput) (kept : Kept) : Prop :=
  Trail.SettlesEnrollment P kept
    ((Crate.finishEnrollment output).mapErr Provider.mapEnrollmentError)

theorem delivers_of_finish {output : Bridge.EnrollOutput}
    {result : Except Crate.EnrollmentError WindowsHelloEnrollment}
    (hfinish : Crate.finishEnrollment output = result)
    (h : Trail.SettlesEnrollment P kept (result.mapErr Provider.mapEnrollmentError)) :
    Delivers P output kept := by
  unfold Delivers
  rw [hfinish]
  exact h

/-- An error of the bridge is worth nothing to a credential: there must be none, or one whose id is
too long for the buffer. -/
theorem settles_bridgeError {error : Crate.BridgeError}
    (h : ∀ credential_id, kept.owned = some credential_id →
      Client.maximumCredentialIdBytes < credential_id.length) :
    Trail.SettlesEnrollment P kept (.error (Provider.mapBridgeError error)) := by
  cases error <;> exact h

/-- The statuses of errors come back as errors. -/
theorem delivers_status {error : Error} (hnone : error ≠ .none)
    (h : ∀ credential_id, kept.owned = some credential_id →
      Client.maximumCredentialIdBytes < credential_id.length) :
    Delivers P { status := Bridge.status error } kept := by
  have herror : ∃ bridge, Crate.finishEnrollment { status := Bridge.status error } =
      .error (.bridge bridge) := by
    cases error with
    | none => exact absurd rfl hnone
    | _ => exact ⟨_, rfl⟩
  obtain ⟨bridge, hbridge⟩ := herror
  unfold Delivers
  rw [hbridge]
  exact settles_bridgeError h

/-- An id that fits comes back from the buffer. -/
theorem published_id {value : List UInt8} (status : UInt32) (hne : value ≠ [])
    (hfits : value.length ≤ Client.maximumCredentialIdBytes) :
    Bridge.publishCredentialId value status =
      { status := status
        credential_id :=
          value ++ List.replicate (Client.maximumCredentialIdBytes - value.length) 0
        credential_id_bytes := value.length.toUInt32 } ∧
      value.length.toUInt32.toNat = value.length := by
  refine ⟨if_neg (by simp [hne, hfits]), ?_⟩
  have hbound : value.length < 2 ^ 32 := by
    have : Client.maximumCredentialIdBytes < 2 ^ 32 := by decide
    omega
  exact Nat.mod_eq_of_lt hbound

theorem finishEnrollment_published {value : List UInt8} {salt output : Bytes 32} (hne : value ≠ [])
    (hfits : value.length ≤ Client.maximumCredentialIdBytes) :
    Crate.finishEnrollment { Bridge.publishCredentialId value (Bridge.status .none) with
      salt := salt, prf_output := output } = .ok ⟨value, salt, output⟩ := by
  obtain ⟨hpublished, hlength⟩ := published_id (Bridge.status .none) hne hfits
  have hpos : value.length ≠ 0 := by simpa using hne
  rw [hpublished]
  simp only [Crate.finishEnrollment, hlength, List.length_append, List.take_left]
  rw [if_neg (by decide)]
  show (if _ then _ else _) = _
  rw [if_neg (by omega)]

theorem finishEnrollment_pending {value : List UInt8} (hne : value ≠ [])
    (hfits : value.length ≤ Client.maximumCredentialIdBytes) :
    Crate.finishEnrollment
      (Bridge.publishCredentialId value (Bridge.status .credentialRemovalFailed)) =
        .error (.credentialRemovalFailed value) := by
  obtain ⟨hpublished, hlength⟩ :=
    published_id (Bridge.status .credentialRemovalFailed) hne hfits
  have hpos : value.length ≠ 0 := by simpa using hne
  rw [hpublished]
  simp only [Crate.finishEnrollment, hlength, List.length_append, List.take_left]
  rw [if_pos (by decide), if_neg (by omega)]

/-- The bridge passes on an enrollment whose id fits. -/
theorem enrollReturned_ok {enrollment : WindowsHelloEnrollment}
    (hne : enrollment.credential_id ≠ [])
    (hfits : enrollment.credential_id.length ≤ Client.maximumCredentialIdBytes) :
    Bridge.enrollReturned (Client.enrollmentResult (.ok enrollment)) =
      pure { Bridge.publishCredentialId enrollment.credential_id (Bridge.status .none) with
        salt := enrollment.prf_salt, prf_output := enrollment.prf_output } := by
  simp [Bridge.enrollReturned, Client.enrollmentResult, hne, not_lt.mpr hfits]

/-- The bridge passes on the failure of an enrollment that made no credential. -/
theorem enrollReturned_failure {error : Error} (hnone : error ≠ .none)
    (hremoval : error ≠ .credentialRemovalFailed) :
    Bridge.enrollReturned (Client.enrollmentResult (.error (.failure error))) =
      pure { status := Bridge.status error } := by
  simp [Bridge.enrollReturned, Bridge.enrollFailed, Client.enrollmentResult, hnone, hremoval]

/-- The bridge passes on the credential that is still to be removed. -/
theorem enrollReturned_cleanup (credential_id : List UInt8) :
    Bridge.enrollReturned
      (Client.enrollmentResult (.error (.credentialCleanupFailure credential_id))) =
      pure (Bridge.publishCredentialId credential_id
        (Bridge.status .credentialRemovalFailed)) := by
  simp [Bridge.enrollReturned, Bridge.enrollFailed, Client.enrollmentResult]

/-- What `enroll` of the client ends with, after the bridge. -/
theorem wp_bridge_enroll (parent : ℕ) (operation_id : OperationId) :
    wp (custody P) (Bridge.enroll P parent operation_id)
      (Enrolled call fun output kept => Delivers P output kept) (calling call) ∅ := by
  unfold Bridge.enroll
  split_ifs
  · exact ⟨rfl, rfl, rfl, delivers_status (by decide) fun _ h =>
      absurd h.symm (Option.some_ne_none _)⟩
  refine wp.seq (M := machine) (wp_client_enroll parent operation_id) fun result φ H hresult => ?_
  obtain ⟨rfl, hcall, houtcome, hends⟩ := hresult
  cases result with
  | ok enrollment =>
    obtain ⟨hne, value, hkept, hid, hfits, hattests⟩ := hends
    rw [enrollReturned_ok hne hfits]
    exact ⟨rfl, hcall, houtcome, delivers_of_finish (finishEnrollment_published hne hfits)
      ⟨value, hkept, hid, hfits, hattests⟩⟩
  | error thrown =>
    cases thrown with
    | failure error =>
      obtain ⟨hnone, hremoval, howned⟩ := hends
      rw [enrollReturned_failure hnone hremoval]
      refine ⟨rfl, hcall, houtcome, delivers_status hnone fun _ h => ?_⟩
      rw [howned] at h
      cases h
    | credentialCleanupFailure credential_id =>
      obtain ⟨hne, value, salt, hkept, rfl⟩ := hends
      rw [enrollReturned_cleanup]
      refine ⟨rfl, hcall, houtcome, ?_⟩
      by_cases hfits : value.credential_id.length ≤ Client.maximumCredentialIdBytes
      · exact delivers_of_finish (finishEnrollment_pending hne hfits)
          ⟨hfits, value, salt, hkept, rfl⟩
      · have hpublished : Bridge.publishCredentialId value.credential_id
            (Bridge.status .credentialRemovalFailed) = { status := Bridge.status .invalidResponse } :=
          if_pos (.inr (not_le.mp hfits))
        dsimp only
        rw [hpublished]
        refine delivers_status (by decide) fun credential_id howned => ?_
        -- The one credential that nobody answers for.
        have hid : credential_id = value.credential_id := by
          obtain hstuck | hdeleted := hkept
          · rw [hstuck] at howned
            exact (Option.some.inj howned).symm
          · rw [hdeleted] at howned
            cases howned
        rw [hid]
        exact not_le.mp hfits

/-! ### Whole calls -/

/-- `ParentWindow::for_authenticated_process`, and then the rest. -/
theorem wp_parentWindow {α : Type} {φ : Trail} {window : ℕ} {process_id : UInt32}
    {f : Except Crate.BridgeError ℕ → Prog machine α}
    {Q : α → Trail → Finset machine.Mutex → Prop}
    (hf : ∀ result, wp (custody P) (f result) Q φ ∅) :
    wp (custody P) ((Crate.parentWindow window process_id).bind f) Q φ ∅ := by
  refine (wp_bind (M := machine)).mpr ?_
  unfold Crate.parentWindow
  split_ifs
  · exact hf _
  · refine ⟨trivial, fun exists_window => ?_⟩
    dsimp only [Prog.ret_bind]
    split_ifs
    · refine ⟨trivial, fun actual_process_id => ?_⟩
      cases actual_process_id with
      | none => exact hf _
      | some actual_process_id =>
        dsimp only [Prog.ret_bind]
        split_ifs
        · exact hf _
        · exact hf _
    · exact hf _

theorem wp_provider_enroll (window : ℕ) (process_id : UInt32) (operation_id : OperationId) :
    wp (custody P) (Provider.enroll P window process_id operation_id)
      (Enrolled call fun result kept => Trail.SettlesEnrollment P kept result) (calling call) ∅ := by
  have hnothing (credential_id : List UInt8) (h : Kept.nothing.owned = some credential_id) :
      Client.maximumCredentialIdBytes < credential_id.length := nomatch h
  refine wp_parentWindow fun result => ?_
  cases result with
  | error error => exact ⟨rfl, rfl, rfl, settles_bridgeError hnothing⟩
  | ok parent =>
    dsimp only
    split_ifs
    · refine (wp_bind (M := machine)).mpr ((wp_bind (M := machine)).mpr ?_)
      exact wp_mono (wp_bridge_enroll parent operation_id) fun output φ H h => h
    · exact ⟨rfl, rfl, rfl, settles_bridgeError hnothing⟩

/-- What an evaluation ends with, for the credential and the salt that it asks for. -/
def Evaluated (P : Primitives) (operation_id : OperationId) (credential_id : List UInt8)
    (salt : Bytes 32) (output : Option (Bytes 32)) (φ : Trail) (H : Finset machine.Mutex) : Prop :=
  H = ∅ ∧ φ.call = some (.evaluate operation_id credential_id salt) ∧ φ.outcome = none ∧
    φ.kept = .nothing ∧ ∀ found ∈ output, ∃ request value, φ.asserted = some (request, value) ∧
      request.credential_id = credential_id ∧ request.salt = salt ∧
      Asserts value credential_id (Client.relyingPartyHash P) found

/-- The trail of an evaluation with the assertion that Windows has answered with. -/
def evaluating (call : Call) (asserted : Option (GetAssertionRequest × AssertionView)) : Trail :=
  { call := some call, asserted := asserted }

/-- The output that comes with a result. -/
def output {ε : Type} (result : Except ε (Bytes 32)) : Option (Bytes 32) := result.toOption

section

variable {operation_id : OperationId} {credential_id : List UInt8} {salt : Bytes 32}

theorem evaluated_failed {asserted : Option (GetAssertionRequest × AssertionView)} :
    Evaluated P operation_id credential_id salt none
      (evaluating (.evaluate operation_id credential_id salt) asserted) ∅ :=
  ⟨rfl, rfl, rfl, rfl, fun _ h => nomatch h⟩

theorem wp_getAssertion (request : GetAssertionRequest) :
    wp (custody P) (Client.getAssertion P request)
      (fun result => Evaluated P operation_id request.credential_id request.salt (output result))
      (calling (.evaluate operation_id request.credential_id request.salt)) ∅ := by
  refine ⟨rfl, fun result => ?_⟩
  dsimp only [Prog.ret_bind]
  change wp (custody P) _ _ ((calling _).next (.getAssertion request) result) ∅
  obtain ⟨asserted, hphase⟩ : ∃ asserted,
      (calling (.evaluate operation_id request.credential_id request.salt)).next
        (.getAssertion request) result = evaluating _ asserted ∧
      ∀ value, result.2 = some value → asserted = some (request, value) := by
    cases hanswer : result.2 with
    | none => exact ⟨none, by simp only [Trail.next, hanswer]; rfl, fun _ h => nomatch h⟩
    | some value =>
      refine ⟨some (request, value), by simp only [Trail.next, hanswer]; rfl, fun _ h => ?_⟩
      rw [Option.some.inj h]
  rw [hphase.1]
  split_ifs
  · exact evaluated_failed
  · cases hanswer : result.2 with
    | none => exact evaluated_failed
    | some value =>
      refine ⟨trivial, fun hashes => ?_⟩
      cases hashes with
      | false => exact evaluated_failed
      | true =>
        dsimp only [Prog.ret_bind]
        rw [if_pos rfl]
        cases hvalid : Client.validatedOutput
            (validateAssertion value request.credential_id (Client.relyingPartyHash P)) with
        | error error => exact evaluated_failed
        | ok found =>
          obtain ⟨fixed, hfixed, hasserts⟩ :=
            validateAssertion_eq_none.mp (validatedOutput_eq_ok hvalid)
          obtain rfl := Option.some.inj hfixed
          refine ⟨rfl, rfl, rfl, rfl, fun other hother => ?_⟩
          obtain rfl := Option.some.inj hother
          exact ⟨request, value, hphase.2 value hanswer, rfl, rfl, hasserts⟩

theorem wp_client_evaluate (parent : ℕ) :
    wp (custody P) (Client.evaluate P parent credential_id salt operation_id)
      (fun result => Evaluated P operation_id credential_id salt (output result))
      (calling (.evaluate operation_id credential_id salt)) ∅ := by
  unfold Client.evaluate
  split_ifs
  · exact evaluated_failed
  · refine ⟨trivial, fun version => ?_⟩
    dsimp only [Prog.ret_bind]
    split_ifs
    · exact evaluated_failed
    · refine ⟨trivial, fun random => ?_⟩
      cases random with
      | none => exact evaluated_failed
      | some random =>
        refine wp_mono (M := machine) (wp_registered (P := P) (R := fun result φ =>
          Evaluated P operation_id credential_id salt (output result) φ ∅)
          (fun _ _ _ => evaluated_failed) fun guid => ?_) fun result φ H h => h.1 ▸ h.2
        exact wp_mono (M := machine) (wp_getAssertion _) fun result φ H h => ⟨h.1, h.1 ▸ h⟩

theorem wp_crate_evaluate (parent : ℕ) :
    wp (custody P) (Crate.evaluate P parent operation_id credential_id salt)
      (fun result => Evaluated P operation_id credential_id salt (output result))
      (calling (.evaluate operation_id credential_id salt)) ∅ := by
  unfold Crate.evaluate
  split_ifs
  · exact evaluated_failed
  refine (wp_bind (M := machine)).mpr ?_
  unfold Bridge.evaluate
  split_ifs
  · exact evaluated_failed
  refine wp.seq (M := machine) (wp_client_evaluate parent) fun result φ H hresult => ?_
  have hfailed (h : output result = none) {status : UInt32} {buffer : Bytes 32}
      (hstatus : (Crate.mapStatus status).toOption = none) :
      Evaluated P operation_id credential_id salt
        (output ((Crate.mapStatus status).map fun _ => buffer)) φ H := by
    have hnone : output ((Crate.mapStatus status).map fun _ => buffer) = output result := by
      rw [h]
      cases hmapped : Crate.mapStatus status with
      | error error => rfl
      | ok _ =>
        rw [hmapped] at hstatus
        cases hstatus
    rw [hnone]
    exact hresult
  cases result with
  | ok found => exact hresult
  | error thrown =>
    cases thrown with
    | failure error => cases error <;> exact hfailed rfl rfl
    | credentialCleanupFailure _ => exact hfailed rfl rfl

theorem wp_provider_evaluate (window : ℕ) (process_id : UInt32) :
    wp (custody P) (Provider.evaluate P window process_id operation_id credential_id salt)
      (fun result => Evaluated P operation_id credential_id salt (output result))
      (calling (.evaluate operation_id credential_id salt)) ∅ := by
  refine wp_parentWindow fun result => ?_
  cases result with
  | error error => exact evaluated_failed
  | ok parent =>
    dsimp only
    split_ifs
    · refine (wp_bind (M := machine)).mpr ?_
      refine wp_mono (M := machine) (wp_crate_evaluate parent) fun result φ H h => ?_
      cases result with
      | ok found => exact h
      | error error => exact h
    · exact evaluated_failed

theorem wp_provider_cancel :
    wp (custody P) (Provider.cancel operation_id)
      (Enrolled (.cancel operation_id) fun _ kept => kept = .nothing)
      (calling (.cancel operation_id)) ∅ := by
  have hcancel : wp (custody P) (Client.cancel operation_id)
      (Enrolled (.cancel operation_id) fun _ kept => kept = .nothing)
      (calling (.cancel operation_id)) ∅ := by
    unfold Client.cancel
    split_ifs
    · refine wp_withCancellationLock (fun _ => rfl) trivial fun entry => ?_
      cases entry with
      | none => exact ⟨rfl, rfl, rfl, rfl⟩
      | some guid => exact ⟨trivial, fun _ => ⟨rfl, rfl, rfl, rfl⟩⟩
    · exact ⟨rfl, rfl, rfl, rfl⟩
  unfold Provider.cancel
  split_ifs
  · refine (wp_bind (M := machine)).mpr ((wp_bind (M := machine)).mpr ?_)
    unfold Bridge.cancel
    split_ifs
    exact (wp_bind (M := machine)).mpr (wp_mono (M := machine) hcancel fun _ _ _ h => h)
  · exact ⟨rfl, rfl, rfl, rfl⟩

theorem wp_provider_remove :
    wp (custody P) (Provider.remove credential_id)
      (Enrolled (.remove credential_id) fun _ kept => kept = .nothing)
      (calling (.remove credential_id)) ∅ := by
  refine (wp_bind (M := machine)).mpr ?_
  unfold Crate.remove
  split_ifs with hbad
  · exact ⟨rfl, rfl, rfl, rfl⟩
  refine (wp_bind (M := machine)).mpr ?_
  unfold Bridge.remove
  rw [if_neg hbad]
  refine (wp_bind (M := machine)).mpr ?_
  unfold Client.remove
  rw [if_neg hbad]
  exact ⟨⟨rfl, .inl ⟨rfl, rfl⟩⟩, fun result => ⟨rfl, rfl, rfl, rfl⟩⟩

end

/-- The trail of a thread that has returned, or has not begun. -/
def Trail.Done (φ : Trail) : Prop := φ.outcome = none → φ = {}

/-- A call of the provider keeps to the discipline of the credentials. -/
theorem wp_program (request : Request) :
    wp (custody P) (request.program P) (fun _ φ H => φ.Done ∧ H = ∅) (custody P).start ∅ := by
  refine ⟨rfl, fun _ => ?_⟩
  change wp (custody P) ((request.run P).bind _) _ (calling request.call) ∅
  have hreturns {outcome : Outcome} {φ : Trail} (hcall : φ.call = some request.call)
      (houtcome : φ.outcome = none) (hsettles : φ.Settles P outcome) :
      wp (custody P) (act (.returned outcome)) (fun _ φ H => φ.Done ∧ H = ∅) φ ∅ :=
    ⟨⟨by simp [hcall], houtcome, hsettles⟩, fun _ => ⟨fun h => absurd h (Option.some_ne_none _), rfl⟩⟩
  refine (wp_bind (M := machine)).mpr ?_
  cases request with
  | enroll window process_id operation_id =>
    refine (wp_bind (M := machine)).mpr (wp_mono (M := machine) (wp_provider_enroll window process_id
      operation_id) fun result φ H h => ?_)
    obtain ⟨rfl, hcall, houtcome, hsettles⟩ := h
    exact hreturns hcall houtcome hsettles
  | evaluate window process_id operation_id credential_id salt =>
    refine (wp_bind (M := machine)).mpr (wp_mono (M := machine) (wp_provider_evaluate window
      process_id) fun result φ H h => ?_)
    obtain ⟨rfl, hcall, houtcome, hkept, hfound⟩ := h
    refine hreturns hcall houtcome ?_
    cases result with
    | error error => exact hkept
    | ok found =>
      obtain ⟨request, value, hasserted, rfl, rfl, hasserts⟩ := hfound found rfl
      exact ⟨hkept, operation_id, request, value, hasserted, hcall, hasserts⟩
  | cancel operation_id =>
    refine (wp_bind (M := machine)).mpr (wp_mono (M := machine) wp_provider_cancel
      fun _ φ H h => ?_)
    obtain ⟨rfl, hcall, houtcome, hkept⟩ := h
    exact hreturns hcall houtcome hkept
  | remove credential_id =>
    refine (wp_bind (M := machine)).mpr (wp_mono (M := machine) wp_provider_remove
      fun result φ H h => ?_)
    obtain ⟨rfl, hcall, houtcome, hkept⟩ := h
    exact hreturns hcall houtcome hkept

end

end Librarian.WindowsHello
