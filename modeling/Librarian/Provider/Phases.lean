import Librarian.Lib.Conc.Logic
import Librarian.Provider.Programs

/-!
# What a thread knows

A thread of the agent or of the desktop learns facts about credentials, and each fact stays true
whatever the other threads do. A thread of the provider has a connection of its own and goes through
the stages of one creation. The discipline says which of its facts an action rests on, and
`Allowed.keeps` says that every program keeps to it.
-/

namespace Librarian.Provider

open Conc Librarian.Agent Librarian.Protocol

/-! ## Facts -/

namespace World

variable (w : World) (credential_id : CredentialId)

/-- The credential has not been confirmed, and no entry lets it be confirmed any more: its entries
are disconnected, or of an epoch in which the vault is not open and will not be again. -/
def Dead : Prop :=
  (w.ledger credential_id).home ≠ none ∧ (w.ledger credential_id).confirmed = false ∧
    ∀ entry ∈ w.pending_passkey_creations, entry.2.credential_id = credential_id →
      entry.2.disconnected = true ∨ ¬w.Authorizes entry.2.unlock_epoch

/-- The cache has been cleaned of the credential for good, or before the provider had entered it. -/
def Cleared : Prop :=
  (w.ledger credential_id).overtaken = true ∨ (w.ledger credential_id).early = true ∨
    ((w.ledger credential_id).added = true ∧ w.cache credential_id = false)

/-- The record of the credential has been deleted. -/
def Gone : Prop :=
  (w.ledger credential_id).home ≠ none ∧ w.records credential_id = none

end World

/-- What a thread can know of a credential. -/
inductive Fact
  | home (credential_id : CredentialId) (key : PendingPasskeyCreationKey)
  | on (credential_id : CredentialId) (connection_id : ConnectionId)
  | confirmed (credential_id : CredentialId)
  | withdrawn (credential_id : CredentialId)
  | targeted (credential_id : CredentialId)
  | dead (credential_id : CredentialId)
  | cleared (credential_id : CredentialId)
  | gone (credential_id : CredentialId)

/-- What a fact says. -/
def Fact.Holds (w : World) : Fact → Prop
  | home credential_id key => (w.ledger credential_id).home = some key
  | on credential_id connection_id => ∃ key, (w.ledger credential_id).home = some key ∧
    key.connection_id = connection_id
  | confirmed credential_id => (w.ledger credential_id).confirmed = true
  | withdrawn credential_id => (w.ledger credential_id).withdrawn = true
  | targeted credential_id => (w.ledger credential_id).targeted = true
  | dead credential_id => w.Dead credential_id
  | cleared credential_id => w.Cleared credential_id
  | gone credential_id => w.Gone credential_id

/-! ## Phases -/

/-- How far a thread is through `operation_gate`. -/
inductive Gate
  | outside
  | entered
  | running
  | completed
  deriving DecidableEq

/-- How far the provider is with its credential. -/
inductive Stage
  | outside
  /-- It has a connection, and no credential has been made on it. -/
  | waiting
  | held (credential_id : CredentialId)
  | added (credential_id : CredentialId)
  /-- The agent has answered that the credential is confirmed. -/
  | acked (credential_id : CredentialId)
  /-- It has tried to clean the cache again. -/
  | abandoned (credential_id : CredentialId)

/-- The credential of a stage. -/
def Stage.credential_id : Stage → Option CredentialId
  | outside | waiting => none
  | held credential_id | added credential_id | acked credential_id | abandoned credential_id =>
    some credential_id

/-- What is known of a thread. -/
structure Phase where
  gate : Gate := .outside
  connection : Option ConnectionId := none
  stage : Stage := .outside
  /-- The connection on which it may make a credential. -/
  making : Option ConnectionId := none
  /-- The credential that it has taken from the cache for `DeletePasskey`, before it reports. -/
  deleting : Option CredentialId := none
  facts : List Fact := []

namespace Phase

variable (φ : Phase)

/-- The thread learns a fact. -/
def learn (fact : Fact) : Phase := { φ with facts := fact :: φ.facts }

/-- The thread has nothing in hand. -/
def Free : Prop :=
  φ.gate = .outside ∧ φ.connection = none ∧ φ.stage = .outside ∧ φ.deleting = none

/-- The phase after an action. -/
def next : (a : Action) → a.Result → Phase
  | .enterOperation, true => { φ with gate := .entered }
  | .beginTransaction _, _ => { φ with gate := .running }
  | .complete, true => { φ with gate := .completed }
  | .endTransaction, _ => { φ with gate := .entered }
  | .leaveOperation, _ => { φ with gate := .outside }
  | .connect, some session => { φ with connection := some session.1, stage := .waiting }
  | .send _ ⟨_, _, .rollback _⟩, _ => { φ with stage := .outside }
  | .receive connection_id .make, some (.created credential_id) =>
    { φ with stage := .held credential_id, facts := .on credential_id connection_id :: φ.facts }
  | .receive _ (.confirm credential_id), some .done => { φ with stage := .acked credential_id }
  | .receive _ (.rollback credential_id), some .done => φ.learn (.gone credential_id)
  | .addCredentials credential_id, true => { φ with stage := .added credential_id }
  | .removeCredentials credential_id, _ => { φ with stage := .abandoned credential_id }
  | .returned _, _ => { φ with connection := none, stage := .outside }
  | .takeRequest connection_id, some ⟨_, _, .make⟩ => { φ with making := some connection_id }
  | .takeRequest _, some ⟨_, _, .rollback credential_id⟩ => φ.learn (.withdrawn credential_id)
  | .commitMake key _ _, (.ok, credential_id) =>
    { φ with making := none, facts := .home credential_id key :: φ.facts }
  | .commitMake _ _ _, _ => { φ with making := none }
  | .pendingGet key, some expected => φ.learn (.home expected.credential_id key)
  | .commitConfirm _ expected, .ok => φ.learn (.confirmed expected.credential_id)
  | .removeCachedCredential credential_id, true => φ.learn (.cleared credential_id)
  | .removeCachedPasskey credential_id, true =>
    { φ with
      deleting := some credential_id
      facts := .targeted credential_id :: .cleared credential_id :: φ.facts }
  | .pendingFindDisconnected, some (key, pending) =>
    { φ with facts := .dead pending.credential_id :: .home pending.credential_id key :: φ.facts }
  | .pendingPasskeyCredentialIds _, some credential_ids =>
    { φ with facts := credential_ids.map .dead ++ φ.facts }
  | .commitDelete deletion, .ok => φ.learn (.gone deletion.credential_id)
  | .commitDelete (.rollback _ expected), .notFound => φ.learn (.gone expected.credential_id)
  | .commitDelete (.disconnected _ pending _), .notFound => φ.learn (.gone pending.credential_id)
  | .reportDeletion _ _, _ => { φ with deleting := none }
  | _, _ => φ

/-- What a deletion rests on. -/
def Grounds : Deletion → Prop
  | .rollback key expected =>
    .withdrawn expected.credential_id ∈ φ.facts ∧ .home expected.credential_id key ∈ φ.facts
  | .disconnected key pending _ =>
    .dead pending.credential_id ∈ φ.facts ∧ .home pending.credential_id key ∈ φ.facts
  | .recovered credential_id _ => .dead credential_id ∈ φ.facts
  | .requested credential_id _ => .targeted credential_id ∈ φ.facts

/-- What an answer of the agent rests on. -/
def Answers (connection_id : ConnectionId) : Request → Reply → Prop
  | _, .refused => True
  | .make, .created credential_id =>
    ∃ key, .home credential_id key ∈ φ.facts ∧ key.connection_id = connection_id
  | .confirm credential_id, .done => .confirmed credential_id ∈ φ.facts
  | .rollback credential_id, .done => .gone credential_id ∈ φ.facts
  | _, _ => False

/-- What the end of an operation rests on. -/
structure Settles (outcome : Outcome) : Prop where
  ok : outcome.result = .ok → outcome.response = true ∧ φ.gate = .completed ∧
    ∃ credential_id, outcome.credential_id = some credential_id ∧ φ.stage = .acked credential_id
  failed : outcome.result ≠ .ok → outcome.response = false ∧
    (φ.stage = .outside ∨ φ.stage = .waiting ∨ ∃ credential_id, φ.stage = .abandoned credential_id)
  rolled_back : outcome.rolled_back = true → ∃ credential_id,
    outcome.credential_id = some credential_id ∧ .gone credential_id ∈ φ.facts
  credential (credential_id : CredentialId) : outcome.credential_id = some credential_id →
    ∃ connection_id, outcome.connection_id = some connection_id ∧
      .on credential_id connection_id ∈ φ.facts

/-- What an action rests on. -/
def Allows : Action → Prop
  | .enterOperation => φ.gate = .outside
  | .beginTransaction _ => φ.gate = .entered
  | .complete | .endTransaction => φ.gate = .running
  | .leaveOperation => φ.gate ≠ .outside
  | .connect => φ.connection = none
  | .send connection_id frame => φ.connection = some connection_id ∧
    ∀ credential_id, frame.request = .rollback credential_id →
      φ.stage = .held credential_id ∨ φ.stage = .abandoned credential_id
  | .receive connection_id .make => φ.connection = some connection_id ∧ φ.stage = .waiting
  | .receive _ (.confirm credential_id) => φ.stage = .added credential_id
  | .addCredentials credential_id => φ.stage = .held credential_id
  | .removeCredentials credential_id => φ.stage.credential_id = some credential_id
  | .returned outcome => φ.Settles outcome
  | .reply connection_id request reply => φ.Answers connection_id request reply
  | .pendingRemove key => ∃ credential_id, .gone credential_id ∈ φ.facts ∧
    .home credential_id key ∈ φ.facts
  | .commitMake key _ _ => φ.making = some key.connection_id
  | .commitConfirm _ expected => expected.disconnected = false
  | .commitDelete deletion => φ.Grounds deletion ∧ .cleared deletion.credential_id ∈ φ.facts
  | .removeCachedCredential credential_id =>
    .withdrawn credential_id ∈ φ.facts ∨ .dead credential_id ∈ φ.facts
  | .removeCachedPasskey _ => φ.deleting = none
  | .reportDeletion credential_id succeeded => φ.deleting = some credential_id ∧
    (succeeded = true → .gone credential_id ∈ φ.facts)
  | _ => True

end Phase

/-- The discipline of the three parties. No program takes a mutex. -/
def discipline : Discipline machine Phase where
  start := {}
  next φ a r := φ.next a.down r
  release φ _ := φ
  allows φ _ a := φ.Allows a.down
  locks _ _ _ := True
  releases _ _ := True

/-! ## The programs keep to it -/

section

variable {α : Type} {φ : Phase} {H : Finset Empty} {a : Action}

theorem wp_act {Q : a.Result → Phase → Finset Empty → Prop} :
    wp discipline (act a) Q φ H ↔ φ.Allows a ∧ ∀ r, Q r (φ.next a r) H := Iff.rfl

theorem wp_act_bind {f : a.Result → Prog machine α} {Q : α → Phase → Finset Empty → Prop} :
    wp discipline ((act a).bind f) Q φ H ↔
      φ.Allows a ∧ ∀ r, wp discipline (f r) Q (φ.next a r) H := Iff.rfl

theorem wp_seq {β : Type} {p : Prog machine α} {f : α → Prog machine β}
    {Q : β → Phase → Finset Empty → Prop}
    (h : wp discipline p (fun a φ H => wp discipline (f a) Q φ H) φ H) :
    wp discipline (p.bind f) Q φ H :=
  (wp_bind (M := machine)).mpr h

/-- A thread has learned something, and nothing else has changed. -/
def Phase.Learns (φ φ' : Phase) : Prop := ∃ facts, φ.facts ⊆ facts ∧ φ' = { φ with facts := facts }

theorem Phase.Learns.refl : φ.Learns φ := ⟨φ.facts, List.Subset.refl _, rfl⟩

theorem Phase.Learns.trans {φ φ' φ'' : Phase} (h : φ.Learns φ') (h' : φ'.Learns φ'') :
    φ.Learns φ'' := by
  obtain ⟨facts, hfacts, rfl⟩ := h
  obtain ⟨facts', hfacts', rfl⟩ := h'
  exact ⟨facts', List.Subset.trans hfacts hfacts', rfl⟩

theorem Phase.Learns.free {φ' : Phase} (h : φ.Learns φ') (hfree : φ.Free) : φ'.Free := by
  obtain ⟨facts, -, rfl⟩ := h
  exact hfree

theorem Phase.learns_learn (fact : Fact) : φ.Learns (φ.learn fact) :=
  ⟨fact :: φ.facts, List.subset_cons_self _ _, rfl⟩

/-! ### The agent -/

theorem wp_pre_secret_operation {request_epoch : ℕ} {Q : Bool → Phase → Finset Empty → Prop}
    (h : ∀ b, Q b φ H) : wp discipline (pre_secret_operation request_epoch) Q φ H := by
  refine ⟨trivial, fun state => ⟨trivial, fun epoch => ?_⟩⟩
  simp only [Prog.ret_bind]
  split_ifs
  · exact ⟨trivial, h⟩
  · exact h false

theorem wp_after_core {result : Commit} {Q : Unit → Phase → Finset Empty → Prop} (h : Q () φ H) :
    wp discipline (after_core result) Q φ H := by
  have hlock : wp discipline (do if ← act .check then act .setLocked else pure ()) Q φ H := by
    refine ⟨trivial, fun b => ?_⟩
    cases b
    · exact h
    · exact ⟨trivial, fun _ => h⟩
  cases result with
  | failed => exact ⟨trivial, fun _ => h⟩
  | ok => exact hlock
  | notFound => exact hlock
  | aborted => exact hlock

/-- A disconnected creation is dead, so that the cache may be cleaned of it and its record deleted.
The induction is on the rounds of the loop. -/
theorem wp_rollback_disconnected {Q : Bool → Phase → Finset Empty → Prop} (rounds : ℕ)
    (h : ∀ b φ', φ.Learns φ' → Q b φ' H) :
    wp discipline (rollback_disconnected_passkey_creations rounds) Q φ H := by
  induction rounds generalizing φ with
  | zero => trivial
  | succ rounds ih =>
    refine ⟨trivial, fun found => ?_⟩
    cases found with
    | none => exact h true _ Phase.Learns.refl
    | some found =>
      obtain ⟨key, pending⟩ := found
      have hfound : φ.Learns { φ with
          facts := .dead pending.credential_id :: .home pending.credential_id key :: φ.facts } :=
        ⟨_, by intro fact hfact; simp [hfact], rfl⟩
      refine ⟨trivial, fun state => ?_⟩
      simp only [Prog.ret_bind]
      by_cases hstate : state = .unlocked
      · rw [if_neg (by simpa using hstate)]
        refine ⟨.inr (.head _), fun cleaned => ?_⟩
        cases cleaned with
        | false => exact h false _ hfound
        | true =>
          have hcleaned := hfound.trans (Phase.learns_learn (.cleared pending.credential_id))
          refine ⟨trivial, fun request_epoch => ?_⟩
          refine ⟨⟨⟨.tail _ (.head _), .tail _ (.tail _ (.head _))⟩, .head _⟩, fun result => ?_⟩
          have hgone := hcleaned.trans (Phase.learns_learn (.gone pending.credential_id))
          cases result with
          | ok => exact ih fun b φ' hφ' => h b φ' (hgone.trans hφ')
          | notFound =>
            refine ⟨⟨pending.credential_id, .head _, .tail _ (.tail _ (.tail _ (.head _)))⟩,
              fun _ => ?_⟩
            exact ih fun b φ' hφ' => h b φ' (hgone.trans hφ')
          | aborted => exact h false _ hcleaned
          | failed => exact ⟨trivial, fun _ => h false _ hcleaned⟩
      · rw [if_pos (by simpa using hstate)]
        exact h false _ hfound

variable {key : PendingPasskeyCreationKey} {credential_id : CredentialId}
  {authenticated_process_id request_epoch : ℕ}

theorem wp_make_passkey {Q : Reply → Phase → Finset Empty → Prop} {rounds : ℕ} (hfree : φ.Free)
    (hmaking : φ.making = some key.connection_id)
    (h : ∀ reply φ', φ'.Free → φ'.Answers key.connection_id .make reply → Q reply φ' H) :
    wp discipline (make_passkey rounds key authenticated_process_id request_epoch) Q φ H := by
  have hrefused : ∀ φ', φ'.Free → Q .refused φ' H := fun φ' hφ' => h _ _ hφ' trivial
  unfold make_passkey
  refine wp_seq (p := pre_secret_operation _) (wp_pre_secret_operation fun b => ?_)
  cases b with
  | false => exact hrefused φ hfree
  | true =>
    refine wp_seq (p := rollback_disconnected_passkey_creations _)
        (wp_rollback_disconnected rounds fun b φ₁ hφ₁ => ?_)
    have hfree₁ := hφ₁.free hfree
    have hmaking₁ : φ₁.making = some key.connection_id := by
      obtain ⟨facts, -, rfl⟩ := hφ₁
      exact hmaking
    cases b with
    | false => exact hrefused φ₁ hfree₁
    | true =>
      refine ⟨trivial, fun verified => ?_⟩
      cases verified with
      | false => exact hrefused φ₁ hfree₁
      | true =>
        refine ⟨trivial, fun found => ?_⟩
        cases found with
        | some found => exact hrefused _ hfree₁
        | none =>
          refine ⟨trivial, fun permitted => ?_⟩
          cases permitted with
          | false => exact hrefused _ hfree₁
          | true =>
            refine wp_seq (p := pre_secret_operation _) (wp_pre_secret_operation fun b => ?_)
            cases b with
            | false => exact hrefused _ hfree₁
            | true =>
              refine ⟨hmaking₁, fun result => ?_⟩
              obtain ⟨result, credential_id⟩ := result
              cases result with
              | ok => exact h _ _ hfree₁ ⟨key, .head _, rfl⟩
              | notFound => exact wp_seq (p := after_core _) (wp_after_core (hrefused _ hfree₁))
              | aborted => exact wp_seq (p := after_core _) (wp_after_core (hrefused _ hfree₁))
              | failed => exact wp_seq (p := after_core _) (wp_after_core (hrefused _ hfree₁))

theorem wp_confirm_passkey_creation {Q : Reply → Phase → Finset Empty → Prop} (hfree : φ.Free)
    (h : ∀ reply φ', φ'.Free →
      φ'.Answers key.connection_id (.confirm credential_id) reply → Q reply φ' H) :
    wp discipline (confirm_passkey_creation key credential_id authenticated_process_id
      request_epoch) Q φ H := by
  have hrefused : ∀ φ', φ'.Free → Q .refused φ' H := fun φ' hφ' => h _ _ hφ' trivial
  unfold confirm_passkey_creation
  refine wp_seq (p := pre_secret_operation _) (wp_pre_secret_operation fun b => ?_)
  cases b with
  | false => exact hrefused φ hfree
  | true =>
    refine ⟨trivial, fun verified => ?_⟩
    cases verified with
    | false => exact hrefused φ hfree
    | true =>
      refine ⟨trivial, fun found => ?_⟩
      cases found with
      | none => exact hrefused φ hfree
      | some expected =>
        simp only [Prog.ret_bind]
        split_ifs with hexpected
        · exact hrefused _ hfree
        · simp only [not_or, not_not, Bool.not_eq_true] at hexpected
          obtain ⟨rfl, -, -, -, hdisconnected⟩ := hexpected
          refine ⟨trivial, fun permitted => ?_⟩
          cases permitted with
          | false => exact hrefused _ hfree
          | true =>
            refine wp_seq (p := pre_secret_operation _) (wp_pre_secret_operation fun b => ?_)
            cases b with
            | false => exact hrefused _ hfree
            | true =>
              refine ⟨hdisconnected, fun result => ?_⟩
              cases result with
              | ok => exact h _ _ hfree (.head _)
              | notFound => exact wp_seq (p := after_core _) (wp_after_core (hrefused _ hfree))
              | aborted => exact wp_seq (p := after_core _) (wp_after_core (hrefused _ hfree))
              | failed => exact wp_seq (p := after_core _) (wp_after_core (hrefused _ hfree))

theorem wp_rollback_passkey_creation {Q : Reply → Phase → Finset Empty → Prop} (hfree : φ.Free)
    (hwithdrawn : .withdrawn credential_id ∈ φ.facts)
    (h : ∀ reply φ', φ'.Free →
      φ'.Answers key.connection_id (.rollback credential_id) reply → Q reply φ' H) :
    wp discipline (rollback_passkey_creation key credential_id authenticated_process_id
      request_epoch) Q φ H := by
  have hrefused : ∀ φ', φ'.Free → Q .refused φ' H := fun φ' hφ' => h _ _ hφ' trivial
  unfold rollback_passkey_creation
  refine wp_seq (p := pre_secret_operation _) (wp_pre_secret_operation fun b => ?_)
  cases b with
  | false => exact hrefused φ hfree
  | true =>
    refine ⟨trivial, fun verified => ?_⟩
    cases verified with
    | false => exact hrefused φ hfree
    | true =>
      refine ⟨trivial, fun found => ?_⟩
      cases found with
      | none => exact hrefused φ hfree
      | some expected =>
        simp only [Prog.ret_bind]
        split_ifs with hexpected
        · exact hrefused _ hfree
        · simp only [not_or, not_not, Bool.not_eq_true] at hexpected
          obtain ⟨rfl, -, -, -⟩ := hexpected
          refine ⟨trivial, fun permitted => ?_⟩
          cases permitted with
          | false => exact hrefused _ hfree
          | true =>
            refine ⟨.inl (.tail _ hwithdrawn), fun cleaned => ?_⟩
            cases cleaned with
            | false => exact hrefused _ hfree
            | true =>
              refine wp_seq (p := pre_secret_operation _) (wp_pre_secret_operation fun b => ?_)
              cases b with
              | false => exact hrefused _ hfree
              | true =>
                refine ⟨⟨⟨.tail _ (.tail _ hwithdrawn), .tail _ (.head _)⟩, .head _⟩,
                  fun result => ?_⟩
                cases result with
                | ok => exact h _ _ hfree (.head _)
                | notFound =>
                  exact ⟨⟨expected.credential_id, .head _, .tail _ (.tail _ (.head _))⟩,
                    fun _ => h _ _ hfree (.head _)⟩
                | aborted => exact wp_seq (p := after_core _) (wp_after_core (hrefused _ hfree))
                | failed => exact wp_seq (p := after_core _) (wp_after_core (hrefused _ hfree))

theorem wp_serve {rounds : ℕ} {connection_id : ConnectionId} (hfree : φ.Free) :
    wp discipline (serve rounds connection_id authenticated_process_id)
      (fun _ φ' _ => φ'.Free) φ H := by
  refine ⟨trivial, fun taken => ?_⟩
  cases taken with
  | none => exact hfree
  | some frame =>
    obtain ⟨transaction_id, unlock_epoch, request⟩ := frame
    cases request with
    | make =>
      refine wp_seq (p := make_passkey _ _ _ _)
          (wp_make_passkey hfree rfl fun reply φ' hφ' hreply => ?_)
      exact ⟨hreply, fun _ => hφ'⟩
    | confirm credential_id =>
      refine wp_seq (p := confirm_passkey_creation _ _ _ _)
          (wp_confirm_passkey_creation hfree fun reply φ' hφ' hreply => ?_)
      exact ⟨hreply, fun _ => hφ'⟩
    | rollback credential_id =>
      refine wp_seq (p := rollback_passkey_creation _ _ _ _)
          (wp_rollback_passkey_creation hfree (.head _) fun reply φ' hφ' hreply => ?_)
      exact ⟨hreply, fun _ => hφ'⟩

theorem wp_disconnect {rounds : ℕ} {connection_id : ConnectionId} (hfree : φ.Free) :
    wp discipline (disconnect rounds connection_id) (fun _ φ' _ => φ'.Free) φ H := by
  refine ⟨trivial, fun _ => ?_⟩
  exact wp_seq (p := rollback_disconnected_passkey_creations _)
      (wp_rollback_disconnected rounds fun _ _ hφ' => hφ'.free hfree)

/-- The cleanup takes ids that it knows to be dead. The induction is on their list. -/
theorem wp_cleanup_recovered {Q : Bool → Phase → Finset Empty → Prop} {cancellations : ℕ}
    {credential_ids : List CredentialId} (hdead : ∀ id ∈ credential_ids, .dead id ∈ φ.facts)
    (h : ∀ b φ', φ.Learns φ' → Q b φ' H) :
    wp discipline (cleanup_recovered cancellations credential_ids) Q φ H := by
  induction credential_ids generalizing φ with
  | nil => exact h true _ Phase.Learns.refl
  | cons credential_id credential_ids ih =>
    obtain ⟨hhead, htail⟩ := List.forall_mem_cons.mp hdead
    refine ⟨trivial, fun b => ?_⟩
    cases b with
    | false => exact h false _ Phase.Learns.refl
    | true =>
      refine ⟨.inr hhead, fun cleaned => ?_⟩
      cases cleaned with
      | false => exact ih htail h
      | true =>
        have hcleaned := φ.learns_learn (.cleared credential_id)
        refine ⟨trivial, fun b => ?_⟩
        cases b with
        | false => exact h false _ hcleaned
        | true =>
          refine ⟨⟨.tail _ hhead, .head _⟩, fun result => ?_⟩
          cases result with
          | ok =>
            refine ih (fun id hid => .tail _ (.tail _ (htail id hid))) fun b φ' hφ' => ?_
            exact h b φ' (hcleaned.trans ((Phase.learns_learn (.gone credential_id)).trans hφ'))
          | notFound =>
            exact ih (fun id hid => .tail _ (htail id hid))
              fun b φ' hφ' => h b φ' (hcleaned.trans hφ')
          | aborted => exact h false _ hcleaned
          | failed => exact h false _ hcleaned

theorem wp_unlock (hfree : φ.Free) : wp discipline unlock (fun _ φ' _ => φ'.Free) φ H := by
  refine ⟨trivial, fun cancellations => ⟨trivial, fun begun => ?_⟩⟩
  cases begun with
  | false => exact hfree
  | true =>
    refine ⟨trivial, fun opened => ?_⟩
    cases opened with
    | false => exact ⟨trivial, fun _ => hfree⟩
    | true =>
      have hrest : ∀ (b : Bool) φ', φ'.Free → wp discipline
          (if b then do
            if ← act (.publishUnlock cancellations) then pure () else act .setLocked
          else act .setLocked) (fun _ φ' _ => φ'.Free) φ' H := by
        intro b φ' hφ'
        cases b with
        | false => exact ⟨trivial, fun _ => hφ'⟩
        | true =>
          refine ⟨trivial, fun published => ?_⟩
          cases published with
          | false => exact ⟨trivial, fun _ => hφ'⟩
          | true => exact hφ'
      refine wp_seq (p := cleanup_recovered_passkey_creations _) ⟨trivial, fun found => ?_⟩
      cases found with
      | none => exact hrest false _ hfree
      | some credential_ids =>
        refine wp_cleanup_recovered (fun id hid => ?_) fun b φ' hφ' => hrest b φ' (hφ'.free hfree)
        exact List.mem_append_left _ (List.mem_map_of_mem hid)

theorem wp_delete_passkey {Q : Bool → Phase → Finset Empty → Prop}
    (htargeted : .targeted credential_id ∈ φ.facts) (hcleared : .cleared credential_id ∈ φ.facts)
    (hdone : Q true (φ.learn (.gone credential_id)) H) (hfailed : Q false φ H) :
    wp discipline (delete_passkey credential_id request_epoch) Q φ H := by
  refine wp_seq (p := pre_secret_operation _) (wp_pre_secret_operation fun b => ?_)
  cases b with
  | false => exact hfailed
  | true =>
    refine ⟨⟨htargeted, hcleared⟩, fun result => ?_⟩
    cases result with
    | ok => exact hdone
    | notFound => exact wp_seq (p := after_core _) (wp_after_core hfailed)
    | aborted => exact wp_seq (p := after_core _) (wp_after_core hfailed)
    | failed => exact wp_seq (p := after_core _) (wp_after_core hfailed)

/-! ### The desktop -/

theorem wp_deletePasskey (hfree : φ.Free) :
    wp discipline (deletePasskey credential_id request_epoch) (fun _ φ' _ => φ'.Free) φ H := by
  obtain ⟨hgate, hconnection, hstage, hdeleting⟩ := hfree
  refine ⟨hdeleting, fun cleaned => ?_⟩
  cases cleaned with
  | false => exact ⟨hgate, hconnection, hstage, hdeleting⟩
  | true =>
    refine ⟨trivial, fun reached => ?_⟩
    cases reached with
    | false => exact ⟨⟨rfl, by rintro ⟨⟩⟩, fun _ => ⟨hgate, hconnection, hstage, rfl⟩⟩
    | true =>
      refine ⟨trivial, fun waits => ?_⟩
      cases waits with
      | true =>
        refine wp_seq (p := delete_passkey _ _)
            (wp_delete_passkey (.head _) (.tail _ (.head _)) ?_ ?_)
        · refine ⟨trivial, fun answered => ⟨⟨rfl, fun _ => .head _⟩, fun _ => ?_⟩⟩
          exact ⟨hgate, hconnection, hstage, rfl⟩
        · exact ⟨⟨rfl, by rintro ⟨⟩⟩, fun _ => ⟨hgate, hconnection, hstage, rfl⟩⟩
      | false =>
        refine ⟨⟨rfl, by rintro ⟨⟩⟩, fun _ => ?_⟩
        exact wp_seq (p := delete_passkey _ _) (wp_delete_passkey (.head _) (.tail _ (.head _))
          ⟨hgate, hconnection, hstage, rfl⟩ ⟨hgate, hconnection, hstage, rfl⟩)

/-! ### The provider -/

/-- The provider is in its operation, and has left nothing of its credential behind. -/
def Phase.Released (φ : Phase) (outcome : Outcome) : Prop :=
  φ.deleting = none ∧ φ.Settles outcome ∧
    φ.gate = if outcome.result = .ok then .completed else .running

theorem wp_abandon {Q : Outcome → Phase → Finset Empty → Prop} {session : Option Session}
    {transaction_id : TransactionId} {connection_id : ConnectionId} {result : HResult}
    (hconnection : ∀ s ∈ session, φ.connection = some s.1) (hgate : φ.gate = .running)
    (hdeleting : φ.deleting = none) (hresult : result ≠ .ok)
    (hstage : φ.stage = .abandoned credential_id ∨
      (φ.stage = .held credential_id ∧ session.isSome = true))
    (hon : .on credential_id connection_id ∈ φ.facts)
    (h : ∀ outcome φ', φ'.Released outcome → Q outcome φ' H) :
    wp discipline (abandon session transaction_id connection_id credential_id result) Q φ H := by
  cases session with
  | none =>
    have habandoned : φ.stage = .abandoned credential_id := by simpa using hstage
    refine h _ _
        ⟨hdeleting, ⟨by simp, fun _ => ⟨rfl, .inr (.inr ⟨_, habandoned⟩)⟩, by simp, ?_⟩, ?_⟩
    · rintro _ ⟨⟩
      exact ⟨connection_id, rfl, hon⟩
    · simpa using hgate
  | some session =>
    have hsends : φ.Allows
        (.send session.1 ⟨transaction_id, session.2, .rollback credential_id⟩) := by
      refine ⟨hconnection session rfl, fun id hid => ?_⟩
      cases hid
      exact hstage.symm.imp And.left id
    refine ⟨hsends, fun _ => ⟨trivial, fun reply => ?_⟩⟩
    -- Whatever is answered, the rollback has been asked for, and the provider is out of it.
    have hrefused : ∀ φ' : Phase, φ'.stage = .outside → φ'.gate = .running →
        φ'.deleting = none → .on credential_id connection_id ∈ φ'.facts → φ'.Released
          { result := .failed
            connection_id := some connection_id
            credential_id := some credential_id } := by
      intro φ' hstage' hgate' hdeleting' hon'
      refine ⟨hdeleting', ⟨by simp, fun _ => ⟨rfl, .inl hstage'⟩, by simp, ?_⟩, by simpa using
          hgate'⟩
      rintro _ ⟨⟩
      exact ⟨connection_id, rfl, hon'⟩
    cases reply with
    | none => exact h _ _ (hrefused _ rfl hgate hdeleting hon)
    | some reply =>
      cases reply with
      | refused => exact h _ _ (hrefused _ rfl hgate hdeleting hon)
      | created _ => exact h _ _ (hrefused _ rfl hgate hdeleting hon)
      | done =>
        refine h _ _ ⟨hdeleting, ⟨fun hok => absurd hok hresult, fun _ => ⟨rfl, .inl rfl⟩,
          fun _ => ⟨credential_id, rfl, .head _⟩, ?_⟩, ?_⟩
        · rintro _ ⟨⟩
          exact ⟨connection_id, rfl, .tail _ hon⟩
        · show φ.gate = if result = .ok then .completed else .running
          rw [if_neg hresult, hgate]

variable {session : Session} {transaction_id : TransactionId}
  {Q : Outcome → Phase → Finset Empty → Prop}

theorem wp_confirm_creation (hconnection : φ.connection = some session.1)
    (hgate : φ.gate = .running) (hdeleting : φ.deleting = none)
    (hstage : φ.stage = .added credential_id) (hon : .on credential_id session.1 ∈ φ.facts)
    (h : ∀ outcome φ', φ'.Released outcome → Q outcome φ' H) :
    wp discipline (confirm_creation session transaction_id credential_id) Q φ H := by
  refine ⟨⟨hconnection, by rintro _ ⟨⟩⟩, fun _ => ⟨hstage, fun reply => ?_⟩⟩
  have hadded : φ.stage.credential_id = some credential_id := by rw [hstage]; rfl
  cases reply with
  | none =>
    refine ⟨hadded, fun _ => ?_⟩
    exact wp_abandon (by rintro _ ⟨⟩) hgate hdeleting (by simp) (.inl rfl) hon h
  | some reply =>
    have hsession : ∀ s ∈ some session, φ.connection = some s.1 := by
      rintro _ ⟨⟩
      exact hconnection
    cases reply with
    | created _ =>
      refine ⟨hadded, fun _ => ?_⟩
      exact wp_abandon hsession hgate hdeleting (by simp) (.inl rfl) hon h
    | refused =>
      refine ⟨hadded, fun _ => ?_⟩
      exact wp_abandon hsession hgate hdeleting (by simp) (.inl rfl) hon h
    | done =>
      refine ⟨hgate, fun completed => ?_⟩
      cases completed with
      | false =>
        refine ⟨rfl, fun _ => ?_⟩
        exact wp_abandon hsession hgate hdeleting (by simp) (.inl rfl) hon h
      | true =>
        refine h _ _ ⟨hdeleting, ⟨fun _ => ⟨rfl, rfl, credential_id, rfl, rfl⟩, fun hne => ?_,
          by simp, ?_⟩, rfl⟩
        · exact absurd rfl hne
        · rintro _ ⟨⟩
          exact ⟨session.1, rfl, hon⟩

theorem wp_finish_creation (hconnection : φ.connection = some session.1)
    (hgate : φ.gate = .running) (hdeleting : φ.deleting = none)
    (hstage : φ.stage = .held credential_id) (hon : .on credential_id session.1 ∈ φ.facts)
    (h : ∀ outcome φ', φ'.Released outcome → Q outcome φ' H) :
    wp discipline (finish_creation session transaction_id credential_id) Q φ H := by
  have hsession : ∀ s ∈ some session, φ.connection = some s.1 := by
    rintro _ ⟨⟩
    exact hconnection
  have habandon : ∀ result : HResult, result ≠ .ok → wp discipline
      (abandon (some session) transaction_id session.1 credential_id result) Q φ H :=
    fun result hresult => wp_abandon hsession hgate hdeleting hresult (.inr ⟨hstage, rfl⟩) hon h
  refine ⟨trivial, fun cancelled => ?_⟩
  cases cancelled with
  | true => exact habandon _ (by simp)
  | false =>
    refine ⟨trivial, fun encoded => ?_⟩
    cases encoded with
    | false => exact habandon _ (by simp)
    | true =>
      refine ⟨hstage, fun added => ?_⟩
      cases added with
      | true => exact wp_confirm_creation hconnection hgate hdeleting rfl hon h
      | false =>
        have hheld : φ.stage.credential_id = some credential_id := by rw [hstage]; rfl
        refine ⟨hheld, fun _ => ?_⟩
        exact wp_abandon hsession hgate hdeleting (by simp) (.inl rfl) hon h

theorem wp_operate (hconnection : φ.connection = none) (hgate : φ.gate = .running)
    (hdeleting : φ.deleting = none) (hstage : φ.stage = .outside)
    (h : ∀ outcome φ', φ'.Released outcome → Q outcome φ' H) :
    wp discipline (operate transaction_id) Q φ H := by
  -- Before a credential has been made there is nothing to release.
  have hend : ∀ (result : HResult) (connection_id : Option ConnectionId) (φ' : Phase),
      result ≠ .ok → φ'.deleting = none → φ'.gate = .running →
      (φ'.stage = .outside ∨ φ'.stage = .waiting) →
      Q { result := result, connection_id := connection_id } φ' H := by
    intro result connection_id φ' hresult hdeleting' hgate' hstage'
    refine h _ _
      ⟨hdeleting', ⟨fun hok => absurd hok hresult, fun _ => ⟨rfl, ?_⟩, by simp, by simp⟩, ?_⟩
    · exact hstage'.imp_right .inl
    · show φ'.gate = if result = .ok then .completed else .running
      rw [if_neg hresult, hgate']
  refine ⟨trivial, fun decoded => ?_⟩
  cases decoded with
  | false => exact hend _ _ _ (by simp) hdeleting hgate (.inl hstage)
  | true =>
    refine ⟨hconnection, fun connected => ?_⟩
    cases connected with
    | none => exact hend _ _ _ (by simp) hdeleting hgate (.inl hstage)
    | some session =>
      refine ⟨trivial, fun verified => ?_⟩
      cases verified with
      | false => exact hend _ _ _ (by simp) hdeleting hgate (.inr rfl)
      | true =>
        refine ⟨trivial, fun cancelled => ?_⟩
        cases cancelled with
        | true => exact hend _ _ _ (by simp) hdeleting hgate (.inr rfl)
        | false =>
          refine ⟨⟨rfl, by rintro _ ⟨⟩⟩, fun _ => ⟨⟨rfl, rfl⟩, fun reply => ?_⟩⟩
          cases reply with
          | none => exact hend _ _ _ (by simp) hdeleting hgate (.inr rfl)
          | some reply =>
            cases reply with
            | done => exact hend _ _ _ (by simp) hdeleting hgate (.inr rfl)
            | refused => exact hend _ _ _ (by simp) hdeleting hgate (.inr rfl)
            | created credential_id => exact wp_finish_creation rfl hgate hdeleting rfl (.head _) h

theorem wp_make_credential (hfree : φ.Free) :
    wp discipline (make_credential transaction_id) (fun _ φ' _ => φ'.Free) φ H := by
  obtain ⟨hgate, hconnection, hstage, hdeleting⟩ := hfree
  have hinvalid : φ.Settles { result := .failed } := 
    ⟨by simp, fun _ => ⟨rfl, .inl hstage⟩, by simp, by simp⟩
  refine ⟨trivial, fun valid => ?_⟩
  cases valid with
  | false => exact ⟨hinvalid, fun _ => ⟨hgate, rfl, rfl, hdeleting⟩⟩
  | true =>
    refine ⟨hgate, fun entered => ?_⟩
    cases entered with
    | false => exact ⟨hinvalid, fun _ => ⟨hgate, rfl, rfl, hdeleting⟩⟩
    | true =>
      refine ⟨rfl, fun _ => ?_⟩
      refine wp_seq (p := operate _) (wp_operate hconnection rfl hdeleting hstage
        fun outcome φ' hφ' => ?_)
      obtain ⟨hdeleting', hsettles, hgate'⟩ := hφ'
      refine ⟨hsettles, fun _ => ?_⟩
      simp only [Prog.ret_bind]
      split_ifs with hok
      · rw [if_pos hok] at hgate'
        have hinside : φ'.gate ≠ .outside := by simp [hgate']
        exact ⟨hinside, fun _ => ⟨rfl, rfl, rfl, hdeleting'⟩⟩
      · rw [if_neg hok] at hgate'
        exact ⟨hgate', fun _ => ⟨by rintro ⟨⟩, fun _ => ⟨rfl, rfl, rfl, hdeleting'⟩⟩⟩

end

/-- Every program keeps to the discipline, and ends with nothing in hand. -/
theorem Allowed.keeps {p : Prog machine Unit} (h : Allowed p) :
    wp discipline p (fun _ φ H => φ.Free ∧ H = ∅) discipline.start ∅ := by
  have hfree : discipline.start.Free := ⟨rfl, rfl, rfl, rfl⟩
  have hmono : ∀ {p : Prog machine Unit}, wp discipline p (fun _ φ _ => φ.Free) discipline.start ∅ →
      wp discipline p (fun _ φ H => φ.Free ∧ H = ∅) discipline.start ∅ :=
    fun hp => wp_mono hp fun _ _ H hφ => ⟨hφ, Finset.eq_empty_of_isEmpty H⟩
  refine hmono ?_
  cases h with
  | make_credential transaction_id => exact wp_make_credential hfree
  | cancel_operation transaction_id => exact ⟨trivial, fun _ => hfree⟩
  | serve rounds connection_id authenticated_process_id => exact wp_serve hfree
  | disconnect rounds connection_id => exact wp_disconnect hfree
  | unlock => exact wp_unlock hfree
  | lock_vault => exact ⟨trivial, fun _ => ⟨trivial, fun _ => hfree⟩⟩
  | deletePasskey credential_id request_epoch => exact wp_deletePasskey hfree

end Librarian.Provider
