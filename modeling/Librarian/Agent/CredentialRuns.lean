import Librarian.Agent.Credentials

/-!
# Histories of Windows Hello

Operations follow one another on a device, each with every combination of answers that the device
and the rest of the agent may give.
-/

namespace Librarian.Agent

open Conc Librarian.Core Librarian.Protocol

variable {P : Primitives}

/-- The operations on Windows Hello. -/
inductive HelloOperation
  | enroll
  | unlock
  | remove
  deriving DecidableEq, Repr

namespace HelloOperation

/-- What an operation runs. -/
def program (context : RequestContext) : HelloOperation → Code P Outcome
  | enroll => enrollWindowsHello context
  | unlock => unlockWindowsHello context
  | remove => removeWindowsHello context

/-- Whether an operation may remove the active credential. -/
def removing (operation : HelloOperation) : Bool := operation = remove

end HelloOperation

/-- A moment of a history: the device, the credentials that operations have abandoned, and the
operation under way with the rest of its program. -/
structure Moment (P : Primitives) where
  device : Device
  abandoned : Set (List UInt8)
  running : Option (HelloOperation × Code P Outcome)

/-- The credentials that nothing refers to. -/
def Device.unreferenced (d : Device) : Set (List UInt8) := {id ∈ d.platform | ¬d.Refers id}

/-- What an operation abandons at its end. -/
def Device.abandonedBy (d : Device) (outcome : Outcome) : Set (List UInt8) :=
  {id ∈ d.unreferenced | Abandons outcome}

theorem Device.abandonedBy_eq_empty {d : Device} {outcome : Outcome} (h : ¬Abandons outcome) :
    d.abandonedBy outcome = ∅ := by
  ext id
  simp [Device.abandonedBy, h]

/-- The moments of the histories that start on a device. -/
inductive Reaches (start : Device) : Moment P → Prop
  | start : Reaches start ⟨start, ∅, none⟩
  | begins {d : Device} {abandoned : Set (List UInt8)} (operation : HelloOperation)
      (context : RequestContext) (h : Reaches start ⟨d, abandoned, none⟩) :
      Reaches start ⟨d, abandoned, some (operation, operation.program context)⟩
  | step {d d' : Device} {abandoned : Set (List UInt8)} {operation : HelloOperation}
      {p p' : Code P Outcome} (h : Reaches start ⟨d, abandoned, some (operation, p)⟩)
      (hstep : Step (M := machine P) (helloEnvironment operation.removing) p d p' d') :
      Reaches start ⟨d', abandoned, some (operation, p')⟩
  | ends {d : Device} {abandoned : Set (List UInt8)} {operation : HelloOperation}
      {outcome : Outcome} (h : Reaches start ⟨d, abandoned, some (operation, .ret outcome)⟩) :
      Reaches start ⟨d, abandoned ∪ d.abandonedBy outcome, none⟩

/-- A device on which a history may start. -/
structure Device.InOrder (d : Device) : Prop where
  sound : d.Sound
  covered : d.Covered ∅ ∅
  removed : d.removed = ∅

/-- What holds at a moment: between the operations everything is in order, and an operation under way
will see to that. -/
def Moment.Keeps (m : Moment P) : Prop :=
  match m.running with
  | none => m.device.Sound ∧ m.device.Covered m.abandoned ∅
  | some (operation, p) => KeepsSound operation.removing p (Settles m.abandoned) m.device

/-- Every operation, on a device in order. -/
theorem HelloOperation.program_spec (operation : HelloOperation) {context : RequestContext}
    {d : Device} {abandoned : Set (List UInt8)} (hd : d.Sound) (hcovered : d.Covered abandoned ∅) :
    KeepsSound operation.removing (operation.program context : Code P _) (Settles abandoned) d := by
  cases operation with
  | enroll => exact enrollWindowsHello_spec hd hcovered
  | unlock => exact unlockWindowsHello_spec hd hcovered
  | remove => exact removeWindowsHello_spec hd hcovered

/-- Whatever an operation leaves behind is accounted for. -/
theorem Settles.covered {d : Device} {abandoned : Set (List UInt8)} {outcome : Outcome}
    (h : Settles abandoned outcome d) : d.Covered (abandoned ∪ d.abandonedBy outcome) ∅ := by
  intro id hid
  by_cases hrefers : d.Refers id
  · exact .inl hrefers
  · refine .inr (.inl ?_)
    by_cases habandons : Abandons outcome
    · exact .inr ⟨⟨hid, hrefers⟩, habandons⟩
    · rcases h.2 habandons id hid with hrefers' | habandoned | hempty
      · exact absurd hrefers' hrefers
      · exact .inl habandoned
      · cases hempty

theorem Reaches.keeps {start : Device} (hstart : start.InOrder) {m : Moment P}
    (h : Reaches start m) : m.Keeps := by
  induction h with
  | start => exact ⟨hstart.sound, hstart.covered⟩
  | begins operation context _ ih => exact operation.program_spec ih.1 ih.2
  | step _ hstep ih => exact upholds.step ih hstep
  | ends _ ih => exact ⟨ih.1, Settles.covered ih⟩

theorem Moment.Keeps.sound {m : Moment P} (h : m.Keeps) : m.device.Sound := by
  obtain ⟨d, abandoned, running⟩ := m
  cases running with
  | none => exact h.1
  | some running =>
    rcases upholds.here h with hd | ⟨outcome, -, hend⟩
    · exact hd
    · exact hend.1

/-- The answers of an unlocked agent to everything but the calls of the device. -/
def unlockedAnswer (o : Oracle) : (a : Action P) → a.Result
  | .vaultBeginOperation => some ⟨1, 1⟩
  | .vaultBinding => some (Bytes.replicate 16 0, 1)
  | .vaultAuthorized _ => true
  | a => (perform a o { Shared.start true with state := .unlocked }).1

/-- Runs a program up to its next call of the device. -/
def advance (answer : (a : Action P) → a.Result) : ℕ → Code P Outcome → Code P Outcome
  | 0, p => p
  | _ + 1, .call (.hello call) k => .call (.hello call) k
  | n + 1, .call a k => advance answer n (k (answer a))
  | n + 1, .acquire _ k => advance answer n k
  | n + 1, .release _ k => advance answer n k
  | _ + 1, p => p

theorem Reaches.advance {start d : Device} {abandoned : Set (List UInt8)}
    {operation : HelloOperation} {p : Code P Outcome} (answer : (a : Action P) → a.Result) (n : ℕ)
    (h : Reaches start ⟨d, abandoned, some (operation, p)⟩) :
    Reaches start ⟨d, abandoned, some (operation, advance answer n p)⟩ := by
  induction n generalizing p with
  | zero => exact h
  | succ n ih =>
    cases p with
    | ret outcome => exact h
    | halt => exact h
    | acquire m k => exact ih (h.step .acquire)
    | release m k => exact ih (h.step .release)
    | call a k =>
      by_cases hcalls : CallsDevice a
      · obtain ⟨call, rfl⟩ := hcalls
        exact h
      · have hstays : helloEnvironment operation.removing d a (answer a) d := by
          cases a <;> first | rfl | exact absurd ⟨_, rfl⟩ hcalls
        have hadvance : Agent.advance answer (n + 1) (.call a k) =
            Agent.advance answer n (k (answer a)) := by
          cases a <;> first | rfl | exact absurd ⟨_, rfl⟩ hcalls
        rw [hadvance]
        exact ih (h.step (.call hstays))

/-- A call of the device, after what comes before it. -/
theorem Reaches.answered {start d d' : Device} {abandoned : Set (List UInt8)}
    {operation : HelloOperation} {p : Code P Outcome} (answer : (a : Action P) → a.Result) (n : ℕ)
    (call : HelloCall) {k : call.Result → Code P Outcome} (r : call.Result)
    (h : Reaches start ⟨d, abandoned, some (operation, p)⟩)
    (hcall : Agent.advance answer n p = .call (.hello call) k)
    (hr : d.Answers operation.removing call r d') :
    Reaches start ⟨d', abandoned, some (operation, k r)⟩ :=
  Reaches.step (hcall ▸ h.advance answer n) (.call hr)

/-- A device that holds nothing. -/
def Device.empty : Device := ⟨∅, none, ∅, ∅⟩

theorem Device.empty_inOrder : Device.empty.InOrder where
  sound :=
    { active := by simp [Device.empty, Device.active]
      distinct := by simp [Device.empty, Device.active]
      platform := by simp [Device.empty]
      referred := by simp [Device.empty, Device.Refers, Device.active, Device.pendingRemoval] }
  covered := by simp [Device.Covered, Device.empty]
  removed := rfl

def sampleContext : RequestContext := ⟨⟨Bytes.replicate 16 0, 0⟩, 1, 1, 0⟩

def sampleEnrollment : WindowsHelloEnrollment := ⟨[7], Bytes.replicate 32 1, Bytes.replicate 32 2⟩

def sampleOracle : Oracle := { installation_key := some (Bytes.replicate 32 3), protector := some [4] }

/-- The record of that enrollment. -/
def sampleState : WindowsHelloLocalState :=
  .enrollment (Bytes.replicate 16 0) 1 (Bytes.replicate 32 3) [7] none (Bytes.replicate 32 1) [4]

/-- A device with one enrollment, from an empty one. -/
def Device.enrolled : Device :=
  (Device.empty.issue [7]).withStore (some sampleState)

theorem reaches_enrolled : Reaches (P := samplePrimitives) Device.empty ⟨Device.enrolled, ∅, none⟩ := by
  have h0 : Reaches (P := samplePrimitives) Device.empty
      ⟨Device.empty, ∅, some (.enroll, enrollWindowsHello sampleContext)⟩ :=
    Reaches.start.begins .enroll sampleContext
  have h1 := h0.answered (unlockedAnswer sampleOracle) 40 .load (.error .notFound) rfl
    ⟨fun _ => rfl, rfl⟩
  have h2 := h1.answered (unlockedAnswer sampleOracle) 40 .removeState (.ok ()) rfl (.inl rfl)
  have h3 := h2.answered (unlockedAnswer sampleOracle) 40 .enroll (.ok sampleEnrollment) rfl
    ⟨by simp [Device.empty, Device.withStore], rfl⟩
  have h4 := h3.answered (unlockedAnswer sampleOracle) 40 (.save sampleState) (.ok ()) rfl rfl
  have h5 : Reaches (P := samplePrimitives) Device.empty ⟨Device.enrolled, ∅,
      some (.enroll, .ret (.ok (ExecutionOutcome.success .empty).commitPoint))⟩ :=
    h4.advance (unlockedAnswer sampleOracle) 40
  have h6 := h5.ends
  rwa [Device.abandonedBy_eq_empty (by simp [Abandons, ExecutionOutcome.success,
    ExecutionOutcome.commitPoint]), Set.union_empty] at h6

/-- The removal of Windows Hello removes the credential and fails to remove the record. -/
theorem reaches_dangling : Reaches (P := samplePrimitives) Device.empty
    ⟨Device.enrolled.drop true [7], ∅, none⟩ := by
  have h0 : Reaches (P := samplePrimitives) Device.empty
      ⟨Device.enrolled, ∅, some (.remove, removeWindowsHello sampleContext)⟩ :=
    reaches_enrolled.begins .remove sampleContext
  have h1 := h0.answered (unlockedAnswer sampleOracle) 40 .load (.ok sampleState) rfl ⟨rfl, rfl⟩
  have h2 := h1.answered (unlockedAnswer sampleOracle) 40 (.removeCredential [7]) true rfl rfl
  have h3 := h2.answered (unlockedAnswer sampleOracle) 40 .removeState (.error .failed) rfl
    (.inr ⟨rfl, rfl⟩)
  have h4 : Reaches (P := samplePrimitives) Device.empty ⟨Device.enrolled.drop true [7], ∅,
      some (.remove, .ret (.ok .retryableFailure))⟩ :=
    h3.advance (unlockedAnswer sampleOracle) 40
  have h5 := h4.ends
  rwa [Device.abandonedBy_eq_empty (by simp [Abandons, ExecutionOutcome.retryableFailure,
    ExecutionOutcome.failure]), Set.union_empty] at h5

/-- An enrollment can neither remove its credential nor record it, and ends with a failure that is
not worth a retry; a removal of Windows Hello then finds nothing to do. -/
theorem reaches_orphan : ∃ abandoned, Reaches (P := samplePrimitives) Device.empty
    ⟨Device.empty.issue [7], abandoned,
      some (.remove, .ret (.ok (.success .empty)))⟩ := by
  have h0 : Reaches (P := samplePrimitives) Device.empty
      ⟨Device.empty, ∅, some (.enroll, enrollWindowsHello sampleContext)⟩ :=
    Reaches.start.begins .enroll sampleContext
  have h1 := h0.answered (unlockedAnswer {}) 40 .load (.error .notFound) rfl ⟨fun _ => rfl, rfl⟩
  have h2 := h1.answered (unlockedAnswer {}) 40 .removeState (.ok ()) rfl (.inl rfl)
  have h3 := h2.answered (unlockedAnswer {}) 40 .enroll (.ok sampleEnrollment) rfl
    ⟨by simp [Device.empty, Device.withStore], rfl⟩
  have h4 := h3.answered (unlockedAnswer {}) 40 (.removeCredential [7]) false rfl rfl
  have h5 := h4.answered (unlockedAnswer {}) 40 (.save (.pendingRemoval [7])) (.error .failed) rfl rfl
  have h6 : Reaches (P := samplePrimitives) Device.empty ⟨Device.empty.issue [7], ∅,
      some (.enroll, .ret (.ok .failed))⟩ :=
    h5.advance (unlockedAnswer {}) 40
  have h7 := h6.ends.begins .remove sampleContext
  have h8 := h7.answered (unlockedAnswer {}) 40 .load (.error .notFound) rfl ⟨fun _ => rfl, rfl⟩
  have h9 := h8.answered (unlockedAnswer {}) 40 .removeState (.ok ()) rfl (.inl rfl)
  exact ⟨_, h9.advance (unlockedAnswer {}) 40⟩

end Librarian.Agent
