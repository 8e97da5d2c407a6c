import Librarian.Agent.RequestGuards
import Librarian.Agent.Unlocking
import Librarian.Lib.Conc.Deadlock

/-!
# Which threads can block each other

Nearly everywhere the agent takes its mutexes in one order. The vault mutex is the exception: the
operations that write take it before the commit gate, and the removal of Windows Hello and an unlock
that fails at its publication ask for it with the commit gate in hand.
-/

namespace Librarian.Agent

open Conc Librarian.Core Librarian.Protocol

variable {P : Primitives} {hmac : List UInt8 → Bytes 32} {vault_exists : Bool}
  {history : History (machine P)} {c : Config (machine P)} {t : ℕ}

/-- A thread has the commit gate in hand and wants the vault. -/
def WantsVaultInGate (c : Config (machine P)) (t : ℕ) : Prop :=
  c.wants t = some .vault ∧ c.holder .commitGate = some t

/-- The mutexes alone, with nothing else on the books. -/
theorem mutex_invariant (s₀ : Shared) : Invariant (M := machine P)
    (guards (within programKinds) Loosely) (fun _ _ => True) s₀ (fun _ _ _ _ => True) where
  init := trivial
  action _ _ _ _ _ _ := trivial
  acquire _ _ _ _ _ := trivial
  release _ _ _ _ _ := trivial

/-- In a run of the agent every thread keeps to the mutex discipline. -/
theorem checked_of_run (hrun : AgentRun P hmac vault_exists history c) :
    ∃ phase, Checked (M := machine P) (guards (within programKinds) Loosely) (fun _ => True)
      phase c := by
  have hprogram (p : Code P Unit) (hp : Program P hmac p) : wp (M := machine P)
      (guards (within programKinds) Loosely) p (fun _ _ H => True ∧ H = ∅) () ∅ :=
    wp_mono (program_keeps hp) fun _ _ _ h => ⟨trivial, h⟩
  obtain ⟨phase, -, hchecked⟩ := Run.invariant (mutex_invariant (Shared.start vault_exists))
    (by exact trivial) hprogram hrun (always_true history)
  exact ⟨phase, hchecked⟩

/-- A thread waits in the order of the ranks, or for the vault under the commit gate. -/
theorem inOrder_or (hrun : AgentRun P hmac vault_exists history c) (t : ℕ) :
    c.InOrder Mutex.rank t ∨ WantsVaultInGate c t := by
  obtain ⟨phase, hchecked⟩ := checked_of_run hrun
  by_cases hgate : WantsVaultInGate c t
  · exact .inr hgate
  · left
    intro m held hwants hholder
    have hmem : held ∈ heldBy c.holder t := mem_heldBy.mpr hholder
    have hlocks : Loosely (heldBy c.holder t) m := hchecked.locks hwants
    obtain hbelow | ⟨rfl, hgate', -⟩ := hlocks
    · exact hbelow held hmem
    · exact absurd ⟨hwants, mem_heldBy.mp hgate'⟩ hgate

/-- Every circle of waiting threads contains one that wants the vault with the commit gate in hand.
Unless such a thread finds the vault taken, behind every thread that is still running there is one
that has a step, or one that is in the rounds of a rollback which the run leaves open. A thread that
has ended holds no mutex. -/
theorem circular_wait (hrun : AgentRun P hmac vault_exists history c) :
    (∀ t, Relation.TransGen c.WaitsFor t t →
      ∃ t', c.Behind t t' ∧ c.Behind t' t ∧ WantsVaultInGate c t') ∧
    ((∀ t, WantsVaultInGate c t → c.holder .vault = none) → ∀ t, ¬c.Idle t →
      ∃ t', c.Behind t t' ∧ (c.threads t' = .halt ∨ ∀ o, (c.next t' o).isSome)) ∧
    ∀ t, c.Idle t → ∀ m, c.holder m ≠ some t := by
  obtain ⟨phase, hchecked⟩ := checked_of_run hrun
  refine ⟨fun t hcircle => ?_, fun hfree t hlive => ?_, fun t hidle => hchecked.holds_none hidle⟩
  · obtain ⟨t', hbehind, hback, hbreaks⟩ := Config.exists_inversion Mutex.rank hcircle
    exact ⟨t', hbehind, hback, (inOrder_or hrun t').resolve_left hbreaks⟩
  · obtain ⟨t', hbehind, hend⟩ := c.exists_behind Mutex.rank t
    -- The last thread of the chain does not wait: the vault would have to be taken.
    have hwaits : ∀ t'', ¬c.WaitsFor t' t'' := by
      obtain hnone | hbreaks := hend
      · exact hnone
      · have hgate := (inOrder_or hrun t').resolve_left hbreaks
        rintro t'' ⟨m, hwants, hholder⟩
        obtain rfl : m = .vault := Option.some.inj (hwants.symm.trans hgate.1)
        rw [hfree t' hgate] at hholder
        cases hholder
    -- It is still running: it is the thread itself, or one that holds what another waits for.
    have hlive' : ¬c.Idle t' := by
      rcases hbehind.cases_tail with heq | ⟨t₁, -, m, -, hholder⟩
      · rwa [heq]
      · exact fun hidle => hchecked.holds_none hidle m hholder
    refine ⟨t', hbehind, ?_⟩
    by_cases hhalt : c.threads t' = .halt
    · exact .inl hhalt
    · exact .inr fun o => hchecked.next_isSome hlive' hhalt hwaits o

/-! ## A circle -/

/-- A connection of the desktop that has asked for Windows Hello. -/
def helloConnection : Connection :=
  { desktopConnection with
    granted_features := [featureWindowsHello]
    connection_id := Bytes.replicate 16 2 }

/-- The account that the desktop adds. -/
def sampleFields : AccountFields :=
  ⟨"service", "https://example.com", "user", "password", by decide⟩

/-- The outside while an account is added. -/
def writingOracle : Oracle :=
  { favourableOracle with
    entropy := [List.replicate 16 5, List.replicate 24 5, List.replicate 24 5] }

/-- The outside with Windows Hello enrolled for the sample vault. -/
def enrolledOracle : Oracle :=
  { favourableOracle with
    load_windows_hello_state := .ok (.enrollment (Bytes.replicate 16 0) 1 (Bytes.replicate 32 3)
      [7] none (Bytes.replicate 32 1) [4]) }

/-- The desktop removes Windows Hello and adds an account at the same time. -/
def blocking : List (Move (machine exampleComPrimitives)) :=
  unlockedOnce ++ .spawn (accept helloConnection) :: steps 2 5 favourableOracle ++
    .spawn (dispatch sampleHmac 0 helloConnection
      ⟨.request, helloConnection.version, 0, helloConnection.connection_id, 1⟩
      (desktopRequest .removeWindowsHello 2 (some (Bytes.replicate 16 1)))) ::
        steps 3 37 enrolledOracle ++
    send 2 (desktopRequest (.addAccount sampleFields) 2 (some (Bytes.replicate 16 2))) ::
      steps 4 31 writingOracle ++
    steps 3 6 enrolledOracle

theorem allowed_blocking : Allowed blocking := by
  have haccept : Allowed (.spawn (accept helloConnection) :: steps 2 5 favourableOracle) := by
    intro p hmem
    rcases List.mem_cons.mp hmem with hspawn | hmem
    · cases hspawn
      exact .accept _
    · exact allowed_steps _ _ _ p hmem
  have hremove : Allowed (.spawn (dispatch sampleHmac 0 helloConnection
      ⟨.request, helloConnection.version, 0, helloConnection.connection_id, 1⟩
      (desktopRequest .removeWindowsHello 2 (some (Bytes.replicate 16 1)))) ::
        steps 3 37 enrolledOracle) := by
    intro p hmem
    rcases List.mem_cons.mp hmem with hspawn | hmem
    · cases hspawn
      exact .dispatch _ _ _ _
    · exact allowed_steps _ _ _ p hmem
  exact (((allowed_unlockedOnce.append haccept).append hremove).append
    ((allowed_steps _ _ _).send _ _)).append (allowed_steps _ _ _)

/-- Two threads wait for each other, for the vault and for the commit gate. -/
def blocked (c : Config (machine exampleComPrimitives)) (t t' : ℕ) : Bool :=
  c.wants t = some .vault ∧ c.holder .vault = some t' ∧ c.wants t' = some .commitGate ∧
    c.holder .commitGate = some t

/-- The removal of Windows Hello and the addition of an account wait for each other. -/
theorem circular_wait_sample : ∃ history c t,
    AgentRun exampleComPrimitives sampleHmac true history c ∧
    Relation.TransGen c.WaitsFor t t ∧
      ∃ t', c.Behind t t' ∧ c.Behind t' t ∧ WantsVaultInGate c t' := by
  have hblocked : ((exec [] (Config.init (Shared.start true)) blocking).map
      fun result => blocked result.2 3 4) = some true := by decide +kernel
  obtain ⟨⟨history, c⟩, hexec, hc⟩ := Option.map_eq_some_iff.mp hblocked
  obtain ⟨hwants, hholder, hwants', hholder'⟩ := of_decide_eq_true hc
  have hrun : AgentRun exampleComPrimitives sampleHmac true history c :=
    Run.of_exec .init allowed_blocking hexec
  have hcircle : Relation.TransGen c.WaitsFor 3 3 :=
    .tail (.single ⟨.vault, hwants, hholder⟩) ⟨.commitGate, hwants', hholder'⟩
  exact ⟨history, c, 3, hrun, hcircle, (circular_wait hrun).1 3 hcircle⟩

end Librarian.Agent
