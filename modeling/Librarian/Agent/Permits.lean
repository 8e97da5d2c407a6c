import Librarian.Agent.Sessions

/-!
# Permits

A permit names the session that it was issued in, by an id from a process-wide counter, and the
authorization epoch of its agent. Neither number ever wraps: an epoch at its limit stays where it is,
and a counter at its limit gives out no more sessions. That a permit dies with its session rests on
the ids alone, which no two sessions of any two agents share.

Between the agents and the statement stands `Honours`: which permit each agent would accept at the
moment. Every operation touches one agent, and leaves what that one accepts as it is, drops it, or
renews it from the counter.
-/

namespace Librarian.Agent

open Librarian.Core Librarian.Format

variable {P : Primitives}

/-! ## What the agents accept -/

/-- An agent accepts exactly the permit that it would issue. -/
theorem VaultAgent.operationIsAuthorized_iff (agent : VaultAgent) (permit : OperationPermit) :
    agent.operationIsAuthorized permit = true ↔ agent.beginOperation = some permit := by
  obtain ⟨session_id, epoch⟩ := permit
  unfold VaultAgent.operationIsAuthorized VaultAgent.beginOperation
  cases agent.session with
  | none => simp
  | some session =>
    cases agent.session_id with
    | none => simp
    | some id =>
      simp only [Option.isSome_some, Option.some.injEq, true_and, decide_eq_true_eq,
        OperationPermit.mk.injEq]
      exact and_congr_right fun _ => eq_comm

/-- The permit that each agent would accept, and the counter of sessions. -/
structure Honours where
  live : ℕ → Option OperationPermit
  counter : ℕ

/-- What one operation on the agent `target` does, when it invalidates the session of that agent and
when it does not. -/
structure Honours.Step (target : ℕ) (invalidates : Prop) (s s' : Honours) : Prop where
  counter : s.counter ≤ s'.counter
  others : ∀ b, b ≠ target → s'.live b = s.live b
  target : ¬invalidates ∧ s'.live target = s.live target ∨
    (invalidates ∨ s.live target = none) ∧ (s'.live target = none ∨
      ∃ epoch, s'.live target = some ⟨s.counter, epoch⟩ ∧ s.counter < s'.counter)

/-- Sessions have ids below the counter, and each its own. -/
structure Honours.Distinct (s : Honours) : Prop where
  below : ∀ b permit, s.live b = some permit → permit.session_id < s.counter
  unique : ∀ b c permit permit', s.live b = some permit → s.live c = some permit' →
    permit.session_id = permit'.session_id → b = c

/-- A permit of `a` is accepted by `a` alone as long as it is alive, and by no agent afterwards. -/
structure Honours.Accepts (s : Honours) (a : ℕ) (permit : OperationPermit) (lives : Prop) :
    Prop where
  below : permit.session_id < s.counter
  alive : lives → s.live a = some permit
  dead : ¬lives → ∀ b permit', s.live b = some permit' → permit'.session_id ≠ permit.session_id

namespace Honours

variable {s s' : Honours} {target a : ℕ} {invalidates lives : Prop} {permit : OperationPermit}

theorem Step.distinct (h : Step target invalidates s s') (hs : s.Distinct) : s'.Distinct := by
  -- What an agent accepts after the step is what it accepted before, or new at the target.
  have hcases : ∀ b permit, s'.live b = some permit → s.live b = some permit ∨
      b = target ∧ permit.session_id = s.counter ∧ s.counter < s'.counter := by
    intro b permit hlive
    by_cases hb : b = target
    · subst hb
      rcases h.target with ⟨-, hsame⟩ | ⟨-, hnone | ⟨epoch, hnew, hlt⟩⟩
      · exact .inl (hsame ▸ hlive)
      · rw [hnone] at hlive
        cases hlive
      · rw [hnew, Option.some.injEq] at hlive
        subst hlive
        exact .inr ⟨rfl, rfl, hlt⟩
    · exact .inl (h.others b hb ▸ hlive)
  constructor
  · intro b permit hlive
    rcases hcases b permit hlive with hold | ⟨-, hid, hlt⟩
    · exact (hs.below b permit hold).trans_le h.counter
    · omega
  · intro b c permit permit' hb hc hid
    rcases hcases b permit hb with hold | ⟨rfl, hnew, -⟩
    · rcases hcases c permit' hc with hold' | ⟨rfl, hnew', -⟩
      · exact hs.unique b c permit permit' hold hold' hid
      · have := hs.below b permit hold
        omega
    · rcases hcases c permit' hc with hold' | ⟨rfl, -, -⟩
      · have := hs.below c permit' hold'
        omega
      · rfl

/-- A step keeps a permit alive unless it invalidates the session of the permit's agent. -/
theorem Accepts.step (h : s.Accepts a permit lives) (hs : s.Distinct)
    (hstep : Step target invalidates s s') :
    s'.Accepts a permit (lives ∧ ¬(target = a ∧ invalidates)) := by
  refine ⟨h.below.trans_le hstep.counter, ?_, ?_⟩
  · rintro ⟨halive, hkept⟩
    have hlive := h.alive halive
    by_cases ha : a = target
    · subst ha
      rcases hstep.target with ⟨-, hsame⟩ | ⟨hinvalidates | hnone, -⟩
      · rw [hsame, hlive]
      · exact absurd ⟨rfl, hinvalidates⟩ hkept
      · rw [hnone] at hlive
        cases hlive
    · rw [hstep.others a ha, hlive]
  · intro hdead b permit' hlive hid
    have hbelow := h.below
    -- The permit of `b` is not new, as the counter has passed the id.
    have hold : s.live b = some permit' ∧ ¬(b = target ∧ invalidates) := by
      by_cases hb : b = target
      · subst hb
        rcases hstep.target with ⟨hkept, hsame⟩ | ⟨-, hnone | ⟨epoch, hnew, -⟩⟩
        · exact ⟨hsame ▸ hlive, fun hboth => hkept hboth.2⟩
        · rw [hnone] at hlive
          cases hlive
        · rw [hnew, Option.some.injEq] at hlive
          subst hlive
          exact absurd hbelow hid.not_gt
      · exact ⟨hstep.others b hb ▸ hlive, fun hboth => hb hboth.1⟩
    by_cases halive : lives
    · -- Then `b` is the agent of the permit, which the step has not invalidated.
      have hab : b = a := hs.unique b a permit' permit hold.1 (h.alive halive) hid
      subst hab
      exact hdead ⟨halive, fun hboth => hold.2 ⟨hboth.1.symm, hboth.2⟩⟩
    · exact h.dead halive b permit' hold.1 hid

/-- A permit that an agent has just issued. -/
theorem Distinct.accepts (hs : s.Distinct) (h : s.live a = some permit) :
    s.Accepts a permit True :=
  ⟨hs.below a permit h, fun _ => h, fun hfalse => absurd trivial hfalse⟩

theorem Accepts.iff (h : s.Accepts a permit lives) (hs : s.Distinct) (b : ℕ) :
    s.live b = some permit ↔ b = a ∧ lives := by
  constructor
  · intro hlive
    by_cases halive : lives
    · exact ⟨hs.unique b a permit permit hlive (h.alive halive) rfl, halive⟩
    · exact absurd rfl (h.dead halive b permit hlive)
  · rintro ⟨rfl, halive⟩
    exact h.alive halive

end Honours

/-! ## Agents and their runs -/

theorem VaultAgent.Absent.beginOperation {agent : VaultAgent} (h : agent.Absent) :
    agent.beginOperation = none := by
  unfold VaultAgent.beginOperation
  rw [h.session]

/-- `create_with_before_publish`, as far as sessions go: what the core had made before the counter
was asked, and whether everything after that succeeded. -/
def VaultAgent.create (created : Option CreatedVault) (published : Bool) (counter : ℕ) :
    Option VaultAgent × ℕ :=
  match created with
  | none => (none, counter)
  | some vault =>
    match nextSessionId counter with
    | (none, counter) => (none, counter)
    | (some session_id, counter) =>
      (if published then some (.created vault session_id) else none, counter)

/-- The agents of a process, and its counter of sessions. -/
structure Agents where
  agents : ℕ → Option VaultAgent
  next_session_id : ℕ

/-- What is done with an agent. -/
inductive AgentEvent
  | created
  | opened
  | unlockAttempted
  | locked
  | performed (error : Option AccountError)
  | issued (permit : OperationPermit)

/-- The events that end the session of their agent: a lock, an attempt to unlock, and a record
operation that fails. -/
def AgentEvent.Invalidates : AgentEvent → Prop
  | unlockAttempted => True
  | locked => True
  | performed error => error = some .failed
  | _ => False

/-- The error of a result. -/
def errorOf {α : Type} : Except AccountError α → Option AccountError
  | .ok _ => none
  | .error e => some e

namespace Agents

/-- The agent `a` is now `agent`, and the counter stands at `counter`. -/
def set (s : Agents) (a : ℕ) (agent : Option VaultAgent) (counter : ℕ) : Agents :=
  ⟨Function.update s.agents a agent, counter⟩

/-- One operation on the agent `a`. The record operations find any file that other processes may
have left. -/
inductive Step (P : Primitives) : Agents → ℕ → AgentEvent → Agents → Prop
  | create {s : Agents} {a : ℕ} (new : s.agents a = none) (created : Option CreatedVault)
      (published : Bool) :
      Step P s a .created (s.set a (VaultAgent.create created published s.next_session_id).1
        (VaultAgent.create created published s.next_session_id).2)
  | openLocked {s : Agents} {a : ℕ} (new : s.agents a = none) :
      Step P s a .opened (s.set a (some VaultAgent.openLocked) s.next_session_id)
  | unlock {s : Agents} {a : ℕ} (agent : VaultAgent) (here : s.agents a = some agent)
      (o : UnlockAttempt) :
      Step P s a .unlockAttempted (s.set a (some (agent.unlock P s.next_session_id o).2.1)
        (agent.unlock P s.next_session_id o).2.2)
  | lock {s : Agents} {a : ℕ} (agent : VaultAgent) (here : s.agents a = some agent) :
      Step P s a .locked (s.set a (some agent.lock) s.next_session_id)
  | perform {s : Agents} {a : ℕ} {α : Type} (agent : VaultAgent) (here : s.agents a = some agent)
      (file : Snapshot) (operation : RecordOperation P α) (o : Circumstances) :
      Step P s a (.performed (errorOf ((AgentFile.mk agent file).perform operation o).1))
        (s.set a (some ((AgentFile.mk agent file).perform operation o).2.agent) s.next_session_id)
  | issue {s : Agents} {a : ℕ} {agent : VaultAgent} {permit : OperationPermit}
      (here : s.agents a = some agent) (issued : agent.beginOperation = some permit) :
      Step P s a (.issued permit) s

/-- A process in which no agent has been made yet. -/
def start : Agents := ⟨fun _ => none, 1⟩

/-- Operations on any agents in any order. The history grows at its front. -/
inductive Run (P : Primitives) : List (ℕ × AgentEvent) → Agents → Prop
  | start : Run P [] start
  | step {history : List (ℕ × AgentEvent)} {s s' : Agents} {a : ℕ} {event : AgentEvent}
      (run : Run P history s) (step : Step P s a event s') : Run P ((a, event) :: history) s'

/-- The permits that the agents accept. -/
def honours (s : Agents) : Honours :=
  ⟨fun b => (s.agents b).bind VaultAgent.beginOperation, s.next_session_id⟩

/-- Every agent has its session as a whole or not at all. -/
def Whole (s : Agents) : Prop :=
  ∀ b agent, s.agents b = some agent → agent.Absent ∨ ∃ session header manifest session_id,
    agent.Present session header manifest session_id

section

variable {s s' : Agents} {a : ℕ} {event : AgentEvent}

theorem Whole.set (h : s.Whole) {agent : Option VaultAgent}
    (hagent : ∀ agent', agent = some agent' → agent'.Absent ∨ ∃ session header manifest session_id,
      agent'.Present session header manifest session_id) (counter : ℕ) :
    (s.set a agent counter).Whole := by
  intro b agent' hb
  by_cases hba : b = a
  · subst hba
    exact hagent agent' (by simpa [Agents.set] using hb)
  · exact h b agent' (by simpa [Agents.set, hba] using hb)

theorem honours_set_target (agent : Option VaultAgent) (counter : ℕ) :
    (s.set a agent counter).honours.live a = agent.bind VaultAgent.beginOperation := by
  simp [honours, Agents.set]

theorem honours_set_others (agent : Option VaultAgent) (counter : ℕ) (b : ℕ) (hb : b ≠ a) :
    (s.set a agent counter).honours.live b = s.honours.live b := by
  simp [honours, Agents.set, hb]

/-- A creation makes a whole session with the id of the counter, or no agent. -/
theorem create_cases (created : Option CreatedVault) (published : Bool) (counter : ℕ) :
    (∃ vault, VaultAgent.create created published counter =
      (some (.created vault counter), counter + 1)) ∨
    ∃ counter', VaultAgent.create created published counter = (none, counter') ∧
      counter ≤ counter' := by
  unfold VaultAgent.create
  cases created with
  | none => exact .inr ⟨counter, rfl, le_rfl⟩
  | some vault =>
    unfold nextSessionId checkedAddOne
    by_cases hcounter : counter < u64Max
    · rw [if_pos hcounter]
      cases published with
      | false => exact .inr ⟨counter + 1, rfl, Nat.le_succ counter⟩
      | true => exact .inl ⟨vault, rfl⟩
    · rw [if_neg hcounter]
      exact .inr ⟨counter, rfl, le_rfl⟩

theorem Step.whole (h : Step P s a event s') (hs : s.Whole) : s'.Whole := by
  cases h with
  | create new created published =>
    refine hs.set ?_ _
    intro agent hagent
    rcases create_cases created published s.next_session_id with ⟨vault, heq⟩ | ⟨_, heq, -⟩
    · rw [heq, Option.some.injEq] at hagent
      subst hagent
      exact .inr ⟨_, _, _, _, rfl, rfl, rfl, rfl⟩
    · rw [heq] at hagent
      cases hagent
  | openLocked new =>
    refine hs.set ?_ _
    rintro _ ⟨rfl⟩
    exact .inl VaultAgent.absent_openLocked
  | unlock agent here o =>
    refine hs.set ?_ _
    rintro _ ⟨rfl⟩
    rcases agent.unlock_cases P s.next_session_id o with ⟨_, _, _, _, -, heq⟩ |
      ⟨_, _, _, heq, habsent, -⟩
    · rw [heq]
      exact .inr ⟨_, _, _, _, rfl, rfl, rfl, rfl⟩
    · rw [heq]
      exact .inl habsent
  | lock agent here =>
    refine hs.set ?_ _
    rintro _ ⟨rfl⟩
    exact .inl agent.absent_lock
  | perform agent here file operation o =>
    refine hs.set ?_ _
    rintro _ ⟨rfl⟩
    rcases hs a agent here with habsent | ⟨session, header, manifest, session_id, hpresent⟩
    · rw [VaultAgent.Absent.perform (s := ⟨agent, file⟩) habsent]
      exact .inl habsent
    · have hperformed := VaultAgent.Present.perform (s := ⟨agent, file⟩) hpresent operation o
      generalize (AgentFile.mk agent file).perform operation o = done at hperformed
      obtain ⟨result, after⟩ := done
      cases hperformed with
      | refused e kind => exact .inr ⟨_, _, _, _, hpresent⟩
      | failed file' => exact .inl agent.absent_lock
      | succeeded value agent' file' session' epoch present advances =>
        exact .inr ⟨_, _, _, _, present⟩
  | issue here issued => exact hs

/-- Every operation does to what the agents accept what `Honours.Step` says. -/
theorem Step.honours (h : Step P s a event s') (hs : s.Whole) :
    Honours.Step a event.Invalidates s.honours s'.honours := by
  cases h with
  | create new created published =>
    have hnone : s.honours.live a = none := by simp [Agents.honours, new]
    rcases create_cases created published s.next_session_id with ⟨vault, heq⟩ | ⟨counter', heq, hle⟩
    · rw [heq]
      refine ⟨Nat.le_succ _, honours_set_others _ _, .inr ⟨.inr hnone, .inr ⟨1, ?_, ?_⟩⟩⟩
      · rw [honours_set_target]
        rfl
      · exact Nat.lt_succ_self _
    · rw [heq]
      refine ⟨hle, honours_set_others _ _, .inr ⟨.inr hnone, .inl ?_⟩⟩
      rw [honours_set_target]
      rfl
  | openLocked new =>
    have hnone : s.honours.live a = none := by simp [Agents.honours, new]
    refine ⟨le_rfl, honours_set_others _ _, .inr ⟨.inr hnone, .inl ?_⟩⟩
    rw [honours_set_target]
    rfl
  | unlock agent here o =>
    rcases agent.unlock_cases P s.next_session_id o with ⟨_, _, epoch, _, -, heq⟩ |
      ⟨_, _, counter', heq, habsent, hle⟩
    · rw [heq]
      refine ⟨Nat.le_succ _, honours_set_others _ _, .inr ⟨.inl trivial, .inr ⟨epoch, ?_, ?_⟩⟩⟩
      · rw [honours_set_target]
        rfl
      · exact Nat.lt_succ_self _
    · rw [heq]
      refine ⟨hle, honours_set_others _ _, .inr ⟨.inl trivial, .inl ?_⟩⟩
      rw [honours_set_target]
      exact habsent.beginOperation
  | lock agent here =>
    refine ⟨le_rfl, honours_set_others _ _, .inr ⟨.inl trivial, .inl ?_⟩⟩
    rw [honours_set_target]
    exact agent.absent_lock.beginOperation
  | perform agent here file operation o =>
    have hlive : s.honours.live a = agent.beginOperation := by simp [Agents.honours, here]
    refine ⟨le_rfl, honours_set_others _ _, ?_⟩
    rw [honours_set_target, hlive]
    rcases hs a agent here with habsent | ⟨session, header, manifest, session_id, hpresent⟩
    · rw [VaultAgent.Absent.perform (s := ⟨agent, file⟩) habsent]
      exact .inl ⟨by simp [AgentEvent.Invalidates, errorOf], rfl⟩
    · have hperformed := VaultAgent.Present.perform (s := ⟨agent, file⟩) hpresent operation o
      generalize (AgentFile.mk agent file).perform operation o = done at hperformed
      obtain ⟨result, after⟩ := done
      cases hperformed with
      | refused e kind =>
        refine .inl ⟨?_, rfl⟩
        rcases kind with rfl | rfl | rfl <;> simp [AgentEvent.Invalidates, errorOf]
      | failed file' => exact .inr ⟨.inl rfl, .inl agent.absent_lock.beginOperation⟩
      | succeeded value agent' file' session' epoch present advances =>
        refine .inl ⟨by simp [AgentEvent.Invalidates, errorOf], ?_⟩
        rw [hpresent.beginOperation, Option.bind_some, present.beginOperation, epoch]
  | issue here issued => exact ⟨le_rfl, fun _ _ => rfl, .inl ⟨id, rfl⟩⟩

/-! ## Permits -/

/-- No session of the agent has been ended in these events. -/
def Undisturbed (a : ℕ) (events : List (ℕ × AgentEvent)) : Prop :=
  ∀ event ∈ events, ¬(event.1 = a ∧ event.2.Invalidates)

theorem undisturbed_cons (b : ℕ) (events : List (ℕ × AgentEvent)) :
    Undisturbed a ((b, event) :: events) ↔
      Undisturbed a events ∧ ¬(b = a ∧ event.Invalidates) := by
  unfold Undisturbed
  rw [List.forall_mem_cons, and_comm]

/-- What holds of the agents and of every permit that has been issued. -/
structure Sound (s : Agents) (history : List (ℕ × AgentEvent)) : Prop where
  whole : s.Whole
  distinct : s.honours.Distinct
  permits : ∀ after before a permit, history = after ++ (a, .issued permit) :: before →
    s.honours.Accepts a permit (Undisturbed a after)

theorem Sound.step {history : List (ℕ × AgentEvent)} (hs : s.Sound history)
    (h : Step P s a event s') : s'.Sound ((a, event) :: history) := by
  have hhonours := h.honours hs.whole
  refine ⟨h.whole hs.whole, hhonours.distinct hs.distinct, ?_⟩
  intro after before b permit hhistory
  cases after with
  | nil =>
    -- The permit has just been issued.
    obtain ⟨hevent, -⟩ := List.cons.inj hhistory
    obtain ⟨rfl, rfl⟩ := Prod.mk.inj hevent
    cases h with
    | issue here issued =>
      have hlive : s.honours.live a = some permit := by simp [Agents.honours, here, issued]
      have haccepts := hs.distinct.accepts hlive
      have hundisturbed : Undisturbed a [] ↔ True := by simp [Undisturbed]
      rwa [← hundisturbed] at haccepts
  | cons head after =>
    obtain ⟨rfl, hrest⟩ := List.cons.inj hhistory
    rw [undisturbed_cons]
    exact (hs.permits after before b permit hrest).step hs.distinct hhonours

theorem Run.sound {history : List (ℕ × AgentEvent)} (h : Run P history s) : s.Sound history := by
  induction h with
  | start =>
    refine ⟨?_, ⟨?_, ?_⟩, ?_⟩
    · intro b agent hb
      cases hb
    · intro b permit hb
      cases hb
    · intro b c permit permit' hb
      cases hb
    · intro after before a permit hhistory
      simp at hhistory
  | step run step ih => exact ih.step step

end

end Agents

/-- Permits die with their session. At every moment of every run of any number of agents, an agent
accepts a permit that has been issued if and only if that agent issued it, and since then has not been
locked, has not tried to unlock and has not failed in a record operation. -/
theorem permits_die_with_sessions {history : List (ℕ × AgentEvent)} {s : Agents}
    (h : Agents.Run P history s) (after before : List (ℕ × AgentEvent)) (a : ℕ)
    (permit : OperationPermit) (hissued : history = after ++ (a, .issued permit) :: before) (b : ℕ)
    (agent : VaultAgent) (hb : s.agents b = some agent) :
    agent.operationIsAuthorized permit = true ↔
      b = a ∧ ∀ event ∈ after, ¬(event.1 = a ∧ event.2.Invalidates) := by
  have hsound := h.sound
  have hlive : s.honours.live b = agent.beginOperation := by simp [Agents.honours, hb]
  rw [VaultAgent.operationIsAuthorized_iff, ← hlive]
  exact (hsound.permits after before a permit hissued).iff hsound.distinct b

/-- An agent that has created a vault accepts its permit until it is locked, and another agent never
does. -/
theorem permits_die_with_sessions_sample :
    ∃ vault : CreatedVault,
      (VaultAgent.created vault 1).operationIsAuthorized ⟨1, 1⟩ = true ∧
      ¬(VaultAgent.created vault 1).lock.operationIsAuthorized ⟨1, 1⟩ = true ∧
      ¬VaultAgent.openLocked.operationIsAuthorized ⟨1, 1⟩ = true := by
  have hsome : sampleCreated.isSome = true := by decide +kernel
  obtain ⟨⟨password, vault, rest⟩, -⟩ := Option.isSome_iff_exists.mp hsome
  refine ⟨vault, ?_⟩
  have hissued := (Agents.Run.start (P := exampleComPrimitives)).step
    (.create (a := 0) rfl (some vault) true) |>.step (.issue (a := 0) rfl rfl)
  have hopened := hissued.step (.openLocked (a := 1) rfl)
  have hlocked := hopened.step (.lock (a := 0) (.created vault 1) rfl)
  refine ⟨?_, ?_, ?_⟩
  · exact (permits_die_with_sessions hissued [] _ 0 ⟨1, 1⟩ rfl 0 _ rfl).mpr ⟨rfl, by simp⟩
  · rw [permits_die_with_sessions hlocked [(0, .locked), (1, .opened)] _ 0 ⟨1, 1⟩ rfl 0 _ rfl]
    simp [AgentEvent.Invalidates]
  · rw [permits_die_with_sessions hopened [(1, .opened)] _ 0 ⟨1, 1⟩ rfl 1 _ rfl]
    simp

end Librarian.Agent
