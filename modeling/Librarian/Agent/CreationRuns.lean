import Librarian.Agent.CreationParts
import Librarian.Core.Snapshot

/-!
# Creating a vault is atomic when the name is left alone

The request around the call, and what holds in every run of the two.
-/

namespace Librarian.Agent.Creation

open Conc Librarian.Core Librarian.Protocol

section

variable {P : Primitives} {β : Type} {sequence file : ℕ} {s : Scene}
variable {Q : β → Scene → Prop}

/-! ## The request -/

/-- The request has changed nothing. -/
structure Refused (s : Scene) : Prop extends Silent s where
  unpublished : s.Unpublished
  clean : s.Clean

/-- The request has installed its vault. -/
structure Installed (s : Scene) : Prop where
  session : s.agent.session.isSome = true
  response : s.response = none
  clean : s.Clean

/-- The request has published the new state. -/
structure Opened (s : Scene) : Prop extends Installed s where
  state : s.state = .unlocked

theorem stable_clean : Stable Scene.Clean :=
  fun _ _ _ h hundisturbed => h (undisturbed_of_after hundisturbed)

theorem stable_unpublished : Stable Scene.Unpublished := by
  intro s d hd h hundisturbed hremoved file hstaged name hname
  refine h (undisturbed_of_after hundisturbed) hremoved file hstaged name ?_
  by_cases hvault : name = .vault
  · subst hvault
    exact hd.foreign file hstaged hname
  · exact (hd.names name hvault).symm.trans hname

theorem stable_refused : Stable Refused := fun s d hd h =>
  ⟨stable_silent s d hd h.toSilent, stable_unpublished s d hd h.unpublished,
    stable_clean s d hd h.clean⟩

theorem lenient_refused : Lenient Refused := by
  intro s b hb h
  refine ⟨⟨h.state, h.session, h.response⟩, fun hundisturbed hremoved => ?_, h.clean⟩
  apply h.unpublished hundisturbed
  cases hfailed : s.removal_failed with
  | false => rfl
  | true =>
    rw [← hb hfailed]
    exact hremoved

theorem stable_opened : Stable Opened := fun s d hd h =>
  ⟨⟨h.session, h.response, stable_clean s d hd h.clean⟩, h.state⟩

theorem Before.refused (h : Before s) : Refused s := by
  refine ⟨h.toSilent, fun _ _ file hstaged => ?_, h.clean⟩
  rw [h.staged] at hstaged
  cases hstaged

theorem Ends.refused {e : CreateError} (h : Ends (.error e) s) : Refused s := by
  have hunpublished := h.unpublished
  obtain ⟨_, -, hbefore | ⟨sequence, file, hwithdrawn, -⟩⟩ | ⟨_, _, _, hok, -⟩ := h
  · exact hbefore.refused
  · exact ⟨hwithdrawn.toSilent, hunpublished, hwithdrawn.toStaged.clean⟩
  · cases hok

theorem Refused.passes_look {a : Call} {f : a.Result → Steps P β} (ha : a.looks = true)
    (h : Refused s) (hf : ∀ r s, Refused s → Passes (f r) Q s) : Passes (step a >>= f) Q s :=
  Creation.passes_look ha (fun _ hs => hs.clean) stable_refused lenient_refused h hf

theorem Opened.passes_look {a : Call} {f : a.Result → Steps P β} (ha : a.looks = true)
    (h : Opened s) (hf : ∀ r s, Opened s → Passes (f r) Q s) : Passes (step a >>= f) Q s :=
  Creation.passes_look ha (fun _ hs => hs.clean) stable_opened
    (fun _ _ _ h => ⟨⟨h.session, h.response, h.clean⟩, h.state⟩) h hf

/-- Without a session an interruption leaves no trace. -/
theorem Refused.passes_interruptedBy {i : Interruption} {f : Bool → Steps P β} (h : Refused s)
    (hf : ∀ r s, Refused s → Passes (f r) Q s) :
    Passes (step (.interruptedBy i) >>= f) Q s := by
  refine passes_step h.clean (fun _ => stable_refused) (fun o => ?_) hf
  exact ⟨⟨h.state, h.session, h.response⟩, h.unpublished, h.clean⟩

/-- The same before anything has been staged. -/
theorem Before.passes_interruptedBy {i : Interruption} {f : Bool → Steps P β} (h : Before s)
    (hf : ∀ r s, Before s → Passes (f r) Q s) :
    Passes (step (.interruptedBy i) >>= f) Q s := by
  refine passes_step h.clean (fun _ => stable_before) (fun o => ?_) hf
  exact ⟨⟨h.state, h.session, h.response⟩, h.staged, h.linked, h.touched, h.sidecars⟩

/-- With a session an interruption is noted. -/
theorem Opened.passes_interruptedBy {i : Interruption} {f : Bool → Steps P β} (h : Opened s)
    (hf : ∀ r s, Opened s → (r = true → s.interrupted = true) → Passes (f r) Q s) :
    Passes (step (.interruptedBy i) >>= f) Q s := by
  refine passes_step (Ψ := fun r s => Opened s ∧ (r = true → s.interrupted = true)) h.clean
    (fun _ s d hd hs => ⟨stable_opened s d hd hs.1, hs.2⟩) (fun o => ?_)
    fun r s hs => hf r s hs.1 hs.2
  refine ⟨⟨⟨h.session, h.response, h.clean⟩, h.state⟩, fun hr => ?_⟩
  have hsucceeds : o.succeeds = true := hr
  simp [Call.perform, hsucceeds, h.session]

/-- What the execution of a request ends in. -/
def Executes : Outcome → Scene → Prop
  | .error _, s => s.response = none ∧ s.Clean
  | .ok outcome, s => Refused s ∨ outcome.error = none ∧ Opened s

theorem creationFailed_passes (h : Refused s) (error : CreateError) :
    Passes (P := P) (creationFailed error) Executes s := by
  unfold creationFailed
  cases error with
  | alreadyExists => exact .inl h
  | failed =>
  refine h.passes_interruptedBy fun cancelled s hs => ?_
  cases cancelled with
  | true => exact .inl hs
  | false =>
  refine hs.passes_interruptedBy fun late s hs => ?_
  cases late with
  | true => exact .inl hs
  | false => exact .inl hs

theorem installCreated_passes {created : CreatedVault × ℕ}
    (h : PublishedWith sequence file (newImage created) s) :
    Passes (P := P) (installCreated created) Executes s := by
  have hfails {s : Scene} (hs : PublishedWith sequence file (newImage created) s) :
      Executes (.error .internal) s :=
    ⟨hs.1.response, hs.1.toStaged.clean⟩
  unfold installCreated
  refine h.passes_look rfl fun bound s hs => ?_
  cases bound with
  | false => exact hfails hs
  | true =>
  refine hs.passes_look rfl fun initialized s hs => ?_
  cases initialized with
  | false => exact hfails hs
  | true =>
  refine passes_step (Ψ := fun _ s => Installed s) hs.1.toStaged.clean
    (fun _ s d hd hs => ⟨hs.session, hs.response, stable_clean s d hd hs.clean⟩) (fun o => ?_)
    fun _ s hs => ?_
  · exact ⟨rfl, hs.1.response, hs.1.toStaged.clean⟩
  refine passes_look rfl (fun s hs => hs.clean)
    (fun s d hd hs => ⟨hs.session, hs.response, stable_clean s d hd hs.clean⟩)
    (fun _ _ _ hs => ⟨hs.session, hs.response, hs.clean⟩) hs fun epoch s hs => ?_
  cases epoch with
  | none => exact ⟨hs.response, hs.clean⟩
  | some epoch =>
  refine passes_step (Ψ := fun _ s => Opened s) hs.clean (fun _ => stable_opened) (fun o => ?_)
    fun _ s hs => .inr ⟨rfl, hs⟩
  exact ⟨⟨hs.session, hs.response, hs.clean⟩, rfl⟩

theorem createVault_passes (h : Before s) (password : String) :
    Passes (P := P) (createVault password) Executes s := by
  unfold createVault
  refine h.passes_look rfl fun state s hs => ?_
  by_cases hstate : state ≠ .noVault
  · rw [if_pos hstate]
    exact .inl hs.refused
  rw [if_neg hstate]
  refine hs.passes_look rfl fun acquired s hs => ?_
  cases acquired with
  | false => exact .inl hs.refused
  | true =>
  refine hs.passes_interruptedBy fun cancelled s hs => ?_
  cases cancelled with
  | true => exact .inl hs.refused
  | false =>
  refine hs.passes_interruptedBy fun late s hs => ?_
  cases late with
  | true => exact .inl hs.refused
  | false =>
  refine hs.passes_interruptedBy fun locking s hs => ?_
  cases locking with
  | true => exact .inl hs.refused
  | false =>
  cases hpassword : MasterPassword.new password with
  | none => exact .inl hs.refused
  | some password =>
  refine (createWithBeforePublish_passes hs password).seq fun result s hs => ?_
  cases result with
  | error e => exact creationFailed_passes hs.refused e
  | ok created =>
    obtain ⟨_, hnot, -⟩ | ⟨created', sequence, file, hok, hs⟩ := hs
    · cases hnot
    · cases hok
      exact installCreated_passes hs

theorem executeCreate_passes (h : Before s) (password : String) :
    Passes (P := P) (executeCreate password) Executes s := by
  unfold executeCreate
  refine h.passes_look rfl fun reserved s hs => ?_
  cases reserved with
  | some outcome => exact .inl hs.refused
  | none =>
  refine (createVault_passes hs password).seq fun outcome s hs => ?_
  cases outcome with
  | error e => exact hs
  | ok outcome =>
  obtain hs | ⟨hnone, hs⟩ := hs
  · refine hs.passes_look rfl fun completed s hs => ?_
    cases completed with
    | false => exact ⟨hs.response, hs.clean⟩
    | true => exact .inl hs
  · refine hs.passes_look rfl fun completed s hs => ?_
    cases completed with
    | false => exact ⟨hs.response, hs.clean⟩
    | true => exact .inr ⟨hnone, hs⟩

/-- What the checks on an outcome end in. -/
def Rechecks (outcome : ExecutionOutcome) (s : Scene) : Prop :=
  Refused s ∨ s.response = none ∧ s.Clean ∧ (outcome.error = none ∨ s.interrupted = true)

theorem recheckOutcome_passes {outcome : ExecutionOutcome} (h : Executes (.ok outcome) s) :
    Passes (P := P) (recheckOutcome outcome) Rechecks s := by
  have hinterrupted {s : Scene} (hs : Opened s) (hs' : s.interrupted = true)
      (outcome : ExecutionOutcome) : Rechecks outcome s :=
    .inr ⟨hs.response, hs.clean, .inr hs'⟩
  unfold recheckOutcome
  obtain h | ⟨hnone, h⟩ := h
  · refine h.passes_interruptedBy fun cancelled s hs => ?_
    cases cancelled with
    | true => exact .inl hs
    | false =>
    by_cases hnone : outcome.error = none
    · change Passes (if outcome.error = none then _ else _) _ s
      rw [if_pos hnone]
      refine hs.passes_interruptedBy fun cancelled s hs => ?_
      cases cancelled with
      | true => exact .inl hs
      | false =>
      refine hs.passes_interruptedBy fun late s hs => ?_
      cases late with
      | true => exact .inl hs
      | false =>
      change Passes (if outcome.replayed = true then _ else _) _ s
      split_ifs
      · exact .inl hs
      refine hs.passes_interruptedBy fun locking s hs => ?_
      cases locking with
      | true => exact .inl hs
      | false =>
      refine hs.passes_look rfl fun state s hs => ?_
      split_ifs
      · exact .inl hs
      · exact .inl hs
    · change Passes (if outcome.error = none then _ else _) _ s
      rw [if_neg hnone]
      exact .inl hs
  · change Passes (step (.interruptedBy .cancelled) >>= fun _ => _) _ s
    refine h.passes_interruptedBy fun cancelled s hs hs' => ?_
    cases cancelled with
    | true => exact hinterrupted hs (hs' rfl) _
    | false =>
    change Passes (if outcome.error = none then _ else _) _ s
    rw [if_pos hnone]
    refine hs.passes_interruptedBy fun cancelled s hs hs' => ?_
    cases cancelled with
    | true => exact hinterrupted hs (hs' rfl) _
    | false =>
    refine hs.passes_interruptedBy fun late s hs hs' => ?_
    cases late with
    | true => exact hinterrupted hs (hs' rfl) _
    | false =>
    change Passes (if outcome.replayed = true then _ else _) _ s
    split_ifs
    · exact .inr ⟨hs.response, hs.clean, .inl hnone⟩
    refine hs.passes_interruptedBy fun locking s hs hs' => ?_
    cases locking with
    | true => exact hinterrupted hs (hs' rfl) _
    | false =>
    refine passes_step (Ψ := fun r s => Opened s ∧ r = .unlocked) hs.clean
      (fun _ => stable_opened.and stable_const) (fun o => ⟨hs, hs.state⟩) fun state s hs => ?_
    rw [hs.2, if_neg (not_not.mpr rfl)]
    exact .inr ⟨hs.1.response, hs.1.clean, .inl hnone⟩

/-- A failure response finds the agent as it was. -/
def Scene.Answered (s : Scene) : Prop :=
  ∀ outcome, s.response = some outcome → outcome.error ≠ none → s.interrupted = false →
    s.state = .noVault ∧ s.agent.session = none ∧ s.Unpublished

theorem createVaultRequest_passes (h : Before s) (password : String) :
    Passes (P := P) (createVaultRequest password) (fun _ s => s.Clean ∧ s.Answered) s := by
  have hunanswered {s : Scene} (hs : s.response = none) : s.Answered := by
    intro outcome hresponse
    rw [hs] at hresponse
    cases hresponse
  unfold createVaultRequest
  refine (executeCreate_passes h password).seq fun outcome s hs => ?_
  cases outcome with
  | error e => exact ⟨hs.2, hunanswered hs.1⟩
  | ok outcome =>
  have hresponse : s.response = none := hs.elim (fun hs => hs.response) fun hs => hs.2.response
  have hclean : s.Clean := hs.elim (fun hs => hs.clean) fun hs => hs.2.clean
  refine passes_step (Ψ := fun _ s => Executes (.ok outcome) s) hclean
    (fun _ s d hd hs => hs.imp (stable_refused s d hd) fun hs => ⟨hs.1, stable_opened s d hd hs.2⟩)
    (fun o => hs) fun finished s hs => ?_
  cases finished with
  | false =>
    obtain hs | ⟨-, hs⟩ := hs
    · exact ⟨hs.clean, hunanswered hs.response⟩
    · exact ⟨hs.clean, hunanswered hs.response⟩
  | true =>
  refine (recheckOutcome_passes hs).seq fun rechecked s hs => ?_
  have hclean : s.Clean := hs.elim (fun hs => hs.clean) fun hs => hs.2.1
  refine passes_step (Ψ := fun _ s => s.Clean ∧ s.Answered) hclean
    (fun _ s d hd hs => ⟨stable_clean s d hd hs.1, ?_⟩) (fun o => ⟨hclean, ?_⟩) fun _ s hs => hs
  · intro outcome hanswer herror hinterrupted
    obtain ⟨hstate, hsession, hunpublished⟩ := hs.2 outcome hanswer herror hinterrupted
    exact ⟨hstate, hsession, stable_unpublished s d hd hunpublished⟩
  · intro outcome hanswer herror hinterrupted
    obtain hs | ⟨-, -, hnone | hnoted⟩ := hs
    · exact ⟨hs.state, hs.session, hs.unpublished⟩
    · have hsame : rechecked = outcome := Option.some.inj hanswer
      rw [← hsame] at herror
      exact absurd hnone herror
    · have hnot : s.interrupted = false := hinterrupted
      rw [hnoted] at hnot
      cases hnot

/-! ## Runs -/

/-- A call, or a request, begins in a directory without sidecars of staging files, at an agent that
has no vault. -/
theorem before_start {directory : Directory} {agent : VaultAgent}
    (hsidecars : ∀ n suffix, directory.names (.sidecar (.staging n) suffix) = none)
    (hagent : agent.session = none) : Before (.start directory .noVault agent) :=
  ⟨⟨rfl, hagent, rfl⟩, rfl, rfl, rfl, hsidecars⟩

end

/-! ### Sample runs -/

section

variable {P : Primitives} {α : Type}

/-- Plays the answers of the outside. After a step that says so, another process puts a file of its
own under the name of the vault. -/
def play (P : Primitives) : List (Answers × Bool) → Steps P α → Scene → Steps P α × Scene
  | (o, replaced) :: rest, .call a k, s =>
    let result := Call.perform P a o s
    play P rest (k result.1) (result.2.after
      (if replaced then result.2.directory.create .vault else result.2.directory))
  | _, p, s => (p, s)

/-- The identity of the staged file has been used. -/
theorem staged_lt_next {s : Scene} (h : ∀ file, s.staged = some file → file < s.directory.next)
    (a : Call) (o : Answers) :
    ∀ file, (a.perform P o s).2.staged = some file → file < (a.perform P o s).2.directory.next := by
  intro file
  by_cases hlooks : a.looks = true
  · obtain ⟨b, heq, -⟩ := Call.perform_of_looks (P := P) hlooks o s
    rw [heq]
    exact h file
  cases a with
  | createStagingReservation sequence =>
    simp only [Call.perform]
    split_ifs
    · exact h file
    · intro hstaged
      cases hstaged
      exact Nat.lt_succ_self _
    · exact h file
  | hardLink source target =>
    simp only [Call.perform]
    split_ifs <;> exact h file
  | removeFile path =>
    simp only [Call.perform]
    cases s.directory.names path with
    | none => exact h file
    | some other =>
      dsimp only
      split_ifs <;> exact h file
  | initializeDatabase | storeState | vaultInstall | interruptedBy | writeResponse => exact h file
  | _ => exact absurd rfl hlooks

theorem runs_play {p₀ : Steps P α} {s₀ : Scene} (answers : List (Answers × Bool)) {p : Steps P α}
    {s : Scene} (hstaged : ∀ file, s.staged = some file → file < s.directory.next)
    (h : Runs (environment P) p₀ s₀ p s) :
    Runs (environment P) p₀ s₀ (play P answers p s).1 (play P answers p s).2 := by
  induction answers generalizing p s with
  | nil => exact h
  | cons answer answers ih =>
    cases p with
    | call a k =>
      have hnext := staged_lt_next (P := P) hstaged a answer.1
      have hmoves : Outside (a.perform P answer.1 s).2
          (if answer.2 then (a.perform P answer.1 s).2.directory.create .vault
            else (a.perform P answer.1 s).2.directory) := by
        split_ifs
        · refine ⟨fun name hne => ?_, fun file hfile hvault => ?_, fun file hfile => ?_⟩
          · rw [Directory.create_names, if_neg hne]
          · rw [Directory.create_names, if_pos rfl, Option.some.injEq] at hvault
            have hlt := hnext file hfile
            omega
          · exact Function.update_of_ne (hnext file hfile).ne _ _
        · exact ⟨fun _ _ => rfl, fun _ _ h => h, fun _ _ => rfl⟩
      refine ih ?_ (h.step (.call ⟨answer.1, _, hmoves, rfl, rfl⟩))
      intro file hfile
      have hlt := hnext file hfile
      change file < (if answer.2 then _ else _ : Directory).next
      split_ifs
      · exact hlt.trans (Nat.lt_succ_self _)
      · exact hlt
    | ret a => exact h
    | acquire m k => exact m.elim
    | release m k => exact m.elim
    | halt => exact h

/-- An empty directory. -/
def emptyDirectory : Directory := ⟨fun _ => none, fun _ => none, 0, nofun⟩

/-- The answers of an outside where everything works. -/
def working : Answers where
  sequence := some 1
  unix_time_ms := some 0
  entropy := [List.replicate 16 0, List.replicate 32 0, List.replicate 32 0, List.replicate 16 0,
    List.replicate 24 0, List.replicate 24 0, List.replicate 24 0]
  session_id := some 1
  epoch := some 1

/-- The outside does not let a step succeed. -/
def failing : Answers := { working with succeeds := false }

def samplePassword : MasterPassword := ⟨"master", by decide⟩

/-- Before the sample calls. -/
def sampleStart : Scene := .start emptyDirectory .noVault VaultAgent.openLocked

theorem sampleStart_staged :
    ∀ file, sampleStart.staged = some file → file < sampleStart.directory.next := by
  intro file h
  change none = some file at h
  cases h

/-- The vault has been linked; another process replaces it; the directory cannot be synchronized. -/
def replacedAnswers : List (Answers × Bool) :=
  List.replicate 20 (working, false) ++ [(working, true), (failing, false)] ++
    List.replicate 10 (working, false)

/-- The request is cancelled after its vault has been installed. -/
def cancelledAnswers : List (Answers × Bool) :=
  List.replicate 3 (working, false) ++ List.replicate 3 (failing, false) ++
    List.replicate 40 (working, false)

/-- Whether a program has ended with a success. -/
def succeeded {γ : Type} : Steps P (Except CreateError γ) → Bool
  | .ret (.ok _) => true
  | _ => false

theorem exists_of_succeeded {γ : Type} {p : Steps P (Except CreateError γ)}
    (h : succeeded p = true) : ∃ value, p = .ret (.ok value) := by
  cases p with
  | ret result =>
    cases result with
    | error e => cases h
    | ok value => exact ⟨value, rfl⟩
  | _ => cases h

end

end Librarian.Agent.Creation
