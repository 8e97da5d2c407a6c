import Librarian.Agent.Creation

/-!
# The phases of a creation

Each phase is a predicate that no move of another process breaks. Once the staged file has the name
of the vault, what is known of that name is conditional on the others leaving it alone. Every step
leads from phase to phase.
-/

namespace Librarian.Agent.Creation

open Conc Librarian.Core Librarian.Protocol

/-- Other processes do not break a predicate. -/
def Stable (Φ : Scene → Prop) : Prop := ∀ s d, Outside s d → Φ s → Φ (s.after d)

/-- The call has removed and written nothing but the file that it staged. -/
def Scene.Clean (s : Scene) : Prop :=
  s.disturbed = false → ∀ file ∈ s.touched, s.staged = some file

/-! ## Phases -/

/-- The runtime has nothing to show of the creation yet. -/
structure Silent (s : Scene) : Prop where
  state : s.state = .noVault
  session : s.agent.session = none
  response : s.response = none

/-- Nothing has been staged. -/
structure Before (s : Scene) : Prop extends Silent s where
  staged : s.staged = none
  linked : s.linked = false
  touched : s.touched = []
  sidecars : ∀ n suffix, s.directory.names (.sidecar (.staging n) suffix) = none

/-- The call has a staged file. -/
structure Staged (sequence file : ℕ) (s : Scene) : Prop extends Silent s where
  staged : s.staged = some file
  sidecars : ∀ n suffix, s.directory.names (.sidecar (.staging n) suffix) = none
  names : ∀ name, s.directory.names name = some file → name = .staging sequence ∨ name = .vault
  name : ∀ other, s.directory.names (.staging sequence) = some other → other = file
  touched : s.disturbed = false → ∀ other ∈ s.touched, other = file

/-- The staged file has its staging name only. -/
structure Reserved (sequence file : ℕ) (s : Scene) : Prop extends Staged sequence file s where
  linked : s.linked = false
  reserved : s.directory.names (.staging sequence) = some file
  absent : s.directory.names .vault ≠ some file

/-- The staged file has the name of the vault. -/
structure Published (sequence file : ℕ) (s : Scene) : Prop extends Staged sequence file s where
  linked : s.linked = true
  published : s.disturbed = false → s.directory.names .vault = some file

/-- The staged file does not have the name of the vault, or could not be removed from it. -/
structure Withdrawn (sequence file : ℕ) (s : Scene) : Prop extends Staged sequence file s where
  withdrawn : s.disturbed = false → s.removal_failed = false →
    s.directory.names .vault ≠ some file

/-- The file holds an image. -/
def Contains (file : ℕ) (image : Snapshot) (s : Scene) : Prop :=
  s.staged = some file ∧ s.directory.contents file = some image

section

variable {sequence file : ℕ} {image : Snapshot} {s : Scene}

theorem Before.clean (h : Before s) : s.Clean := by
  intro _ other hmem
  rw [h.touched] at hmem
  cases hmem

theorem Staged.clean (h : Staged sequence file s) : s.Clean := by
  intro hundisturbed other hmem
  rw [h.touched hundisturbed other hmem]
  exact h.staged

theorem Reserved.withdrawn (h : Reserved sequence file s) : Withdrawn sequence file s :=
  ⟨h.toStaged, fun _ _ => h.absent⟩

/-- What was undisturbed after a move was undisturbed before it. -/
theorem undisturbed_of_after {d : Directory} (h : (s.after d).disturbed = false) :
    s.disturbed = false :=
  (Bool.or_eq_false_iff.mp h).1

/-- Other processes have not touched the name of the vault when the call is undisturbed. -/
theorem vault_of_after {d : Directory} (hlinked : s.linked = true)
    (h : (s.after d).disturbed = false) : d.names .vault = s.directory.names .vault := by
  have hsame := (Bool.or_eq_false_iff.mp h).2
  rw [hlinked, Bool.true_and, decide_eq_false_iff_not, not_not] at hsame
  exact hsame

theorem stable_silent : Stable Silent := fun _ _ _ h => ⟨h.state, h.session, h.response⟩

theorem stable_before : Stable Before := by
  intro s d hd h
  refine ⟨stable_silent s d hd h.toSilent, h.staged, h.linked, h.touched, fun n suffix => ?_⟩
  rw [← h.sidecars n suffix]
  exact hd.names _ (by simp)

theorem stable_staged : Stable (Staged sequence file) := by
  intro s d hd h
  have hstaging : d.names (.staging sequence) = s.directory.names (.staging sequence) :=
    hd.names _ (by simp)
  refine ⟨stable_silent s d hd h.toSilent, h.staged, fun n suffix => ?_, fun name hname => ?_,
    fun other hother => ?_, fun hundisturbed => h.touched (undisturbed_of_after hundisturbed)⟩
  · rw [← h.sidecars n suffix]
    exact hd.names _ (by simp)
  · by_cases hvault : name = .vault
    · exact .inr hvault
    · have hsame := hd.names name hvault
      exact h.names name (hsame ▸ hname)
  · exact h.name other (hstaging ▸ hother)

theorem stable_reserved : Stable (Reserved sequence file) := by
  intro s d hd h
  have hstaging : d.names (.staging sequence) = s.directory.names (.staging sequence) :=
    hd.names _ (by simp)
  refine ⟨stable_staged s d hd h.toStaged, h.linked, hstaging.trans h.reserved, fun hvault => ?_⟩
  exact h.absent (hd.foreign file h.staged hvault)

theorem stable_published : Stable (Published sequence file) := by
  intro s d hd h
  refine ⟨stable_staged s d hd h.toStaged, h.linked, fun hundisturbed => ?_⟩
  have hsame := vault_of_after h.linked hundisturbed
  exact hsame.trans (h.published (undisturbed_of_after hundisturbed))

theorem stable_withdrawn : Stable (Withdrawn sequence file) := by
  intro s d hd h
  refine ⟨stable_staged s d hd h.toStaged, fun hundisturbed hremoved hvault => ?_⟩
  have hwas := hd.foreign file h.staged hvault
  exact h.withdrawn (undisturbed_of_after hundisturbed) hremoved hwas

theorem stable_contains : Stable (Contains file image) := by
  intro s d hd h
  exact ⟨h.1, (hd.contents file h.1).trans h.2⟩

theorem Stable.and {Φ Ψ : Scene → Prop} (hΦ : Stable Φ) (hΨ : Stable Ψ) :
    Stable fun s => Φ s ∧ Ψ s :=
  fun s d hd h => ⟨hΦ s d hd h.1, hΨ s d hd h.2⟩

theorem Stable.imp {Φ : Scene → Prop} {p : Prop} (hΦ : Stable Φ) : Stable fun s => p → Φ s :=
  fun s d hd h hp => hΦ s d hd (h hp)

theorem stable_const {p : Prop} : Stable fun _ => p := fun _ _ _ h => h

/-- What holds of an undisturbed call. -/
theorem stable_undisturbed {p : Prop} : Stable fun s => s.disturbed = false → p :=
  fun _ _ _ h hundisturbed => h (undisturbed_of_after hundisturbed)

theorem stable_removalFailed : Stable fun s => s.removal_failed = true := fun _ _ _ h => h

end

/-! ## Steps -/

section

variable {P : Primitives} {α β : Type} {sequence file : ℕ} {image : Snapshot} {s : Scene}
variable {Q : β → Scene → Prop}

/-- A program passes clean scenes and ends in `Q`. -/
abbrev Passes (p : Steps P α) (Q : α → Scene → Prop) (s : Scene) : Prop :=
  upholds (environment P) Scene.Clean p Q s

/-- One step, by what it makes of the scene, and then the rest. -/
theorem passes_step {a : Call} {f : a.Result → Steps P β} {Ψ : a.Result → Scene → Prop}
    (hclean : s.Clean) (hstable : ∀ r, Stable (Ψ r))
    (hperform : ∀ o, Ψ (a.perform P o s).1 (a.perform P o s).2)
    (hf : ∀ r s, Ψ r s → Passes (f r) Q s) : Passes (step a >>= f) Q s := by
  refine ⟨hclean, fun r s' henv => ?_⟩
  obtain ⟨o, d, hd, rfl, rfl⟩ := henv
  exact hf _ _ (hstable _ _ d hd (hperform o))

/-- The steps that only look at the scene. One that is about to remove a file notes when it
fails. -/
def Call.looks : Call → Bool
  | .createStagingReservation _ | .initializeDatabase _ _ _ | .hardLink _ _ | .removeFile _
  | .storeState _ | .vaultInstall _ | .interruptedBy _ | .writeResponse _ => false
  | _ => true

theorem Call.perform_of_looks {a : Call} (h : a.looks = true) (o : Answers) (s : Scene) :
    ∃ b, (a.perform P o s).2 = { s with removal_failed := b } ∧
      (s.removal_failed = true → b = true) := by
  cases a with
  | createStagingReservation | initializeDatabase | hardLink | removeFile | storeState
  | vaultInstall | interruptedBy | writeResponse => cases h
  | openGuard removing path =>
    simp only [Call.perform]
    split_ifs
    · exact ⟨_, rfl, id⟩
    · exact ⟨_, rfl, fun hs => by rw [hs, Bool.true_or]⟩
  | guardedFilesMatch removing left right =>
    simp only [Call.perform]
    split_ifs
    · exact ⟨_, rfl, id⟩
    · exact ⟨_, rfl, fun hs => by rw [hs, Bool.true_or]⟩
  | validateNewTarget =>
    simp only [Call.perform]
    split_ifs <;> exact ⟨_, rfl, id⟩
  | beforePublish =>
    simp only [Call.perform]
    split_ifs <;> exact ⟨_, rfl, id⟩
  | _ => exact ⟨_, rfl, id⟩

/-- A note of a failed removal does not break a predicate. -/
def Lenient (Φ : Scene → Prop) : Prop :=
  ∀ s b, (s.removal_failed = true → b = true) → Φ s → Φ { s with removal_failed := b }

theorem lenient_before : Lenient Before := fun _ _ _ h =>
  ⟨⟨h.state, h.session, h.response⟩, h.staged, h.linked, h.touched, h.sidecars⟩

theorem lenient_staged : Lenient (Staged sequence file) := fun _ _ _ h =>
  ⟨⟨h.state, h.session, h.response⟩, h.staged, h.sidecars, h.names, h.name, h.touched⟩

theorem lenient_reserved : Lenient (Reserved sequence file) := fun s b hb h =>
  ⟨lenient_staged s b hb h.toStaged, h.linked, h.reserved, h.absent⟩

theorem lenient_published : Lenient (Published sequence file) := fun s b hb h =>
  ⟨lenient_staged s b hb h.toStaged, h.linked, h.published⟩

theorem lenient_withdrawn : Lenient (Withdrawn sequence file) := by
  intro s b hb h
  refine ⟨lenient_staged s b hb h.toStaged, fun hundisturbed hnot => ?_⟩
  apply h.withdrawn hundisturbed
  cases hfailed : s.removal_failed with
  | false => rfl
  | true =>
    rw [← hb hfailed]
    exact hnot

theorem lenient_contains : Lenient (Contains file image) := fun _ _ _ h => h

theorem Lenient.and {Φ Ψ : Scene → Prop} (hΦ : Lenient Φ) (hΨ : Lenient Ψ) :
    Lenient fun s => Φ s ∧ Ψ s :=
  fun s b hb h => ⟨hΦ s b hb h.1, hΨ s b hb h.2⟩

/-- A step that looks, and then the rest. -/
theorem passes_look {a : Call} {f : a.Result → Steps P β} {Φ : Scene → Prop}
    (ha : a.looks = true) (hclean : ∀ s, Φ s → s.Clean) (hstable : Stable Φ) (hlenient : Lenient Φ)
    (h : Φ s) (hf : ∀ r s, Φ s → Passes (f r) Q s) : Passes (step a >>= f) Q s := by
  refine passes_step (hclean s h) (fun _ => hstable) (fun o => ?_) hf
  obtain ⟨b, heq, hb⟩ := Call.perform_of_looks (P := P) ha o s
  rw [heq]
  exact hlenient s b hb h

/-! ## The steps that change the scene -/

theorem Before.createStagingReservation (h : Before s) (o : Answers) :
    (∃ file, ((Call.createStagingReservation sequence).perform P o s).1 = .reserved file ∧
      Reserved sequence file ((Call.createStagingReservation sequence).perform P o s).2) ∨
    (∀ file, ((Call.createStagingReservation sequence).perform P o s).1 ≠ .reserved file) ∧
      Before ((Call.createStagingReservation sequence).perform P o s).2 := by
  by_cases hfails : o.succeeds = true
  · by_cases hfree : s.directory.names (.staging sequence) = none
    · refine .inl ⟨s.directory.next, by simp [Call.perform, hfails, hfree], ?_⟩
      simp only [Call.perform, hfails, hfree, not_true_eq_false, if_false, ne_eq]
      -- The new identity is that of no other name.
      have hold (name : FileName) : s.directory.names name ≠ some s.directory.next :=
        fun hsame => lt_irrefl _ (s.directory.bounded name _ hsame)
      refine ⟨⟨⟨h.state, h.session, h.response⟩, rfl, fun n suffix => ?_, fun name hname => ?_,
        fun other hother => ?_, fun _ other hmem => ?_⟩, h.linked, ?_, ?_⟩
      · simpa using h.sidecars n suffix
      · by_cases heq : name = .staging sequence
        · exact .inl heq
        · rw [Directory.create_names, if_neg heq] at hname
          exact absurd hname (hold name)
      · simpa using hother.symm
      · change other ∈ s.touched at hmem
        rw [h.touched] at hmem
        cases hmem
      · simp
      · simpa using hold .vault
    · refine .inr ⟨fun _ => by simp [Call.perform, hfails, hfree], ?_⟩
      simpa [Call.perform, hfails, hfree] using h
  · refine .inr ⟨fun _ => by simp [Call.perform, hfails], ?_⟩
    simpa [Call.perform, hfails] using h

theorem Reserved.initializeDatabase (h : Reserved sequence file s) {header manifest : List UInt8}
    (o : Answers) :
    Reserved sequence file ((Call.initializeDatabase file header manifest).perform P o s).2 ∧
      (((Call.initializeDatabase file header manifest).perform P o s).1 = true →
        Contains file ⟨header, manifest, []⟩
          ((Call.initializeDatabase file header manifest).perform P o s).2) := by
  refine ⟨⟨⟨⟨h.state, h.session, h.response⟩, h.staged, h.sidecars, h.names, h.name,
    fun hundisturbed other hmem => ?_⟩, h.linked, h.reserved, h.absent⟩, fun hsucceeds => ?_⟩
  · obtain rfl | hmem := List.mem_cons.mp hmem
    · rfl
    · exact h.touched hundisturbed other hmem
  · have hsucceeds' : o.succeeds = true := hsucceeds
    refine ⟨h.staged, ?_⟩
    simp only [Call.perform, Directory.write, Function.update_self, hsucceeds', if_true]

theorem Reserved.hardLink (h : Reserved sequence file s) (himage : Contains file image s)
    (o : Answers) :
    (((Call.hardLink (.staging sequence) .vault).perform P o s).1 = .ok () ∧
      Published sequence file ((Call.hardLink (.staging sequence) .vault).perform P o s).2 ∧
      Contains file image ((Call.hardLink (.staging sequence) .vault).perform P o s).2) ∨
    (((Call.hardLink (.staging sequence) .vault).perform P o s).1 ≠ .ok () ∧
      Withdrawn sequence file ((Call.hardLink (.staging sequence) .vault).perform P o s).2) := by
  by_cases hfails : o.succeeds = true
  · by_cases hfree : s.directory.names .vault = none
    · refine .inl ⟨by simp [Call.perform, hfails, hfree, h.reserved], ?_⟩
      simp only [Call.perform, hfails, hfree, h.reserved, not_true_eq_false, false_or, if_false,
        ne_eq, reduceCtorEq]
      refine ⟨⟨⟨⟨h.state, h.session, h.response⟩, h.staged, fun n suffix => ?_,
        fun name hname => ?_, fun other hother => ?_, h.touched⟩, rfl, fun _ => ?_⟩, himage⟩
      · simpa using h.sidecars n suffix
      · by_cases hvault : name = .vault
        · exact .inr hvault
        · rw [Directory.link_names, if_neg hvault] at hname
          exact h.names name hname
      · rw [Directory.link_names, if_neg (by simp)] at hother
        exact h.name other hother
      · simpa using h.reserved
    · refine .inr ⟨by simp [Call.perform, hfails, hfree, h.reserved], ?_⟩
      simpa [Call.perform, hfails, hfree, h.reserved] using h.withdrawn
  · refine .inr ⟨by simp [Call.perform, hfails], ?_⟩
    simpa [Call.perform, hfails] using h.withdrawn

/-- A removal of a name that is nobody else's. -/
theorem Staged.removeFile (h : Staged sequence file s) {path : FileName}
    (hpath : s.disturbed = false → ∀ other, s.directory.names path = some other → other = file)
    (o : Answers) : Staged sequence file ((Call.removeFile path).perform P o s).2 := by
  simp only [Call.perform]
  cases hname : s.directory.names path with
  | none => exact h
  | some other =>
    dsimp only
    split_ifs
    · have hkept {name : FileName} {f : ℕ} (hf : (s.directory.unlink path).names name = some f) :
          s.directory.names name = some f := by
        rw [Directory.unlink_names] at hf
        split_ifs at hf
        exact hf
      refine ⟨⟨h.state, h.session, h.response⟩, h.staged, fun n suffix => ?_,
        fun name hf => h.names name (hkept hf), fun f hf => h.name f (hkept hf),
        fun hundisturbed f hmem => ?_⟩
      · by_contra hsome
        obtain ⟨f, hf⟩ := Option.ne_none_iff_exists'.mp hsome
        have hwas := hkept hf
        rw [h.sidecars n suffix] at hwas
        cases hwas
      · obtain rfl | hmem := List.mem_cons.mp hmem
        · exact hpath hundisturbed f hname
        · exact h.touched hundisturbed f hmem
    · exact lenient_staged s true (fun _ => rfl) h

/-- The removal of the name of the vault. -/
theorem Published.removeVault (h : Published sequence file s) (o : Answers) :
    Withdrawn sequence file ((Call.removeFile .vault).perform P o s).2 := by
  have hvault : s.disturbed = false → ∀ other, s.directory.names .vault = some other →
      other = file := by
    intro hundisturbed other hother
    exact Option.some.inj (hother.symm.trans (h.published hundisturbed))
  refine ⟨h.toStaged.removeFile hvault o, ?_⟩
  simp only [Call.perform]
  cases hname : s.directory.names .vault with
  | none =>
    intro hundisturbed
    rw [h.published hundisturbed] at hname
    cases hname
  | some other =>
    dsimp only
    split_ifs
    · intro _ _
      simp
    · intro _ hremoved
      cases hremoved

/-! ## Comparing and opening -/

/-- Two files are compared, and then the rest. A comparison before a removal that goes wrong is a
failed removal. -/
theorem passes_match {removing : Bool} {left right : ℕ}
    {f : (Call.guardedFilesMatch removing left right).Result → Steps P β} {Φ : Scene → Prop}
    (hclean : ∀ s, Φ s → s.Clean) (hstable : Stable Φ) (hlenient : Lenient Φ) (h : Φ s)
    (hf : ∀ b s, Φ s → (b = true → left = right) →
      (b = false → left = right → removing = true → s.removal_failed = true) → Passes (f b) Q s) :
    Passes (step (.guardedFilesMatch removing left right) >>= f) Q s := by
  refine passes_step (Ψ := fun b s => Φ s ∧ (b = true → left = right) ∧
    (b = false → left = right → removing = true → s.removal_failed = true)) (hclean s h)
    (fun b => hstable.and (stable_const.and stable_removalFailed.imp.imp.imp)) (fun o => ?_)
    fun b s hs => hf b s hs.1 hs.2.1 hs.2.2
  obtain ⟨b, heq, hb⟩ := Call.perform_of_looks (P := P)
    (rfl : (Call.guardedFilesMatch removing left right).looks = true) o s
  refine ⟨?_, ?_, ?_⟩
  · rw [heq]
    exact hlenient s b hb h
  · by_cases hok : o.succeeds = true <;> simp [Call.perform, hok]
  · by_cases hok : o.succeeds = true
    · simp only [Call.perform, hok, if_true, decide_eq_false_iff_not]
      exact fun hne heq => absurd heq hne
    · intro _ _ hremoving
      simp [Call.perform, hok, hremoving]

/-- A published vault is opened. -/
theorem Published.passes_open {removing : Bool} {f : Option ℕ → Steps P β}
    (h : Published sequence file s)
    (hf : ∀ r s, Published sequence file s →
      (s.disturbed = false → ∀ current, r = some current → current = file) →
      (s.disturbed = false → removing = true → r = none → s.removal_failed = true) →
      Passes (f r) Q s) :
    Passes (step (.openGuard removing .vault) >>= f) Q s := by
  refine passes_step (Ψ := fun r s => Published sequence file s ∧
    (s.disturbed = false → ∀ current, r = some current → current = file) ∧
    (s.disturbed = false → removing = true → r = none → s.removal_failed = true))
    h.toStaged.clean (fun r => stable_published.and (stable_undisturbed.and ?_)) (fun o => ?_)
    fun r s hs => hf r s hs.1 hs.2.1 hs.2.2
  · intro s d _ hs hundisturbed
    exact hs (undisturbed_of_after hundisturbed)
  · obtain ⟨b, heq, hb⟩ := Call.perform_of_looks (P := P)
      (rfl : (Call.openGuard removing .vault).looks = true) o s
    refine ⟨?_, ?_, ?_⟩
    · rw [heq]
      exact lenient_published s b hb h
    · intro hundisturbed current hcurrent
      rw [heq] at hundisturbed
      have hvault := h.published hundisturbed
      by_cases hok : o.succeeds = true
      · simp only [Call.perform, hok, if_true] at hcurrent
        exact Option.some.inj (hcurrent.symm.trans hvault)
      · simp [Call.perform, hok] at hcurrent
    · intro hundisturbed hremoving hnone
      rw [heq] at hundisturbed
      have hvault := h.published hundisturbed
      by_cases hok : o.succeeds = true
      · simp only [Call.perform, hok, if_true] at hnone
        rw [hvault] at hnone
        cases hnone
      · simp [Call.perform, hok, hremoving, hvault]

end

end Librarian.Agent.Creation
