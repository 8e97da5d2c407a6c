import Librarian.Agent.CreationPhases

/-!
# The parts of a creation

What each part of the program makes of the phases, up to the whole call.
-/

namespace Librarian.Agent.Creation

open Conc Librarian.Core Librarian.Protocol

section

variable {P : Primitives} {α β : Type} {sequence file : ℕ} {image : Snapshot} {s : Scene}
variable {Q : β → Scene → Prop}

/-! ## The parts of the program -/

/-- The staged file has the name of the vault, and holds an image. -/
def PublishedWith (sequence file : ℕ) (image : Snapshot) (s : Scene) : Prop :=
  Published sequence file s ∧ Contains file image s

theorem publishedWith_clean (s : Scene) (h : PublishedWith sequence file image s) : s.Clean :=
  h.1.toStaged.clean

theorem stable_publishedWith : Stable (PublishedWith sequence file image) :=
  stable_published.and stable_contains

theorem lenient_publishedWith : Lenient (PublishedWith sequence file image) :=
  lenient_published.and lenient_contains

/-- The staged file has its staging name only, and holds an image. -/
def ReservedWith (sequence file : ℕ) (image : Snapshot) (s : Scene) : Prop :=
  Reserved sequence file s ∧ Contains file image s

theorem reservedWith_clean (s : Scene) (h : ReservedWith sequence file image s) : s.Clean :=
  h.1.toStaged.clean

theorem stable_reservedWith : Stable (ReservedWith sequence file image) :=
  stable_reserved.and stable_contains

theorem lenient_reservedWith : Lenient (ReservedWith sequence file image) :=
  lenient_reserved.and lenient_contains

/-- A step that looks while the staged file has its staging name only. -/
theorem ReservedWith.passes_look {a : Call} {f : a.Result → Steps P β} (ha : a.looks = true)
    (h : ReservedWith sequence file image s)
    (hf : ∀ r s, ReservedWith sequence file image s → Passes (f r) Q s) :
    Passes (step a >>= f) Q s :=
  Creation.passes_look ha reservedWith_clean stable_reservedWith lenient_reservedWith h hf

/-- A step that looks while the staged file has the name of the vault. -/
theorem PublishedWith.passes_look {a : Call} {f : a.Result → Steps P β} (ha : a.looks = true)
    (h : PublishedWith sequence file image s)
    (hf : ∀ r s, PublishedWith sequence file image s → Passes (f r) Q s) :
    Passes (step a >>= f) Q s :=
  Creation.passes_look ha publishedWith_clean stable_publishedWith lenient_publishedWith h hf

theorem publicationIsValid_passes (guard : Option ℕ) (h : PublishedWith sequence file image s) :
    Passes (P := P) (publicationIsValid file guard)
      (fun valid s => PublishedWith sequence file image s ∧ (valid = true → guard = some file)) s := by
  unfold publicationIsValid
  cases guard with
  | none => exact ⟨h, nofun⟩
  | some published =>
    refine passes_match publishedWith_clean stable_publishedWith lenient_publishedWith h ?_
    intro same s hs hsame _
    cases same with
    | false => exact ⟨hs, nofun⟩
    | true =>
      refine hs.passes_look rfl ?_
      intro valid s hs
      exact ⟨hs, fun _ => by rw [hsame rfl]⟩

/-- The name of the vault is removed, and then the rest. -/
theorem Published.passes_removeVault {f : Bool → Steps P β} (h : Published sequence file s)
    (hf : ∀ removed s, Withdrawn sequence file s → Passes (f removed) Q s) :
    Passes (step (.removeFile .vault) >>= f) Q s :=
  passes_step h.toStaged.clean (fun _ => stable_withdrawn) h.removeVault hf

/-- What a part that may publish the staged file ends in. -/
def Publishes (sequence file : ℕ) (image : Snapshot) {γ : Type} (value : γ)
    (result : Except CreateError γ) (s : Scene) : Prop :=
  (∃ e, result = .error e ∧ Withdrawn sequence file s) ∨
    result = .ok value ∧ PublishedWith sequence file image s

theorem ReservedWith.fails {γ : Type} {value : γ} (h : ReservedWith sequence file image s)
    (e : CreateError) : Publishes sequence file image value (.error e) s :=
  .inl ⟨e, rfl, h.1.withdrawn⟩

theorem publishStagedVault_passes (h : ReservedWith sequence file image s) :
    Passes (P := P) (publishStagedVault sequence file) (Publishes sequence file image file) s := by
  unfold publishStagedVault
  refine h.passes_look rfl fun absent s hs => ?_
  cases absent with
  | false => exact hs.fails _
  | true =>
  refine hs.passes_look rfl fun cloned s hs => ?_
  cases cloned with
  | false => exact hs.fails _
  | true =>
  refine hs.passes_look rfl fun current s hs => ?_
  cases current with
  | none => exact hs.fails _
  | some current =>
  refine hs.passes_look rfl fun same s hs => ?_
  cases same with
  | false => exact hs.fails _
  | true =>
  refine hs.passes_look rfl fun allowed s hs => ?_
  cases allowed with
  | error e => exact hs.fails _
  | ok _ =>
  refine passes_step (Ψ := fun r s => (r = .ok () ∧ PublishedWith sequence file image s) ∨
    (r ≠ .ok () ∧ Withdrawn sequence file s)) (reservedWith_clean s hs) (fun r s d hd hs => ?_)
    (fun o => hs.1.hardLink hs.2 o) fun linked s hs => ?_
  · exact hs.imp (fun h => ⟨h.1, stable_publishedWith s d hd h.2⟩)
      fun h => ⟨h.1, stable_withdrawn s d hd h.2⟩
  cases linked with
  | error e =>
    obtain ⟨hok, -⟩ | ⟨-, hs⟩ := hs
    · cases hok
    · exact .inl ⟨e, rfl, hs⟩
  | ok _ =>
  obtain ⟨-, hs⟩ | ⟨hnot, -⟩ := hs
  · refine hs.passes_look rfl fun guard s hs => ?_
    refine (publicationIsValid_passes guard hs).seq fun valid s hvalid => ?_
    obtain ⟨hs, hguard⟩ := hvalid
    cases valid with
    | false => exact hs.1.passes_removeVault fun _ s hs => .inl ⟨_, rfl, hs⟩
    | true =>
      rw [hguard rfl]
      exact .inr ⟨rfl, hs⟩
  · exact absurd rfl hnot

theorem sealPublishedVault_passes (h : PublishedWith sequence file image s) (published : ℕ) :
    Passes (P := P) (sealPublishedVault published)
      (fun result s => PublishedWith sequence file image s ∧
        ∀ sealed, result = .ok sealed → sealed = published) s := by
  unfold sealPublishedVault
  refine h.passes_look rfl fun sealed s hs => ?_
  cases sealed with
  | none => exact ⟨hs, nofun⟩
  | some sealed =>
  refine passes_match publishedWith_clean stable_publishedWith lenient_publishedWith hs ?_
  intro same s hs hsame _
  cases same with
  | false => exact ⟨hs, nofun⟩
  | true =>
  refine hs.passes_look rfl fun absent s hs => ?_
  cases absent with
  | false => exact ⟨hs, nofun⟩
  | true =>
    refine ⟨hs, fun other hother => ?_⟩
    rw [← Except.ok.inj hother]
    exact (hsame rfl).symm

theorem verifyPublishedVault_passes (h : PublishedWith sequence file image s) (published : ℕ)
    (header manifest : List UInt8) :
    Passes (P := P) (verifyPublishedVault published header manifest)
      (fun _ s => PublishedWith sequence file image s) s := by
  unfold verifyPublishedVault
  refine h.passes_look rfl fun read s hs => ?_
  cases read with
  | none => exact hs
  | some read =>
  obtain ⟨other, snapshot⟩ := read
  refine hs.passes_look rfl fun same s hs => ?_
  cases same with
  | false => exact hs
  | true =>
    change Passes (if snapshot.header ≠ header ∨ snapshot.manifest_envelope ≠ manifest then _ else _)
      _ s
    split_ifs
    · exact hs
    · exact hs

theorem removeTargetIfGuardedMatches_passes (h : Published sequence file s) :
    Passes (P := P) (removeTargetIfGuardedMatches file)
      (fun _ s => Withdrawn sequence file s) s := by
  unfold removeTargetIfGuardedMatches
  refine h.passes_open fun current s hs hcurrent hnone => ?_
  cases current with
  | none =>
    refine ⟨hs.toStaged, fun hundisturbed hremoved => ?_⟩
    rw [hnone hundisturbed rfl rfl] at hremoved
    cases hremoved
  | some current =>
  refine passes_match (Φ := fun s => Published sequence file s ∧
    (s.disturbed = false → ∀ current', some current = some current' → current' = file))
    (fun s hs => hs.1.toStaged.clean) (stable_published.and stable_undisturbed)
    (lenient_published.and fun _ _ _ h => h) ⟨hs, hcurrent⟩ ?_
  intro same s hs _ hfailed
  cases same with
  | false =>
    refine ⟨hs.1.toStaged, fun hundisturbed hremoved => ?_⟩
    have hsame : file = current := (hs.2 hundisturbed current rfl).symm
    rw [hfailed rfl hsame rfl] at hremoved
    cases hremoved
  | true => exact hs.1.passes_removeVault fun _ s hs => hs

/-! ## Removing the staging name -/

/-- The staging name is gone, or could not be removed. -/
def Dropped (sequence : ℕ) (s : Scene) : Prop :=
  s.removal_failed = false → s.directory.names (.staging sequence) = none

theorem stable_dropped : Stable (Dropped sequence) := by
  intro s d hd h hremoved
  rw [← h hremoved]
  exact hd.names _ (by simp)

/-- The removal of the staging name leaves the other names as they are. -/
theorem perform_removeStaging (o : Answers) (s : Scene) :
    (∀ name, name ≠ .staging sequence →
      ((Call.removeFile (.staging sequence)).perform P o s).2.directory.names name =
        s.directory.names name) ∧
    ((Call.removeFile (.staging sequence)).perform P o s).2.directory.contents =
      s.directory.contents ∧
    ((Call.removeFile (.staging sequence)).perform P o s).2.linked = s.linked ∧
    ((Call.removeFile (.staging sequence)).perform P o s).2.disturbed = s.disturbed ∧
    (s.removal_failed = true →
      ((Call.removeFile (.staging sequence)).perform P o s).2.removal_failed = true) ∧
    Dropped sequence ((Call.removeFile (.staging sequence)).perform P o s).2 := by
  simp only [Call.perform]
  cases hname : s.directory.names (.staging sequence) with
  | none => exact ⟨fun _ _ => rfl, rfl, rfl, rfl, id, fun _ => hname⟩
  | some other =>
    dsimp only
    split_ifs
    · refine ⟨fun name hne => ?_, rfl, rfl, rfl, id, fun _ => ?_⟩
      · rw [Directory.unlink_names, if_neg hne]
      · rw [Directory.unlink_names, if_pos rfl]
    · refine ⟨fun _ _ => rfl, rfl, rfl, rfl, fun _ => rfl, fun hremoved => ?_⟩
      cases hremoved

theorem Withdrawn.removeStaging (h : Withdrawn sequence file s) (o : Answers) :
    Withdrawn sequence file ((Call.removeFile (.staging sequence)).perform P o s).2 := by
  obtain ⟨hnames, -, -, hdisturbed, hfailed, -⟩ := perform_removeStaging (P := P) o s
  refine ⟨h.toStaged.removeFile (fun _ => h.name) o, fun hundisturbed hremoved => ?_⟩
  rw [hdisturbed] at hundisturbed
  rw [hnames _ (by simp)]
  apply h.withdrawn hundisturbed
  cases hwas : s.removal_failed with
  | false => rfl
  | true =>
    rw [hfailed hwas] at hremoved
    cases hremoved

theorem PublishedWith.removeStaging (h : PublishedWith sequence file image s) (o : Answers) :
    PublishedWith sequence file image
      ((Call.removeFile (.staging sequence)).perform P o s).2 := by
  obtain ⟨hnames, hcontents, hlinked, hdisturbed, -, -⟩ := perform_removeStaging (P := P) o s
  have hstaged := h.1.toStaged.removeFile (P := P) (fun _ => h.1.name) o
  refine ⟨⟨hstaged, hlinked.trans h.1.linked, fun hundisturbed => ?_⟩, hstaged.staged, ?_⟩
  · rw [hdisturbed] at hundisturbed
    rw [hnames _ (by simp)]
    exact h.1.published hundisturbed
  · rw [hcontents]
    exact h.2.2

/-- There are no sidecars to remove. -/
theorem Staged.removeSidecar (h : Staged sequence file s) (suffix : Sidecar) (o : Answers) :
    ((Call.removeFile (.sidecar (.staging sequence) suffix)).perform P o s).2 = s := by
  simp only [Call.perform]
  rw [h.sidecars sequence suffix]

/-- The drop of a staged file keeps what its removal keeps. -/
theorem dropStaged_passes {Φ : Scene → Prop} (hstaged : ∀ s, Φ s → Staged sequence file s)
    (hstable : Stable Φ)
    (hremove : ∀ s o, Φ s → Φ ((Call.removeFile (.staging sequence)).perform P o s).2) (h : Φ s) :
    Passes (P := P) (dropStaged sequence) (fun _ s => Φ s ∧ Dropped sequence s) s := by
  have hsidecar (suffix : Sidecar) {s : Scene} {f : Bool → Steps P Unit}
      {Q : Unit → Scene → Prop} (hs : Φ s ∧ Dropped sequence s)
      (hf : ∀ r s, Φ s ∧ Dropped sequence s → Passes (f r) Q s) :
      Passes (step (.removeFile (.sidecar (.staging sequence) suffix)) >>= f) Q s := by
    refine passes_step (hstaged s hs.1).clean (fun _ => hstable.and stable_dropped) (fun o => ?_) hf
    rw [(hstaged s hs.1).removeSidecar]
    exact hs
  unfold dropStaged
  refine passes_step (Ψ := fun _ s => Φ s ∧ Dropped sequence s) (hstaged s h).clean
    (fun _ => hstable.and stable_dropped) (fun o => ?_) fun _ s hs => ?_
  · have hdropped : Dropped sequence _ := (perform_removeStaging (P := P) o s).2.2.2.2.2
    exact ⟨hremove s o h, hdropped⟩
  · exact hsidecar .wal hs fun _ s hs => hsidecar .shm hs fun _ s hs => hs

/-! ## The whole call -/

/-- The image of a new vault. -/
def newImage (created : CreatedVault × ℕ) : Snapshot :=
  ⟨created.1.header, created.1.manifest_envelope, []⟩

theorem settlePublished_passes {created : CreatedVault × ℕ}
    (h : PublishedWith sequence file image s) :
    Passes (P := P) (settlePublished sequence file created)
      (Publishes sequence file image created) s := by
  unfold settlePublished
  refine passes_step (publishedWith_clean s h) (fun _ => stable_publishedWith)
    (fun o => h.removeStaging o) fun removed s hs => ?_
  cases removed with
  | false => exact hs.1.passes_removeVault fun _ s hs => .inl ⟨_, rfl, hs⟩
  | true =>
  refine (sealPublishedVault_passes hs file).seq fun sealed s hsealed => ?_
  obtain ⟨hs, hsame⟩ := hsealed
  cases sealed with
  | error e =>
    exact (removeTargetIfGuardedMatches_passes hs.1).seq fun _ s hs => .inl ⟨e, rfl, hs⟩
  | ok sealed =>
  obtain rfl := hsame sealed rfl
  refine hs.passes_look rfl fun synced s hs => ?_
  cases synced with
  | false =>
    refine hs.1.passes_removeVault fun _ s hs => ?_
    exact passes_look rfl (fun s hs => hs.toStaged.clean) stable_withdrawn lenient_withdrawn hs
      fun _ s hs => .inl ⟨_, rfl, hs⟩
  | true =>
  refine (verifyPublishedVault_passes hs sealed _ _).seq fun verified s hs => ?_
  cases verified with
  | error e =>
    refine (removeTargetIfGuardedMatches_passes hs.1).seq fun _ s hs => ?_
    exact passes_look rfl (fun s hs => hs.toStaged.clean) stable_withdrawn lenient_withdrawn hs
      fun _ s hs => .inl ⟨e, rfl, hs⟩
  | ok _ => exact .inr ⟨rfl, hs⟩

/-- What the call ends in while it has a staged file. -/
def Creates (sequence file : ℕ) (result : Except CreateError (CreatedVault × ℕ)) (s : Scene) :
    Prop :=
  (∃ e, result = .error e ∧ Withdrawn sequence file s) ∨
    ∃ created, result = .ok created ∧ PublishedWith sequence file (newImage created) s

theorem createStaged_passes (h : Reserved sequence file s) (password : MasterPassword) :
    Passes (P := P) (createStaged password sequence file) (Creates sequence file) s := by
  have hfails {s : Scene} (hs : Reserved sequence file s) :
      Creates sequence file (.error .failed) s :=
    .inl ⟨.failed, rfl, hs.withdrawn⟩
  unfold createStaged
  refine passes_look rfl (fun s hs => hs.toStaged.clean) stable_reserved lenient_reserved h
    fun created s hs => ?_
  cases created with
  | none => exact hfails hs
  | some created =>
  refine passes_step (Ψ := fun r s => Reserved sequence file s ∧
    (r = true → Contains file (newImage created) s)) hs.toStaged.clean
    (fun _ => stable_reserved.and stable_contains.imp) (fun o => hs.initializeDatabase o)
    fun written s hs => ?_
  cases written with
  | false => exact hfails hs.1
  | true =>
  have hwith : ReservedWith sequence file (newImage created) s := ⟨hs.1, hs.2 rfl⟩
  refine hwith.passes_look rfl fun absent s hs => ?_
  cases absent with
  | false => exact hfails hs.1
  | true =>
  refine (publishStagedVault_passes hs).seq fun published s hs => ?_
  obtain ⟨e, rfl, hs⟩ | ⟨rfl, hs⟩ := hs
  · exact .inl ⟨e, rfl, hs⟩
  · refine (settlePublished_passes hs).mono fun result s hresult => ?_
    exact hresult.imp_right fun hok => ⟨created, hok⟩

/-- A step that looks before anything has been staged. -/
theorem Before.passes_look {a : Call} {f : a.Result → Steps P β} (ha : a.looks = true)
    (h : Before s) (hf : ∀ r s, Before s → Passes (f r) Q s) : Passes (step a >>= f) Q s :=
  Creation.passes_look ha (fun _ hs => hs.clean) stable_before lenient_before h hf

/-- What the reservation of a staging file ends in. -/
def Reserves (result : Except CreateError (ℕ × ℕ)) (s : Scene) : Prop :=
  (∃ e, result = .error e ∧ Before s) ∨
    ∃ sequence file, result = .ok (sequence, file) ∧ Reserved sequence file s

theorem reserveLoop_passes (attempts : ℕ) (h : Before s) :
    Passes (P := P) (reserveLoop attempts) Reserves s := by
  induction attempts generalizing s with
  | zero => exact .inl ⟨_, rfl, h⟩
  | succ attempts ih =>
    unfold reserveLoop
    refine h.passes_look rfl fun drawn s hs => ?_
    cases drawn with
    | none => exact .inl ⟨_, rfl, hs⟩
    | some sequence =>
    refine passes_step (Ψ := fun r s => (∃ file, r = .reserved file ∧ Reserved sequence file s) ∨
      (∀ file, r ≠ .reserved file) ∧ Before s) hs.clean (fun r s d hd hs => ?_)
      (fun o => hs.createStagingReservation o) fun reservation s hs => ?_
    · exact hs.imp (fun ⟨file, hr, h⟩ => ⟨file, hr, stable_reserved s d hd h⟩)
        fun h => ⟨h.1, stable_before s d hd h.2⟩
    obtain ⟨file, rfl, hs⟩ | ⟨hnot, hs⟩ := hs
    · exact .inr ⟨sequence, file, rfl, hs⟩
    · cases reservation with
      | reserved file => exact absurd rfl (hnot file)
      | alreadyExists => exact ih hs
      | failed => exact .inl ⟨_, rfl, hs⟩

/-- What the call ends in. -/
def Ends (result : Except CreateError (CreatedVault × ℕ)) (s : Scene) : Prop :=
  (∃ e, result = .error e ∧ (Before s ∨ ∃ sequence file, Withdrawn sequence file s ∧
    Dropped sequence s)) ∨
  ∃ created sequence file, result = .ok created ∧
    PublishedWith sequence file (newImage created) s

theorem createWithBeforePublish_passes (h : Before s) (password : MasterPassword) :
    Passes (P := P) (createWithBeforePublish password) Ends s := by
  have hfails {s : Scene} (e : CreateError) (hs : Before s) : Ends (.error e) s :=
    .inl ⟨e, rfl, .inl hs⟩
  unfold createWithBeforePublish
  refine h.passes_look rfl fun bound s hs => ?_
  cases bound with
  | false => exact hfails _ hs
  | true =>
  refine hs.passes_look rfl fun valid s hs => ?_
  cases valid with
  | error e => exact hfails e hs
  | ok _ =>
  have hreserve : Passes (P := P) reserveStagingFile Reserves s := by
    unfold reserveStagingFile
    refine hs.passes_look rfl fun valid s hs => ?_
    cases valid with
    | error e => exact .inl ⟨e, rfl, hs⟩
    | ok _ => exact reserveLoop_passes maxStagingAttempts hs
  refine hreserve.seq fun reserved s hs => ?_
  obtain ⟨e, rfl, hs⟩ | ⟨sequence, file, rfl, hs⟩ := hs
  · exact hfails e hs
  refine (createStaged_passes hs password).seq fun result s hs => ?_
  obtain ⟨e, rfl, hs⟩ | ⟨created, rfl, hs⟩ := hs
  · refine (dropStaged_passes (fun _ hs => hs.toStaged) stable_withdrawn
      (fun _ o hs => hs.removeStaging o) hs).seq fun _ s hs => ?_
    exact .inl ⟨e, rfl, .inr ⟨sequence, file, hs⟩⟩
  · refine (dropStaged_passes (fun _ hs => hs.1.toStaged) stable_publishedWith
      (fun _ o hs => hs.removeStaging o) hs).seq fun _ s hs => ?_
    exact .inr ⟨created, sequence, file, rfl, hs.1⟩

/-- The staged file has no name any more, unless the call was disturbed or a removal failed. -/
theorem Withdrawn.gone (h : Withdrawn sequence file s) (hdropped : Dropped sequence s)
    (hundisturbed : s.disturbed = false) (hremoved : s.removal_failed = false) (name : FileName) :
    s.directory.names name ≠ some file := by
  intro hname
  obtain rfl | rfl := h.names name hname
  · rw [hdropped hremoved] at hname
    cases hname
  · exact h.withdrawn hundisturbed hremoved hname

/-- After an error no name leads to the staged file. -/
def Scene.Unpublished (s : Scene) : Prop :=
  s.disturbed = false → s.removal_failed = false →
    ∀ file, s.staged = some file → ∀ name, s.directory.names name ≠ some file

theorem Ends.unpublished {e : CreateError} (h : Ends (.error e) s) : s.Unpublished := by
  intro hundisturbed hremoved file hstaged
  obtain ⟨_, -, hbefore | ⟨sequence, file', hwithdrawn, hdropped⟩⟩ | ⟨_, _, _, hok, -⟩ := h
  · rw [hbefore.staged] at hstaged
    cases hstaged
  · have hsame : file' = file := Option.some.inj (hwithdrawn.staged.symm.trans hstaged)
    subst hsame
    exact hwithdrawn.gone hdropped hundisturbed hremoved
  · cases hok

theorem Ends.clean {result : Except CreateError (CreatedVault × ℕ)} (h : Ends result s) :
    s.Clean := by
  obtain ⟨_, -, hbefore | ⟨_, _, hwithdrawn, -⟩⟩ | ⟨_, _, _, -, hs⟩ := h
  · exact hbefore.clean
  · exact hwithdrawn.toStaged.clean
  · exact hs.1.toStaged.clean

end

end Librarian.Agent.Creation
