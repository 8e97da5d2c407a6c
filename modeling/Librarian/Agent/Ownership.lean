import Mathlib.Data.List.AList
import Librarian.Agent.Idempotency
import Librarian.Agent.VaultAgent

/-!
# Which runtime owns which files

All runtimes of a process share one registry. Under its token a runtime has a record of its vault
file and, with Windows Hello, one of its protected state: the normalised path, and the identity of
the file when there was one. A runtime is refused when one of its records conflicts with a record of
another; the records are taken anew at each binding, since files come and go.

`bind_windows_hello_state` compares the new record with the runtime's own vault, and `start` compares
the two with each other. The two bindings of the vault file do not look at the runtime's own state
record: `RuntimeOwnership.aliasesState` is what they miss.
-/

namespace Librarian.Agent

open Librarian.Protocol

variable {π ι : Type} [DecidableEq π] [DecidableEq ι]

/-- What `ownership_record` finds at a path. -/
structure OwnershipRecord (π ι : Type) where
  normalized_path : π
  identity : Option ι
  deriving DecidableEq

/-- Whether both records have an identity, and the same one. -/
def OwnershipRecord.sameFile (left right : OwnershipRecord π ι) : Bool :=
  match left.identity, right.identity with
  | some left, some right => left = right
  | _, _ => false

/-- `OwnershipRecord::conflicts_with`. -/
def OwnershipRecord.conflictsWith (left right : OwnershipRecord π ι) : Bool :=
  decide (left.normalized_path = right.normalized_path) || left.sameFile right

/-- `is_same_existing_target`. -/
def OwnershipRecord.isSameExistingTarget (left right : OwnershipRecord π ι) : Bool :=
  decide (left.normalized_path = right.normalized_path) && left.sameFile right

/-- The files of one runtime. -/
structure RuntimeOwnership (π ι : Type) where
  vault : OwnershipRecord π ι
  windows_hello_state : Option (OwnershipRecord π ι)
  deriving DecidableEq

namespace RuntimeOwnership

/-- `RuntimeOwnership::conflicts_with`. -/
def conflictsWith (owned : RuntimeOwnership π ι) (record : OwnershipRecord π ι) : Bool :=
  owned.vault.conflictsWith record ||
    owned.windows_hello_state.any fun state => state.conflictsWith record

/-- A record is of the very file that is the runtime's Windows Hello state. -/
def aliasesState (owned : RuntimeOwnership π ι) (record : OwnershipRecord π ι) : Bool :=
  owned.windows_hello_state.any fun state => state.sameFile record

end RuntimeOwnership

/-- `owned_vaults` with the counter of `next_ownership_token`. -/
structure Ownerships (π ι : Type) where
  registry : AList fun _ : ℕ => RuntimeOwnership π ι
  next_token : ℕ

/-- No runtime has started. -/
def Ownerships.initial : Ownerships π ι := ⟨∅, 1⟩

/-- `RuntimeStartError`. -/
inductive RuntimeStartError
  | invalidVaultPath
  | invalidLocalStatePath
  | alreadyOwned
  | internal
  deriving DecidableEq, Repr

/-- What `symlink_metadata` says of the vault path. -/
inductive Metadata
  | found
  | notFound
  | failed
  deriving DecidableEq, Repr

/-- What `start_with_components_and_state_path` is called with, and what it finds outside. -/
structure StartInput (π ι : Type) where
  has_provider : Bool
  has_state : Bool
  absolute : Bool
  /-- The fingerprint key that `getrandom` filled. -/
  random : Option (Bytes 32)
  /-- `ownership_record` of the vault path. -/
  vault : Except RuntimeStartError (OwnershipRecord π ι)
  /-- `ownership_record` of the protected state path, when there is such a path. -/
  protected_state : Option (Except RuntimeStartError (OwnershipRecord π ι))
  metadata : Metadata

namespace Ownerships

variable (owned : Ownerships π ι)

/-- `next_ownership_token`. -/
def nextOwnershipToken : Except RuntimeStartError ℕ × Ownerships π ι :=
  match checkedAddOne owned.next_token with
  | none => (.error .internal, owned)
  | some next => (.ok owned.next_token, { owned with next_token := next })

/-- The checks of `start_with_components_and_state_path` before it takes a token: the two records. -/
def startRecords (input : StartInput π ι) :
    Except RuntimeStartError (RuntimeOwnership π ι) := do
  if input.has_provider ≠ input.has_state then throw .invalidLocalStatePath
  if ¬input.absolute then throw .invalidVaultPath
  match input.random with
  | none => throw .internal
  | some key =>
    if key.val.all (· = 0) then throw .internal
    let vault ← input.vault
    match input.protected_state with
    | none => return ⟨vault, none⟩
    | some (.error _) => throw .invalidLocalStatePath
    | some (.ok state) =>
      if state.conflictsWith vault then throw .invalidLocalStatePath
      return ⟨vault, some state⟩

/-- Whether a record of a new runtime conflicts with one that is owned. -/
def anyConflict (new : RuntimeOwnership π ι) : Bool :=
  owned.registry.entries.any fun entry =>
    entry.2.conflictsWith new.vault ||
      new.windows_hello_state.any fun state => entry.2.conflictsWith state

/-- `start_with_components_and_state_path` up to the insertion into the registry. -/
def reserve (input : StartInput π ι) : Except RuntimeStartError ℕ × Ownerships π ι :=
  match startRecords input with
  | .error e => (.error e, owned)
  | .ok new =>
    match owned.nextOwnershipToken with
    | (.error e, owned) => (.error e, owned)
    | (.ok token, owned) =>
      if owned.anyConflict new then (.error .alreadyOwned, owned)
      else (.ok token, { owned with registry := owned.registry.insert token new })

/-- The drop of an `OwnershipLease`. -/
def drop (token : ℕ) : Ownerships π ι := { owned with registry := owned.registry.erase token }

/-- `start_with_components_and_state_path`: the lease's token and the first state. -/
def start (input : StartInput π ι) :
    Except RuntimeStartError (ℕ × AgentState) × Ownerships π ι :=
  match owned.reserve input with
  | (.error e, owned) => (.error e, owned)
  | (.ok token, owned) =>
    match input.metadata with
    | .found => (.ok (token, .locked), owned)
    | .notFound => (.ok (token, .noVault), owned)
    | .failed => (.error .invalidVaultPath, owned.drop token)

/-- Whether a record conflicts with one of another token. -/
def conflictsElsewhere (token : ℕ) (record : OwnershipRecord π ι) : Bool :=
  owned.registry.entries.any fun entry => entry.1 ≠ token && entry.2.conflictsWith record

/-- Replaces what a token owns. -/
def set (token : ℕ) (new : RuntimeOwnership π ι) : Ownerships π ι :=
  { owned with registry := owned.registry.insert token new }

/-- `bind_existing`, with the record that it finds. -/
def bindExisting (token : ℕ) (found : Except RuntimeStartError (OwnershipRecord π ι)) :
    Except DispatchError Unit × Ownerships π ι :=
  match found with
  | .error _ => (.error .internal, owned)
  | .ok record =>
    if record.identity = none ∨ owned.conflictsElsewhere token record then
      (.error .internal, owned)
    else
      match owned.registry.lookup token with
      | none => (.error .internal, owned)
      | some current =>
        if current.vault.normalized_path ≠ record.normalized_path then (.error .internal, owned)
        else (.ok (), owned.set token { current with vault := record })

/-- `bind_windows_hello_state`. -/
def bindWindowsHelloState (token : ℕ)
    (found : Except RuntimeStartError (OwnershipRecord π ι)) :
    Except DispatchError Unit × Ownerships π ι :=
  match found with
  | .error _ => (.error .internal, owned)
  | .ok record =>
    if owned.conflictsElsewhere token record then (.error .internal, owned)
    else
      match owned.registry.lookup token with
      | none => (.error .internal, owned)
      | some current =>
        if current.vault.conflictsWith record then (.error .internal, owned)
        else
          match current.windows_hello_state with
          | none => (.error .internal, owned)
          | some state =>
            if state.normalized_path ≠ record.normalized_path then (.error .internal, owned)
            else (.ok (), owned.set token { current with windows_hello_state := some record })

/-- `bind_authenticated`; `bound` is the answer of its closure. -/
def bindAuthenticated (token : ℕ) (found : Except RuntimeStartError (OwnershipRecord π ι))
    (authenticated : OwnershipRecord π ι) (bound : Except DispatchError Unit) :
    Except DispatchError Unit × Ownerships π ι :=
  match found with
  | .error _ => (.error .internal, owned)
  | .ok record =>
    if ¬authenticated.isSameExistingTarget record then (.error .internal, owned)
    else if owned.conflictsElsewhere token record then (.error .internal, owned)
    else
      match owned.registry.lookup token with
      | none => (.error .internal, owned)
      | some leased =>
        if leased.vault.normalized_path ≠ record.normalized_path then (.error .internal, owned)
        else
          match bound with
          | .error e => (.error e, owned)
          | .ok () => (.ok (), owned.set token { leased with vault := record })

end Ownerships

/-! ## Conflicts -/

namespace OwnershipRecord

variable {left right : OwnershipRecord π ι}

omit [DecidableEq π] in
theorem sameFile_comm : left.sameFile right = right.sameFile left := by
  obtain ⟨-, left⟩ := left
  obtain ⟨-, right⟩ := right
  cases left <;> cases right <;> simp [sameFile, eq_comm]

theorem conflictsWith_comm : left.conflictsWith right = right.conflictsWith left := by
  unfold conflictsWith
  rw [sameFile_comm]
  simp only [eq_comm]

/-- Records of different paths conflict through the identity of the file only. -/
theorem conflictsWith_eq_sameFile (h : left.normalized_path ≠ right.normalized_path) :
    left.conflictsWith right = left.sameFile right := by
  simp [conflictsWith, h]

theorem ne_path_of_not_conflicts (h : left.conflictsWith right = false) :
    left.normalized_path ≠ right.normalized_path := by
  intro heq
  simp [conflictsWith, heq] at h

end OwnershipRecord

namespace RuntimeOwnership

/-- The records of a runtime. -/
def records (owned : RuntimeOwnership π ι) : List (OwnershipRecord π ι) :=
  owned.vault :: owned.windows_hello_state.toList

/-- No record of one runtime conflicts with one of the other. -/
def Apart (owned other : RuntimeOwnership π ι) : Prop :=
  ∀ record ∈ owned.records, ∀ record' ∈ other.records, record.conflictsWith record' = false

/-- The two records of a runtime do not conflict. -/
def Distinct (owned : RuntimeOwnership π ι) : Prop :=
  ∀ state ∈ owned.windows_hello_state, owned.vault.conflictsWith state = false

variable {owned other : RuntimeOwnership π ι} {record : OwnershipRecord π ι}

theorem conflictsWith_eq_false : owned.conflictsWith record = false ↔
    ∀ record' ∈ owned.records, record'.conflictsWith record = false := by
  obtain ⟨vault, state⟩ := owned
  cases state <;> simp [conflictsWith, records]

theorem Apart.symm (h : owned.Apart other) : other.Apart owned := by
  intro record hrecord record' hrecord'
  rw [OwnershipRecord.conflictsWith_comm]
  exact h record' hrecord' record hrecord

/-- A new vault record that conflicts with nothing of another runtime. -/
theorem Apart.setVault (h : owned.Apart other) (hnew : other.conflictsWith record = false) :
    ({ owned with vault := record } : RuntimeOwnership π ι).Apart other := by
  intro left hleft right hright
  rw [records, List.mem_cons] at hleft
  obtain rfl | hleft := hleft
  · rw [OwnershipRecord.conflictsWith_comm]
    exact conflictsWith_eq_false.mp hnew right hright
  · exact h left (List.mem_cons_of_mem _ hleft) right hright

/-- A new state record that conflicts with nothing of another runtime. -/
theorem Apart.setState (h : owned.Apart other) (hnew : other.conflictsWith record = false) :
    ({ owned with windows_hello_state := some record } : RuntimeOwnership π ι).Apart other := by
  intro left hleft right hright
  simp only [records, Option.toList_some, List.mem_cons, List.not_mem_nil, or_false] at hleft
  obtain rfl | rfl := hleft
  · exact h _ List.mem_cons_self right hright
  · rw [OwnershipRecord.conflictsWith_comm]
    exact conflictsWith_eq_false.mp hnew right hright

omit [DecidableEq π] in
theorem identity_of_aliasesState (h : owned.aliasesState record = true) :
    record.identity ≠ none := by
  intro hnone
  rw [aliasesState, Option.any_eq_true] at h
  obtain ⟨state, -, hsame⟩ := h
  rw [OwnershipRecord.sameFile_comm, OwnershipRecord.sameFile, hnone] at hsame
  cases hsame

/-- A vault record of the same path stays distinct from the state, unless it is of the same file. -/
theorem Distinct.setVault (h : owned.Distinct)
    (hpath : owned.vault.normalized_path = record.normalized_path)
    (halias : owned.aliasesState record = false) :
    ({ owned with vault := record } : RuntimeOwnership π ι).Distinct := by
  intro state hstate
  have hne := OwnershipRecord.ne_path_of_not_conflicts (h state hstate)
  rw [hpath] at hne
  rw [OwnershipRecord.conflictsWith_eq_sameFile hne, OwnershipRecord.sameFile_comm]
  simp only [aliasesState] at halias
  rw [hstate] at halias
  exact halias

end RuntimeOwnership

/-- No two records of the registry conflict, of different runtimes or of one. -/
structure Exclusive (owned : Ownerships π ι) : Prop where
  apart {token token' : ℕ} {runtime runtime' : RuntimeOwnership π ι} (hne : token ≠ token')
    (h : owned.registry.lookup token = some runtime)
    (h' : owned.registry.lookup token' = some runtime') : runtime.Apart runtime'
  distinct {token : ℕ} {runtime : RuntimeOwnership π ι}
    (h : owned.registry.lookup token = some runtime) : runtime.Distinct

namespace Ownerships

variable {owned : Ownerships π ι} {token : ℕ} {record : OwnershipRecord π ι}

theorem conflictsElsewhere_eq_false : owned.conflictsElsewhere token record = false ↔
    ∀ token' runtime, owned.registry.lookup token' = some runtime → token' ≠ token →
      runtime.conflictsWith record = false := by
  simp only [conflictsElsewhere, List.any_eq_false, Bool.and_eq_true, ne_eq, decide_not,
    Bool.not_eq_true', decide_eq_false_iff_not, not_and, Bool.not_eq_true]
  constructor
  · intro h token' runtime hlookup hne
    exact h ⟨token', runtime⟩ (AList.mem_lookup_iff.mp hlookup) hne
  · intro h entry hentry hne
    exact h entry.1 entry.2 (AList.mem_lookup_iff.mpr hentry) hne

theorem anyConflict_eq_false {new : RuntimeOwnership π ι} (h : owned.anyConflict new = false)
    {runtime : RuntimeOwnership π ι} (hlookup : owned.registry.lookup token = some runtime) :
    new.Apart runtime := by
  simp only [anyConflict, List.any_eq_false, Bool.or_eq_true, not_or, Bool.not_eq_true] at h
  obtain ⟨hvault, hstate⟩ := h _ (AList.mem_lookup_iff.mp hlookup)
  intro left hleft right hright
  rw [OwnershipRecord.conflictsWith_comm]
  rw [RuntimeOwnership.records, List.mem_cons, Option.mem_toList] at hleft
  obtain rfl | hleft := hleft
  · exact RuntimeOwnership.conflictsWith_eq_false.mp hvault right hright
  · rw [hleft] at hstate
    exact RuntimeOwnership.conflictsWith_eq_false.mp hstate right hright

end Ownerships

section

variable {owned : Ownerships π ι} {token : ℕ} {new : RuntimeOwnership π ι}

/-- What a token owns is replaced by records that conflict with nothing. -/
theorem Exclusive.set (h : Exclusive owned)
    (hnew : ∀ token' runtime, token' ≠ token → owned.registry.lookup token' = some runtime →
      new.Apart runtime)
    (hdistinct : new.Distinct) : Exclusive (owned.set token new) where
  apart {token₁ token₂ runtime₁ runtime₂} hne h₁ h₂ := by
    simp only [Ownerships.set] at h₁ h₂
    by_cases heq₁ : token₁ = token
    · subst heq₁
      rw [AList.lookup_insert, Option.some.injEq] at h₁
      rw [AList.lookup_insert_ne hne.symm] at h₂
      subst h₁
      exact hnew token₂ runtime₂ hne.symm h₂
    · rw [AList.lookup_insert_ne heq₁] at h₁
      by_cases heq₂ : token₂ = token
      · subst heq₂
        rw [AList.lookup_insert, Option.some.injEq] at h₂
        subst h₂
        exact (hnew token₁ runtime₁ hne h₁).symm
      · rw [AList.lookup_insert_ne heq₂] at h₂
        exact h.apart hne h₁ h₂
  distinct {token' runtime} h' := by
    simp only [Ownerships.set] at h'
    by_cases heq : token' = token
    · subst heq
      rw [AList.lookup_insert, Option.some.injEq] at h'
      exact h' ▸ hdistinct
    · rw [AList.lookup_insert_ne heq] at h'
      exact h.distinct h'

/-- A lease that is dropped takes its records with it. -/
theorem Exclusive.drop (h : Exclusive owned) (token : ℕ) : Exclusive (owned.drop token) := by
  have hlookup {token' : ℕ} {runtime : RuntimeOwnership π ι}
      (h' : (owned.drop token).registry.lookup token' = some runtime) :
      owned.registry.lookup token' = some runtime := by
    by_cases heq : token' = token
    · subst heq
      rw [Ownerships.drop, AList.lookup_erase] at h'
      cases h'
    · rwa [Ownerships.drop, AList.lookup_erase_ne heq] at h'
  exact ⟨fun hne h₁ h₂ => h.apart hne (hlookup h₁) (hlookup h₂), fun h' => h.distinct (hlookup h')⟩

end

/-! ## The operations -/

namespace Ownerships

variable {owned : Ownerships π ι} {token : ℕ}

/-- The vault record of a token can be replaced by a new one, and what a binding misses. -/
structure Rebinds (owned : Ownerships π ι) (token : ℕ) (record : OwnershipRecord π ι)
    (current : RuntimeOwnership π ι) : Prop where
  leased : owned.registry.lookup token = some current
  elsewhere : owned.conflictsElsewhere token record = false
  path : current.vault.normalized_path = record.normalized_path

theorem bindExisting_cases (owned : Ownerships π ι) (token : ℕ)
    (found : Except RuntimeStartError (OwnershipRecord π ι)) :
    (∃ e, owned.bindExisting token found = (.error e, owned)) ∨
      ∃ record current, found = .ok record ∧ record.identity ≠ none ∧
        owned.Rebinds token record current ∧
        owned.bindExisting token found =
          (.ok (), owned.set token { current with vault := record }) := by
  unfold bindExisting
  cases found with
  | error e => exact .inl ⟨_, rfl⟩
  | ok record =>
  dsimp only
  split_ifs with hrefused
  · exact .inl ⟨_, rfl⟩
  simp only [not_or, Bool.not_eq_true] at hrefused
  cases hlookup : owned.registry.lookup token with
  | none => exact .inl ⟨_, rfl⟩
  | some current =>
  dsimp only
  split_ifs with hpath
  · exact .inl ⟨_, rfl⟩
  · exact .inr ⟨record, current, rfl, hrefused.1, ⟨hlookup, hrefused.2, not_not.mp hpath⟩, rfl⟩

/-- A binding of a file in conflict with no other runtime is accepted, and it does not look at the
runtime's own state. -/
theorem Rebinds.bindExisting {record : OwnershipRecord π ι} {current : RuntimeOwnership π ι}
    (h : owned.Rebinds token record current) (hidentity : record.identity ≠ none) :
    owned.bindExisting token (.ok record) =
      (.ok (), owned.set token { current with vault := record }) := by
  simp [Ownerships.bindExisting, h.leased, h.elsewhere, h.path, hidentity]

theorem Rebinds.bindAuthenticated {record authenticated : OwnershipRecord π ι}
    {current : RuntimeOwnership π ι} (h : owned.Rebinds token record current)
    (htarget : authenticated.isSameExistingTarget record = true) :
    owned.bindAuthenticated token (.ok record) authenticated (.ok ()) =
      (.ok (), owned.set token { current with vault := record }) := by
  simp [Ownerships.bindAuthenticated, h.leased, h.elsewhere, h.path, htarget]

theorem bindAuthenticated_cases (owned : Ownerships π ι) (token : ℕ)
    (found : Except RuntimeStartError (OwnershipRecord π ι))
    (authenticated : OwnershipRecord π ι) (bound : Except DispatchError Unit) :
    (∃ e, owned.bindAuthenticated token found authenticated bound = (.error e, owned)) ∨
      ∃ record current, found = .ok record ∧ authenticated.isSameExistingTarget record = true ∧
        bound = .ok () ∧ owned.Rebinds token record current ∧
        owned.bindAuthenticated token found authenticated bound =
          (.ok (), owned.set token { current with vault := record }) := by
  unfold bindAuthenticated
  cases found with
  | error e => exact .inl ⟨_, rfl⟩
  | ok record =>
  dsimp only
  by_cases htarget : authenticated.isSameExistingTarget record = true
  case neg =>
    rw [if_pos htarget]
    exact .inl ⟨_, rfl⟩
  rw [if_neg (not_not.mpr htarget)]
  split_ifs with helsewhere
  · exact .inl ⟨_, rfl⟩
  rw [Bool.not_eq_true] at helsewhere
  cases hlookup : owned.registry.lookup token with
  | none => exact .inl ⟨_, rfl⟩
  | some current =>
  dsimp only
  split_ifs with hpath
  · exact .inl ⟨_, rfl⟩
  cases bound with
  | error e => exact .inl ⟨_, rfl⟩
  | ok u =>
    exact .inr ⟨record, current, rfl, htarget, rfl,
      ⟨hlookup, helsewhere, not_not.mp hpath⟩, rfl⟩

theorem bindWindowsHelloState_cases (owned : Ownerships π ι) (token : ℕ)
    (found : Except RuntimeStartError (OwnershipRecord π ι)) :
    (∃ e, owned.bindWindowsHelloState token found = (.error e, owned)) ∨
      ∃ record current, found = .ok record ∧ owned.registry.lookup token = some current ∧
        owned.conflictsElsewhere token record = false ∧
        current.vault.conflictsWith record = false ∧
        owned.bindWindowsHelloState token found =
          (.ok (), owned.set token { current with windows_hello_state := some record }) := by
  unfold bindWindowsHelloState
  cases found with
  | error e => exact .inl ⟨_, rfl⟩
  | ok record =>
  dsimp only
  split_ifs with helsewhere
  · exact .inl ⟨_, rfl⟩
  rw [Bool.not_eq_true] at helsewhere
  cases hlookup : owned.registry.lookup token with
  | none => exact .inl ⟨_, rfl⟩
  | some current =>
  dsimp only
  split_ifs with hown
  · exact .inl ⟨_, rfl⟩
  rw [Bool.not_eq_true] at hown
  cases current.windows_hello_state with
  | none => exact .inl ⟨_, rfl⟩
  | some state =>
  dsimp only
  split_ifs with hpath
  · exact .inl ⟨_, rfl⟩
  · exact .inr ⟨record, current, rfl, rfl, helsewhere, hown, rfl⟩

/-- The records with which a runtime starts do not conflict. -/
theorem distinct_of_startRecords {input : StartInput π ι} {new : RuntimeOwnership π ι}
    (h : startRecords input = .ok new) : new.Distinct := by
  simp only [startRecords, Except.throw_eq, Except.error_bind, Except.pure_eq,
    Except.ite_error_eq_ok] at h
  obtain ⟨-, -, h⟩ := h
  cases hrandom : input.random with
  | none => simp [hrandom] at h
  | some key =>
  simp only [hrandom, Except.ite_error_eq_ok, Except.bind_eq_ok] at h
  obtain ⟨-, vault, -, h⟩ := h
  cases hstate : input.protected_state with
  | none =>
    simp only [hstate, Except.ok.injEq] at h
    subst h
    intro state hmem
    cases hmem
  | some found =>
  cases found with
  | error e => simp [hstate] at h
  | ok state =>
    simp only [hstate, Except.ite_error_eq_ok, Except.ok.injEq, Bool.not_eq_true] at h
    obtain ⟨hconflict, rfl⟩ := h
    intro state' hmem
    obtain rfl : state = state' := Option.some.inj hmem
    rw [OwnershipRecord.conflictsWith_comm]
    exact hconflict

/-- A start reserves a fresh token for records that conflict with nothing, or changes no record. -/
theorem reserve_cases (owned : Ownerships π ι) (input : StartInput π ι) :
    (∃ e next, owned.reserve input = (.error e, { owned with next_token := next }) ∧
      owned.next_token ≤ next) ∨
      ∃ new, new.Distinct ∧ owned.anyConflict new = false ∧
        owned.reserve input = (.ok owned.next_token,
          { registry := owned.registry.insert owned.next_token new
            next_token := owned.next_token + 1 }) := by
  unfold reserve
  cases hrecords : startRecords input with
  | error e => exact .inl ⟨e, owned.next_token, rfl, le_rfl⟩
  | ok new =>
  dsimp only
  unfold nextOwnershipToken checkedAddOne
  split_ifs with hbound
  · dsimp only
    have hsame : ({ owned with next_token := owned.next_token + 1 } : Ownerships π ι).anyConflict
        new = owned.anyConflict new := rfl
    rw [hsame]
    cases hconflict : owned.anyConflict new with
    | true => exact .inl ⟨.alreadyOwned, owned.next_token + 1, rfl, Nat.le_succ _⟩
    | false => exact .inr ⟨new, distinct_of_startRecords hrecords, hconflict, rfl⟩
  · exact .inl ⟨.internal, owned.next_token, rfl, le_rfl⟩

end Ownerships

/-! ## Runs -/

/-- What the runtimes of a process do to the registry. A start is one operation when nothing comes
between its two critical sections; `reserve` is the first of them alone, which `drop` may follow
later. -/
inductive OwnershipOperation (π ι : Type)
  | start (input : StartInput π ι)
  | reserve (input : StartInput π ι)
  | bindExisting (token : ℕ) (found : Except RuntimeStartError (OwnershipRecord π ι))
  | bindWindowsHelloState (token : ℕ)
      (found : Except RuntimeStartError (OwnershipRecord π ι))
  | bindAuthenticated (token : ℕ) (found : Except RuntimeStartError (OwnershipRecord π ι))
      (authenticated : OwnershipRecord π ι) (bound : Except DispatchError Unit)
  | drop (token : ℕ)

namespace OwnershipOperation

/-- Whether an operation is accepted, and what is owned after it. -/
def perform (owned : Ownerships π ι) : OwnershipOperation π ι → Bool × Ownerships π ι
  | .start input => ((owned.start input).1.toBool, (owned.start input).2)
  | .reserve input => ((owned.reserve input).1.toBool, (owned.reserve input).2)
  | .bindExisting token found =>
    ((owned.bindExisting token found).1.toBool, (owned.bindExisting token found).2)
  | .bindWindowsHelloState token found =>
    ((owned.bindWindowsHelloState token found).1.toBool, (owned.bindWindowsHelloState token found).2)
  | .bindAuthenticated token found authenticated bound =>
    ((owned.bindAuthenticated token found authenticated bound).1.toBool,
      (owned.bindAuthenticated token found authenticated bound).2)
  | .drop token => (true, owned.drop token)

/-- A binding of the vault finds, under the leased path and in conflict with no other runtime, the
very file that is recorded as the runtime's own Windows Hello state. -/
def Aliases (owned : Ownerships π ι) : OwnershipOperation π ι → Prop
  | .bindExisting token found => ∃ record current, found = .ok record ∧
      owned.Rebinds token record current ∧ current.aliasesState record = true
  | .bindAuthenticated token found authenticated bound => ∃ record current, found = .ok record ∧
      authenticated.isSameExistingTarget record = true ∧ bound = .ok () ∧
      owned.Rebinds token record current ∧ current.aliasesState record = true
  | _ => False

end OwnershipOperation

/-- What is owned after some operations, the latest first. -/
def Ownerships.after : List (OwnershipOperation π ι) → Ownerships π ι
  | [] => .initial
  | operation :: past => (operation.perform (after past)).2

/-- The tokens of the registry have been handed out. -/
def Ownerships.Issued (owned : Ownerships π ι) : Prop :=
  ∀ token ∈ owned.registry, token < owned.next_token

section

variable {owned : Ownerships π ι} {token : ℕ} {record : OwnershipRecord π ι}
  {current : RuntimeOwnership π ι}

omit [DecidableEq π] [DecidableEq ι] in
theorem Ownerships.Issued.set (h : owned.Issued)
    (hleased : owned.registry.lookup token = some current) (new : RuntimeOwnership π ι) :
    (owned.set token new).Issued := by
  intro token' hmem
  rw [Ownerships.set, AList.mem_insert] at hmem
  obtain rfl | hmem := hmem
  · refine h token' (AList.lookup_isSome.mp ?_)
    rw [hleased]
    rfl
  · exact h token' hmem

omit [DecidableEq π] [DecidableEq ι] in
theorem Ownerships.Issued.drop (h : owned.Issued) (token : ℕ) : (owned.drop token).Issued := by
  intro token' hmem
  rw [Ownerships.drop, AList.mem_erase] at hmem
  exact h token' hmem.2

theorem Ownerships.Issued.reserve (h : owned.Issued) (input : StartInput π ι) :
    (owned.reserve input).2.Issued := by
  rcases owned.reserve_cases input with ⟨e, next, heq, hle⟩ | ⟨new, -, -, heq⟩
  · rw [heq]
    intro token hmem
    exact (h token hmem).trans_le hle
  · rw [heq]
    intro token hmem
    rw [AList.mem_insert] at hmem
    obtain rfl | hmem := hmem
    · exact Nat.lt_succ_self _
    · exact (h token hmem).trans (Nat.lt_succ_self _)

/-- A start that fails after its reservation leaves the registry as it was. -/
theorem Ownerships.start_cases (h : owned.Issued) (input : StartInput π ι) :
    (owned.start input).2 = (owned.reserve input).2 ∧
        ((owned.start input).1.toBool = false → (owned.reserve input).1.toBool = false) ∨
      ∃ next, owned.next_token ≤ next ∧
        owned.start input = (.error .invalidVaultPath, { owned with next_token := next }) := by
  unfold Ownerships.start
  rcases owned.reserve_cases input with ⟨e, next, heq, hle⟩ | ⟨new, -, -, heq⟩
  · rw [heq]
    exact .inl ⟨rfl, fun _ => rfl⟩
  · rw [heq]
    cases input.metadata with
    | found => exact .inl ⟨rfl, fun hrejected => by cases hrejected⟩
    | notFound => exact .inl ⟨rfl, fun hrejected => by cases hrejected⟩
    | failed =>
      refine .inr ⟨owned.next_token + 1, Nat.le_succ _, ?_⟩
      have hfresh : owned.next_token ∉ owned.registry := fun hmem => lt_irrefl _ (h _ hmem)
      have hsame : (owned.registry.insert owned.next_token new).erase owned.next_token =
          owned.registry := by
        apply AList.ext
        have hinsert : (owned.registry.insert owned.next_token new).entries =
            ⟨owned.next_token, new⟩ :: owned.registry.entries :=
          AList.entries_insert_of_notMem hfresh
        calc ((owned.registry.insert owned.next_token new).erase owned.next_token).entries
            = List.kerase owned.next_token
                (owned.registry.insert owned.next_token new).entries := rfl
          _ = List.kerase owned.next_token (⟨owned.next_token, new⟩ :: owned.registry.entries) := by
              rw [hinsert]
          _ = owned.registry.entries := List.kerase_cons_eq rfl
      dsimp only [Ownerships.drop]
      rw [hsame]

end

namespace OwnershipOperation

variable {owned : Ownerships π ι}

theorem perform_issued (h : owned.Issued) (operation : OwnershipOperation π ι) :
    (operation.perform owned).2.Issued := by
  cases operation with
  | start input =>
    rcases Ownerships.start_cases h input with ⟨heq, -⟩ | ⟨next, hle, heq⟩
    · exact (congrArg Ownerships.Issued heq).mpr (h.reserve input)
    · simp only [perform, heq]
      exact fun token hmem => (h token hmem).trans_le hle
  | reserve input => exact h.reserve input
  | bindExisting token found =>
    rcases owned.bindExisting_cases token found with ⟨e, heq⟩ | ⟨_, _, -, -, hbinds, heq⟩
    · simpa only [perform, heq] using h
    · simpa only [perform, heq] using h.set hbinds.leased _
  | bindWindowsHelloState token found =>
    rcases owned.bindWindowsHelloState_cases token found with
      ⟨e, heq⟩ | ⟨_, _, -, hleased, -, -, heq⟩
    · simpa only [perform, heq] using h
    · simpa only [perform, heq] using h.set hleased _
  | bindAuthenticated token found authenticated bound =>
    rcases owned.bindAuthenticated_cases token found authenticated bound with
      ⟨e, heq⟩ | ⟨_, _, -, -, -, hbinds, heq⟩
    · simpa only [perform, heq] using h
    · simpa only [perform, heq] using h.set hbinds.leased _
  | drop token => exact h.drop token

/-- An operation that is not accepted leaves the registry as it was. -/
theorem registry_of_rejected (h : owned.Issued) {operation : OwnershipOperation π ι}
    (hrejected : (operation.perform owned).1 = false) :
    (operation.perform owned).2.registry = owned.registry := by
  have hreserve (input : StartInput π ι) (hrejected : (owned.reserve input).1.toBool = false) :
      (owned.reserve input).2.registry = owned.registry := by
    rcases owned.reserve_cases input with ⟨e, next, heq, -⟩ | ⟨new, -, -, heq⟩
    · rw [heq]
    · rw [heq] at hrejected
      cases hrejected
  cases operation with
  | start input =>
    rcases Ownerships.start_cases h input with ⟨heq, hreject⟩ | ⟨next, -, heq⟩
    · simp only [perform, heq]
      exact hreserve input (hreject hrejected)
    · simp only [perform, heq]
  | reserve input => exact hreserve input hrejected
  | bindExisting token found =>
    rcases owned.bindExisting_cases token found with ⟨e, heq⟩ | ⟨_, _, -, -, -, heq⟩
    · simp only [perform, heq]
    · simp [perform, heq, Except.toBool] at hrejected
  | bindWindowsHelloState token found =>
    rcases owned.bindWindowsHelloState_cases token found with
      ⟨e, heq⟩ | ⟨_, _, -, -, -, -, heq⟩
    · simp only [perform, heq]
    · simp [perform, heq, Except.toBool] at hrejected
  | bindAuthenticated token found authenticated bound =>
    rcases owned.bindAuthenticated_cases token found authenticated bound with
      ⟨e, heq⟩ | ⟨_, _, -, -, -, -, heq⟩
    · simp only [perform, heq]
    · simp [perform, heq, Except.toBool] at hrejected
  | drop token => cases hrejected

end OwnershipOperation

section

variable {owned : Ownerships π ι} {token : ℕ} {record : OwnershipRecord π ι}
  {current : RuntimeOwnership π ι}

/-- A binding of the vault keeps the records exclusive, unless it binds the runtime's own state. -/
theorem Exclusive.rebind (h : Exclusive owned) (hbinds : owned.Rebinds token record current)
    (halias : current.aliasesState record = false) :
    Exclusive (owned.set token { current with vault := record }) := by
  refine h.set (fun token' runtime hne hlookup => ?_)
    ((h.distinct hbinds.leased).setVault hbinds.path halias)
  refine (h.apart hne.symm hbinds.leased hlookup).setVault ?_
  exact Ownerships.conflictsElsewhere_eq_false.mp hbinds.elsewhere token' runtime hlookup hne

/-- After a binding of the runtime's own state as its vault, the two records conflict. -/
theorem not_exclusive_of_aliases (halias : current.aliasesState record = true) :
    ¬Exclusive (owned.set token { current with vault := record }) := by
  intro h
  rw [RuntimeOwnership.aliasesState, Option.any_eq_true] at halias
  obtain ⟨state, hstate, hsame⟩ := halias
  have hleased : (owned.set token { current with vault := record }).registry.lookup token =
      some { current with vault := record } := AList.lookup_insert owned.registry
  have hdistinct := h.distinct hleased state hstate
  rw [OwnershipRecord.conflictsWith, OwnershipRecord.sameFile_comm, hsame, Bool.or_true] at hdistinct
  cases hdistinct

theorem Exclusive.reserve (h : Exclusive owned) (input : StartInput π ι) :
    Exclusive (owned.reserve input).2 := by
  rcases owned.reserve_cases input with ⟨e, next, heq, -⟩ | ⟨new, hdistinct, hconflict, heq⟩
  · rw [heq]
    exact ⟨h.apart, h.distinct⟩
  · rw [heq]
    have hset : Exclusive (owned.set owned.next_token new) :=
      h.set (fun token' runtime _ hlookup => Ownerships.anyConflict_eq_false hconflict hlookup)
        hdistinct
    exact ⟨hset.apart, hset.distinct⟩

namespace OwnershipOperation

/-- The one operation that may bring a conflict is a binding of the runtime's own state. -/
theorem exclusive_perform_iff (h : Exclusive owned) (hissued : owned.Issued)
    (operation : OwnershipOperation π ι) :
    Exclusive (operation.perform owned).2 ↔ ¬operation.Aliases owned := by
  cases operation with
  | start input =>
    refine iff_of_true ?_ id
    rcases Ownerships.start_cases hissued input with ⟨heq, -⟩ | ⟨next, -, heq⟩
    · exact (congrArg Exclusive heq).mpr (h.reserve input)
    · simp only [perform, heq]
      exact ⟨h.apart, h.distinct⟩
  | reserve input => exact iff_of_true (h.reserve input) id
  | drop token => exact iff_of_true (h.drop token) id
  | bindWindowsHelloState token found =>
    refine iff_of_true ?_ id
    rcases owned.bindWindowsHelloState_cases token found with
      ⟨e, heq⟩ | ⟨record, current, -, hleased, helsewhere, hown, heq⟩
    · simpa only [perform, heq] using h
    · simp only [perform, heq]
      refine h.set (fun token' runtime hne hlookup => ?_) fun state hstate => ?_
      · refine (h.apart hne.symm hleased hlookup).setState ?_
        exact Ownerships.conflictsElsewhere_eq_false.mp helsewhere token' runtime hlookup hne
      · obtain rfl : record = state := Option.some.inj hstate
        exact hown
  | bindExisting token found =>
    constructor
    · rintro hexclusive ⟨record, current, rfl, hbinds, halias⟩
      have hidentity := RuntimeOwnership.identity_of_aliasesState halias
      simp only [perform, hbinds.bindExisting hidentity] at hexclusive
      exact not_exclusive_of_aliases halias hexclusive
    · intro hfree
      rcases owned.bindExisting_cases token found with
        ⟨e, heq⟩ | ⟨record, current, hfound, -, hbinds, heq⟩
      · simpa only [perform, heq] using h
      · simp only [perform, heq]
        refine h.rebind hbinds ?_
        rw [← Bool.not_eq_true]
        exact fun halias => hfree ⟨record, current, hfound, hbinds, halias⟩
  | bindAuthenticated token found authenticated bound =>
    constructor
    · rintro hexclusive ⟨record, current, rfl, htarget, rfl, hbinds, halias⟩
      simp only [perform, hbinds.bindAuthenticated htarget] at hexclusive
      exact not_exclusive_of_aliases halias hexclusive
    · intro hfree
      rcases owned.bindAuthenticated_cases token found authenticated bound with
        ⟨e, heq⟩ | ⟨record, current, hfound, htarget, hbound, hbinds, heq⟩
      · simpa only [perform, heq] using h
      · simp only [perform, heq]
        refine h.rebind hbinds ?_
        rw [← Bool.not_eq_true]
        exact fun halias => hfree ⟨record, current, hfound, htarget, hbound, hbinds, halias⟩

end OwnershipOperation

end

theorem Ownerships.after_issued (operations : List (OwnershipOperation π ι)) :
    (Ownerships.after operations).Issued := by
  induction operations with
  | nil => exact fun token hmem => absurd hmem (by simp [Ownerships.after, Ownerships.initial])
  | cons operation past ih => exact operation.perform_issued ih

theorem Ownerships.initial_exclusive : Exclusive (Ownerships.initial : Ownerships π ι) where
  apart _ h := by simp [Ownerships.initial] at h
  distinct h := by simp [Ownerships.initial] at h

/-- For every sequence of starts, bindings and drops, the records of the registry are exclusive all
the way exactly when no binding of a vault meets the runtime's own Windows Hello state; and every
operation that is refused leaves the registry as it was. -/
theorem ownership_records_exclusive (operations : List (OwnershipOperation π ι)) :
    ((∀ past, past <:+ operations → Exclusive (Ownerships.after past)) ↔
      ∀ operation past, operation :: past <:+ operations →
        ¬operation.Aliases (Ownerships.after past)) ∧
    ∀ operation : OwnershipOperation π ι,
      (operation.perform (Ownerships.after operations)).1 = false →
        (operation.perform (Ownerships.after operations)).2.registry =
          (Ownerships.after operations).registry := by
  refine ⟨⟨fun h operation past hsuffix => ?_, fun h past hsuffix => ?_⟩, fun operation => ?_⟩
  · have hpast : past <:+ operations := (List.suffix_cons operation past).trans hsuffix
    rw [← operation.exclusive_perform_iff (h past hpast) (Ownerships.after_issued past)]
    exact h _ hsuffix
  · -- The records are exclusive at the start, and each operation keeps them so.
    induction past with
    | nil => exact Ownerships.initial_exclusive
    | cons operation past ih =>
      have hpast : past <:+ operations := (List.suffix_cons operation past).trans hsuffix
      exact (operation.exclusive_perform_iff (ih hpast) (Ownerships.after_issued past)).mpr
        (h operation past hsuffix)
  · exact OwnershipOperation.registry_of_rejected (Ownerships.after_issued operations)

/-- A runtime whose vault file does not exist yet, and whose Windows Hello state does. -/
def aliasedStart : StartInput ℕ ℕ where
  has_provider := true
  has_state := true
  absolute := true
  random := some ⟨List.replicate 32 1, by simp⟩
  vault := .ok ⟨0, none⟩
  protected_state := some (.ok ⟨1, some 7⟩)
  metadata := .notFound

/-- The file of the Windows Hello state is linked under the vault path as well, and an unlock binds
it. -/
theorem own_state_bound_as_vault :
    ¬∀ operations : List (OwnershipOperation ℕ ℕ), Exclusive (Ownerships.after operations) := by
  intro h
  have hexclusive := h [.bindAuthenticated 1 (.ok ⟨0, some 7⟩) ⟨0, some 7⟩ (.ok ()),
    .start aliasedStart]
  have hlookup : (Ownerships.after [.bindAuthenticated 1 (.ok ⟨0, some 7⟩) ⟨0, some 7⟩ (.ok ()),
      .start aliasedStart]).registry.lookup 1 = some ⟨⟨0, some 7⟩, some ⟨1, some 7⟩⟩ := by
    decide
  have hdistinct := hexclusive.distinct hlookup ⟨1, some 7⟩ rfl
  simp [OwnershipRecord.conflictsWith, OwnershipRecord.sameFile] at hdistinct

end Librarian.Agent
