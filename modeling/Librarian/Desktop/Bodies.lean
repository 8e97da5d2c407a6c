import Librarian.Desktop.Codec

/-!
# What the desktop client reads off the bodies of responses

The client reads all of a body and keeps what it shows: of a status the state, of an account its
identifier and three texts, of a passkey everything.
-/

namespace Librarian.Desktop

open Librarian.Protocol Cursor

/-! ## Reads -/

theorem nonzero_eq_false {n : ℕ} (value : Bytes n) :
    nonzero value.val = false ↔ value.isZero = true := by
  simp [nonzero, Bytes.isZero]

/-- What the client makes of a state of the agent. It does not show the states in which the agent is
starting or shutting down, and takes the other transitions for a locked agent that is busy. -/
def clientResult : AgentState → Except TransportError ClientResult
  | .starting => .error .unavailable
  | .noVault => .ok ⟨.none, .firstRun⟩
  | .locked => .ok ⟨.none, .locked⟩
  | .unlocking => .ok ⟨.busy, .locked⟩
  | .unlocked => .ok ⟨.none, .unlocked⟩
  | .updating => .ok ⟨.busy, .locked⟩
  | .shuttingDown => .error .unavailable

theorem statusResult_code (state : AgentState) :
    statusResult state.code.toUInt64 = clientResult state := by
  cases state <;> rfl

theorem readUnsigned_reads (value : UInt64) :
    Reads readUnsigned (Cbor.unsigned value.toNat) value :=
  fun _ => readUnsigned_eq_ok.mpr rfl

theorem readArray_reads {n : ℕ} (hn : n < 2 ^ 64) :
    Reads readArray (Cbor.array n) (UInt64.ofNat n) := by
  intro rest
  rw [readArray_eq_ok, UInt64.toNat_ofNat', Nat.mod_eq_of_lt hn]

theorem readBytes_reads {maximum : ℕ} (hmaximum : maximum < 2 ^ 64) {value : List UInt8}
    (h : value.length ≤ maximum) : Reads (readBytes maximum) (Cbor.bytes value) value :=
  fun _ => (readBytes_eq_ok hmaximum).mpr ⟨h, rfl⟩

/-- A read, and what follows it up to the end of the input. -/
theorem followed {α β : Type} {x : Reader α} {f : α → Reader β} {bytes bytes' : List UInt8} {a : α}
    {result : Except TransportError (β × List UInt8)} (hx : Reads x bytes a)
    (hf : f a bytes' = result) : (x >>= f) (bytes ++ bytes') = result := by
  change (x (bytes ++ bytes') >>= fun read => f read.1 read.2) = result
  rw [hx]
  exact hf

/-- Of a status the client keeps what it shows of the state. -/
theorem decodeStatusBody_agrees {state : AgentState} {unlock_epoch : UInt64} {body : List UInt8}
    (h : encodeStatus state unlock_epoch = .ok body) :
    decodeStatusBody body = clientResult state := by
  obtain ⟨written, hwritten, hchecked⟩ := Except.bind_eq_ok.mp h
  obtain ⟨-, hsame⟩ := Except.ite_error_eq_ok.mp hchecked
  cases hsame
  obtain rfl := eq_of_writeItems hwritten
  simp only [List.nil_append, List.flatten_cons, List.flatten_nil, List.append_nil]
  have hstate : Reads readUnsigned (encodeU8 state.code) state.code.toUInt64 := by
    have hread := readUnsigned_reads state.code.toUInt64
    rwa [UInt8.toNat_toUInt64] at hread
  have hread : decodeStatusFrom (Cbor.array 2 ++ (encodeU8 state.code ++ (encodeU64 unlock_epoch ++ []))) =
      (clientResult state).map fun result => (result, []) := by
    refine followed (readArray_reads (by norm_num)) ?_
    refine followed hstate (followed (readUnsigned_reads unlock_epoch) ?_)
    change (liftM (statusResult state.code.toUInt64) : Reader ClientResult) [] = _
    rw [statusResult_code]
    cases clientResult state with
    | error e => rfl
    | ok result => rfl
  rw [List.append_nil] at hread
  rw [decodeStatusBody, run, hread]
  cases clientResult state with
  | error e => rfl
  | ok result => rfl

/-! ## Identifiers -/

/-- The digits of the two halves of a byte determine it. -/
theorem hexDigits_inj {a b : UInt8} (hhigh : hexDigit (a >>> 4) = hexDigit (b >>> 4))
    (hlow : hexDigit (a &&& 0x0f) = hexDigit (b &&& 0x0f)) : a = b := by
  have hdigit : ∀ m n : Fin 16, hexDigit (UInt8.ofNat m.val) = hexDigit (UInt8.ofNat n.val) →
      m = n := by decide
  have hshift (c : UInt8) : (c >>> 4).toNat = c.toNat / 16 := by
    rw [UInt8.toNat_shiftRight]
    exact Nat.shiftRight_eq_div_pow _ _
  have hmask (c : UInt8) : (c &&& 0x0f).toNat = c.toNat % 16 := by
    rw [UInt8.toNat_and]
    exact Nat.and_two_pow_sub_one_eq_mod c.toNat 4
  have hinj {c d : UInt8} (hc : c.toNat < 16) (hd : d.toNat < 16) (h : hexDigit c = hexDigit d) :
      c.toNat = d.toNat := by
    rw [← UInt8.ofNat_toNat (x := c), ← UInt8.ofNat_toNat (x := d)] at h
    exact Fin.mk.inj (hdigit ⟨c.toNat, hc⟩ ⟨d.toNat, hd⟩ h)
  have ha := a.toNat_lt
  have hb := b.toNat_lt
  have hdiv := hinj (by rw [hshift]; omega) (by rw [hshift]; omega) hhigh
  have hmod := hinj (by rw [hmask]; omega) (by rw [hmask]; omega) hlow
  rw [hshift, hshift] at hdiv
  rw [hmask, hmask] at hmod
  apply UInt8.toNat_inj.mp
  omega

/-- The text of an identifier determines it. -/
theorem hexText_injective : Function.Injective hexText := by
  intro a b h
  induction a generalizing b with
  | nil =>
    cases b with
    | nil => rfl
    | cons d b => cases h
  | cons c a ih =>
    cases b with
    | nil => cases h
    | cons d b =>
      obtain ⟨hhigh, h⟩ := List.cons_eq_cons.mp h
      obtain ⟨hlow, hrest⟩ := List.cons_eq_cons.mp h
      rw [hexDigits_inj hhigh hlow, ih hrest]

theorem hexIdentifier_eq_ok {n : ℕ} {identifier : Bytes n} (h : identifier.isZero = false) :
    hexIdentifier identifier.val n = .ok (hexText identifier.val) := by
  have hnonzero : ¬nonzero identifier.val = false := by
    rw [nonzero_eq_false, h]
    exact Bool.false_ne_true
  exact if_neg (not_or.mpr ⟨not_not.mpr identifier.property, hnonzero⟩)

/-! ## Listings -/

/-- A loop reads the values that have been written one after another. -/
theorem readMany_reads {α β : Type} {read : Reader α} {encode : β → List UInt8} {value : β → α}
    {values : List β} (h : ∀ b ∈ values, Reads read (encode b) (value b)) :
    Reads (readMany read values.length) (values.flatMap encode) (values.map value) := by
  induction values with
  | nil => exact Reads.pure []
  | cons b values ih =>
    refine (h b List.mem_cons_self).bind ?_
    refine (ih fun b hmem => h b (List.mem_cons_of_mem _ hmem)).bind_last ?_
    exact Reads.pure _

/-- A text, and what follows it. -/
theorem readText_then {β : Type} {maximum : ℕ} (hmaximum : maximum < 2 ^ 64) {value : String}
    (h : value.utf8ByteSize ≤ maximum) {f : String → Reader β} {bytes : List UInt8} {b : β}
    (hf : Reads (f value) bytes b) :
    Reads (readText maximum >>= fun span => liftM (wide span) >>= f : Reader β)
      (Cbor.text value ++ bytes) b := by
  have hspan : Reads (readText maximum) (Cbor.text value) (Utf8.encode value) := by
    intro rest
    rw [readText_eq_ok hmaximum, Utf8.encode_length]
    exact ⟨h, rfl⟩
  have hwide : wide (Utf8.encode value) = .ok value := by
    rw [wide, Utf8.decode_encode]
    rfl
  exact hspan.bind ((Reads.lift hwide).bind_first hf)

/-- What the client keeps of a passkey: everything. -/
def PasskeyEntry.ofView (passkey : PasskeyManagementSummaryView) : PasskeyEntry where
  credential_id := hexText passkey.credential_id.val
  rp_id := passkey.rp_id
  user_name := passkey.user_name
  user_display_name := passkey.user_display_name

/-- What the client keeps of an account: neither its revision nor its times. -/
def AccountSummary.ofView (account : AccountView) : AccountSummary where
  id := hexText account.id.val
  service_name := account.service_name
  origin := account.permitted_origin
  username := account.username

/-- No two passkeys look the same to the client. -/
theorem PasskeyEntry.ofView_injective : Function.Injective PasskeyEntry.ofView := by
  intro a b h
  obtain ⟨hid, hrp, hname, hdisplay⟩ := PasskeyEntry.mk.inj h
  cases a
  cases b
  rw [PasskeyManagementSummaryView.mk.injEq]
  exact ⟨Subtype.ext (hexText_injective hid), hrp, hname, hdisplay⟩

theorem readPasskey_reads {passkey : PasskeyManagementSummaryView} (h : passkey.invalid = false) :
    Reads readPasskey passkey.items.flatten (.ofView passkey) := by
  simp only [PasskeyManagementSummaryView.invalid, decide_eq_false_iff_not, not_or, not_lt,
    Bool.not_eq_true] at h
  obtain ⟨hid, hrp, hrpSize, hname, hnameSize, hdisplay, hdisplaySize⟩ := h
  simp only [PasskeyManagementSummaryView.items, List.flatten_cons, List.flatten_nil]
  unfold readPasskey
  refine (readArray_reads (by norm_num)).bind ?_
  rw [if_neg (by decide)]
  refine (readBytes_reads (by norm_num) passkey.credential_id.property.le).bind ?_
  refine (Reads.lift (hexIdentifier_eq_ok hid)).bind_first ?_
  refine readText_then (by decide) hrpSize (readText_then (by decide) hnameSize ?_)
  refine readText_then (by decide) hdisplaySize ?_
  rw [if_neg (not_or.mpr ⟨hrp, not_or.mpr ⟨hname, hdisplay⟩⟩)]
  exact Reads.pure _

theorem readAccount_reads {account : AccountView} (hbounded : account.Bounded)
    (hid : account.id.isZero = false) :
    Reads readAccount account.summaryItems.flatten (.ofView account) := by
  simp only [AccountView.summaryItems, List.flatten_cons, List.flatten_nil]
  unfold readAccount
  refine (readArray_reads (by norm_num)).bind ?_
  rw [if_neg (by decide)]
  refine (readBytes_reads (by norm_num) account.id.property.le).bind ?_
  refine (readUnsigned_reads account.revision).bind ?_
  refine (readUnsigned_reads account.created_at_ms).bind ?_
  refine (readUnsigned_reads account.modified_at_ms).bind ?_
  refine readText_then (by decide) hbounded.service_name ?_
  refine readText_then (by decide) hbounded.permitted_origin ?_
  refine readText_then (by decide) hbounded.username ?_
  exact (Reads.lift (hexIdentifier_eq_ok hid)).bind_first (Reads.pure _)

/-- The end of a listing, after which nothing may follow. -/
theorem run_of_reads {α : Type} {decoder : Reader α} {bytes : List UInt8} {value : α}
    (h : decoder (bytes ++ []) = .ok (value, [])) : run decoder bytes = .ok value := by
  rw [List.append_nil] at h
  exact run_eq_ok.mpr ⟨[], h⟩

/-- The client recovers every listing of passkeys that the agent can write. -/
theorem decodePasskeyList_agrees {passkeys : List PasskeyManagementSummaryView} {body : List UInt8}
    (h : encodePasskeyManagementSummaries passkeys = .ok body) :
    decodePasskeyList body = .ok (passkeys.map .ofView) := by
  obtain ⟨hlength, hvalid, rfl⟩ := of_encodePasskeyListing h
  have hlength' : passkeys.length ≤ 64 := hlength
  have hcount : (UInt64.ofNat passkeys.length).toNat = passkeys.length := by
    rw [UInt64.toNat_ofNat']
    exact Nat.mod_eq_of_lt (by omega)
  have hmany : Reads (readMany readPasskey passkeys.length) _ _ :=
    readMany_reads fun passkey hmem => readPasskey_reads (hvalid passkey hmem)
  apply run_of_reads
  rw [List.append_assoc]
  refine followed (readArray_reads (by omega)) ?_
  rw [if_neg (by rw [gt_iff_lt, UInt64.lt_iff_toNat_lt, hcount]; exact not_lt.mpr hlength'), hcount]
  exact followed hmany rfl

/-- The head of a number is not that of null. -/
theorem unsigned_eq_cons (n : ℕ) :
    ∃ byte tail, Cbor.unsigned n = byte :: tail ∧ byte ≠ 0xf6 := by
  unfold Cbor.unsigned Cbor.head
  split_ifs with hsmall
  · refine ⟨_, _, rfl, ?_⟩
    intro h
    have hnat := congrArg UInt8.toNat h
    rw [UInt8.toNat_ofNat'] at hnat
    have hvalue : (0xf6 : UInt8).toNat = 246 := rfl
    omega
  · exact ⟨_, _, rfl, by decide⟩
  · exact ⟨_, _, rfl, by decide⟩
  · exact ⟨_, _, rfl, by decide⟩
  · exact ⟨_, _, rfl, by decide⟩

/-- What does not start with null is read as a number. -/
theorem readNextOffset_cons {byte : UInt8} (h : byte ≠ 0xf6) (tail : List UInt8) :
    readNextOffset (byte :: tail) = (do
      let value ← readUnsigned
      if value > 0xffffffff then throw .invalid
      return some value.toUInt32 : Reader (Option UInt32)) (byte :: tail) := by
  unfold readNextOffset
  split
  · next heq => exact absurd (List.cons_eq_cons.mp heq).1 h
  · rfl

theorem readNextOffset_reads (next_offset : Option UInt32) :
    Reads readNextOffset (encodeNextOffset next_offset) next_offset := by
  intro rest
  cases next_offset with
  | none => rfl
  | some offset =>
    change readNextOffset (Cbor.unsigned offset.toNat ++ rest) = _
    obtain ⟨byte, tail, hcons, hne⟩ := unsigned_eq_cons offset.toNat
    have hlt := offset.toNat_lt
    have hsmall : ¬offset.toUInt64 > 0xffffffff := by
      rw [gt_iff_lt, UInt64.lt_iff_toNat_lt, UInt32.toNat_toUInt64]
      exact not_lt.mpr (Nat.lt_succ_iff.mp hlt)
    have hread := readUnsigned_reads offset.toUInt64
    rw [UInt32.toNat_toUInt64] at hread
    rw [hcons, List.cons_append, readNextOffset_cons hne, ← List.cons_append, ← hcons]
    refine (hread.bind_last ?_) rest
    have hsame : offset.toUInt64.toUInt32 = offset := by simp
    rw [if_neg hsmall, hsame]
    exact Reads.pure _

/-- The client recovers what it shows of every page of accounts that the agent can write. -/
theorem decodeAccountPage_agrees {accounts : List AccountView} {next_offset : Option UInt32}
    {body : List UInt8} (h : encodeAccountSummaries accounts next_offset = .ok body)
    (hid : ∀ account ∈ accounts, account.id.isZero = false) :
    decodeAccountPage body = .ok ⟨next_offset, accounts.map .ofView⟩ := by
  obtain ⟨hlength, hbounded, rfl⟩ := of_encodeAccountSummaries h
  have hlength' : accounts.length ≤ 100 := hlength
  have hcount : (UInt64.ofNat accounts.length).toNat = accounts.length := by
    rw [UInt64.toNat_ofNat']
    exact Nat.mod_eq_of_lt (by omega)
  have hmany : Reads (readMany readAccount accounts.length) _ _ :=
    readMany_reads fun account hmem => readAccount_reads (hbounded account hmem) (hid account hmem)
  apply run_of_reads
  unfold accountSummariesBody
  rw [List.append_assoc, List.append_assoc, List.append_assoc]
  refine followed (readArray_reads (by norm_num)) ?_
  refine followed (readNextOffset_reads next_offset) (followed (readArray_reads (by omega)) ?_)
  rw [if_neg (by rw [gt_iff_lt, UInt64.lt_iff_toNat_lt, hcount]; exact not_lt.mpr hlength'), hcount]
  exact followed hmany rfl

end Librarian.Desktop
