import Librarian.Protocol.Requests

/-!
# Frames

A frame is a fixed header of 40 bytes and a payload. The header is not CBOR, and its decoder does not
compare with the encoder: that an accepted header is the encoding of what it decodes to rests on each
of its ranges determining one field.
-/

namespace Librarian.Protocol

/-- `HEADER_BYTES`. -/
def headerBytes : ℕ := 40

/-- `MAGIC`. -/
def magic : List UInt8 := [0x4c, 0x42, 0x49, 0x50]

/-- `HEADER_VERSION`. -/
def headerVersion : UInt8 := 1

/-- `MessageKind as u8`. -/
def MessageKind.code : MessageKind → UInt8
  | clientHello => 1
  | serverHello => 2
  | request => 3
  | response => 4
  | cancel => 5
  | event => 6

/-- `MessageKind::from_u8`. -/
def MessageKind.fromU8 (value : UInt8) : Option MessageKind :=
  if value = 1 then some clientHello
  else if value = 2 then some serverHello
  else if value = 3 then some request
  else if value = 4 then some response
  else if value = 5 then some cancel
  else if value = 6 then some event
  else none

theorem MessageKind.fromU8_code (kind : MessageKind) : fromU8 kind.code = some kind := by
  cases kind <;> rfl

theorem MessageKind.code_of_fromU8 {value : UInt8} {kind : MessageKind}
    (h : fromU8 value = some kind) : kind.code = value := by
  unfold fromU8 at h
  split_ifs at h <;> · cases h; simp_all [code]

/-- Bounded frame-validation failures. -/
inductive FrameError
  | tooLarge
  | malformed
  | invalidHeader
  deriving DecidableEq, Repr

/-! ## Ranges -/

/-- `bytes[start..stop]`. -/
def slice (start stop : ℕ) (bytes : List UInt8) : List UInt8 := (bytes.take stop).drop start

/-- A range and what follows it. -/
theorem slice_append_drop {start stop : ℕ} (h : start ≤ stop) (bytes : List UInt8) :
    slice start stop bytes ++ bytes.drop stop = bytes.drop start := by
  have hskip : bytes.drop stop = (bytes.drop start).drop (stop - start) := by
    rw [List.drop_drop, Nat.add_sub_cancel' h]
  have htake : slice start stop bytes = (bytes.drop start).take (stop - start) := by
    rw [slice, List.drop_take]
  rw [hskip, htake, List.take_append_drop]

theorem slice_length {start stop : ℕ} {bytes : List UInt8} (h : stop ≤ bytes.length) :
    (slice start stop bytes).length = stop - start := by
  simp [slice, h]

/-- A range behind a part of known length. -/
theorem slice_append {start stop n : ℕ} {part rest : List UInt8} (hpart : part.length = n)
    (h : n ≤ start) : slice start stop (part ++ rest) = slice (start - n) (stop - n) rest := by
  subst hpart
  rw [slice, slice, List.take_append, List.drop_append]
  have hnil : (part.take stop).drop start = [] := by
    apply List.drop_eq_nil_of_le
    rw [List.length_take]
    omega
  rw [hnil, List.nil_append, List.length_take]
  by_cases hstop : part.length ≤ stop
  · rw [min_eq_right hstop]
  · have hzero : stop - part.length = 0 := by omega
    simp [hzero]

/-- The range of the first part. -/
theorem slice_part {n : ℕ} {part rest : List UInt8} (hpart : part.length = n) :
    slice 0 n (part ++ rest) = part := by
  subst hpart
  simp [slice]

/-- The range of the last part. -/
theorem slice_last {n : ℕ} {part : List UInt8} (hpart : part.length = n) :
    slice 0 n part = part := by
  subst hpart
  simp [slice]

/-- One byte as a range. -/
theorem slice_byte {i : ℕ} {bytes : List UInt8} (h : i < bytes.length) :
    slice i (i + 1) bytes = [bytes.getD i 0] := by
  rw [slice, List.drop_take, Nat.add_sub_cancel_left, List.take_one, List.head?_drop,
    List.getD_eq_getElem?_getD]
  rw [List.getElem?_eq_getElem h]
  rfl

/-- The number in a range is a machine integer of as many bytes, and is written back as that
range. -/
theorem encode_slice (start : ℕ) {stop : ℕ} {bytes : List UInt8} (h : stop ≤ bytes.length) :
    BigEndian.encode (stop - start)
        (BigEndian.decode (slice start stop bytes) % 2 ^ (8 * (stop - start))) =
      slice start stop bytes := by
  have hlt := BigEndian.decode_lt (slice start stop bytes)
  have hpow : 256 ^ (stop - start) = 2 ^ (8 * (stop - start)) := (Nat.pow_mul 2 8 _).symm
  rw [slice_length h, hpow] at hlt
  rw [Nat.mod_eq_of_lt hlt, ← slice_length h]
  exact BigEndian.encode_decode _

/-! ## Headers -/

namespace Wire

/-- `validate_kind_fields`. -/
def kindFieldsValid (kind : MessageKind) (version : Version) (payload_length : UInt32)
    (connection_id : Bytes 16) (request_id : UInt64) : Bool :=
  let zero_version := decide (version = ⟨0, 0⟩)
  let zero_connection := connection_id.isZero
  let zero_request := decide (request_id = 0)
  match kind with
  | .clientHello => zero_version && zero_connection && zero_request
  | .serverHello | .event => !zero_version && !zero_connection && zero_request
  | .request | .response => !zero_version && !zero_connection && !zero_request
  | .cancel => !zero_version && !zero_connection && !zero_request && payload_length = 0

/-- Validated fixed header. -/
structure FrameHeader where
  kind : MessageKind
  version : Version
  payload_length : UInt32
  connection_id : Bytes 16
  request_id : UInt64
  bounded : payload_length.toNat ≤ maxPayloadBytes
  validated : kindFieldsValid kind version payload_length connection_id request_id = true
  deriving DecidableEq

namespace FrameHeader

/-- `FrameHeader::new`. A length within the limit is a `u32`. -/
def new (kind : MessageKind) (version : Version) (payload_length : ℕ) (connection_id : Bytes 16)
    (request_id : UInt64) : Except FrameError FrameHeader :=
  if h : payload_length ≤ maxPayloadBytes then
    if h' : kindFieldsValid kind version (UInt32.ofNat payload_length) connection_id request_id then
      .ok
        { kind, version, payload_length := UInt32.ofNat payload_length, connection_id, request_id
          bounded := by
            rw [UInt32.toNat_ofNat']
            exact (Nat.mod_le _ _).trans h
          validated := h' }
    else .error .invalidHeader
  else .error .tooLarge

/-- `FrameHeader::encode`. -/
def encode (header : FrameHeader) : List UInt8 :=
  magic ++ ([headerVersion] ++ ([header.kind.code] ++ (BigEndian.encode 2 0 ++
    (BigEndian.encode 2 header.version.major.toNat ++
    (BigEndian.encode 2 header.version.minor.toNat ++
    (BigEndian.encode 4 header.payload_length.toNat ++ (header.connection_id.val ++
    BigEndian.encode 8 header.request_id.toNat)))))))

/-- `FrameHeader::decode`. -/
def decode (bytes : List UInt8) : Except FrameError FrameHeader := do
  if bytes.length ≠ headerBytes then throw .malformed
  if slice 0 4 bytes ≠ magic ∨ bytes.getD 4 0 ≠ headerVersion ∨ slice 6 8 bytes ≠ [0, 0] then
    throw .invalidHeader
  let kind ← (MessageKind.fromU8 (bytes.getD 5 0)).okOr FrameError.invalidHeader
  let version : Version := ⟨UInt16.ofNat (BigEndian.decode (slice 8 10 bytes)),
    UInt16.ofNat (BigEndian.decode (slice 10 12 bytes))⟩
  let payload_length := UInt32.ofNat (BigEndian.decode (slice 12 16 bytes))
  let connection_id ← (Bytes.ofList? 16 (slice 16 32 bytes)).okOr FrameError.malformed
  let request_id := UInt64.ofNat (BigEndian.decode (slice 32 40 bytes))
  new kind version payload_length.toNat connection_id request_id

/-- A header passes the checks of its constructor. -/
theorem new_eq_ok (header : FrameHeader) :
    new header.kind header.version header.payload_length.toNat header.connection_id
      header.request_id = .ok header := by
  have hvalid := header.validated
  unfold new
  rw [dif_pos header.bounded, dif_pos (by rw [UInt32.ofNat_toNat]; exact hvalid)]
  simp only [UInt32.ofNat_toNat]

theorem encode_length (header : FrameHeader) : header.encode.length = headerBytes := by
  have hid := header.connection_id.property
  simp [encode, hid, magic, headerBytes]

/-- The part of a header behind its flags. -/
def encodeTail (header : FrameHeader) : List UInt8 :=
  BigEndian.encode 2 header.version.major.toNat ++
    (BigEndian.encode 2 header.version.minor.toNat ++
    (BigEndian.encode 4 header.payload_length.toNat ++ (header.connection_id.val ++
    BigEndian.encode 8 header.request_id.toNat)))

/-- A range behind the flags. -/
theorem slice_encode (header : FrameHeader) {start stop : ℕ} (h : 8 ≤ start) :
    slice start stop header.encode = slice (start - 8) (stop - 8) header.encodeTail := by
  have hsplit : header.encode =
      (magic ++ ([headerVersion] ++ ([header.kind.code] ++ BigEndian.encode 2 0))) ++
        header.encodeTail := by
    simp [encode, encodeTail]
  rw [hsplit]
  exact slice_append rfl h

/-- The ranges of an encoded header are its fields. -/
theorem decode_encode (header : FrameHeader) : decode header.encode = .ok header := by
  have hmajor := BigEndian.encode_length 2 header.version.major.toNat
  have hminor := BigEndian.encode_length 2 header.version.minor.toNat
  have hlength := BigEndian.encode_length 4 header.payload_length.toNat
  have hid := header.connection_id.property
  have hbyte4 : header.encode.getD 4 0 = headerVersion := by simp [encode, magic]
  have hbyte5 : header.encode.getD 5 0 = header.kind.code := by simp [encode, magic]
  have h04 : slice 0 4 header.encode = magic := slice_part rfl
  have h68 : slice 6 8 header.encode = [0, 0] := by
    simp [encode, magic, slice, BigEndian.encode]
  have h810 : slice 8 10 header.encode = BigEndian.encode 2 header.version.major.toNat := by
    rw [slice_encode header (by norm_num)]
    exact slice_part hmajor
  have h1012 : slice 10 12 header.encode = BigEndian.encode 2 header.version.minor.toNat := by
    rw [slice_encode header (by norm_num), encodeTail, slice_append hmajor (by norm_num)]
    exact slice_part hminor
  have h1216 : slice 12 16 header.encode = BigEndian.encode 4 header.payload_length.toNat := by
    rw [slice_encode header (by norm_num), encodeTail, slice_append hmajor (by norm_num),
      slice_append hminor (by norm_num)]
    exact slice_part hlength
  have h1632 : slice 16 32 header.encode = header.connection_id.val := by
    rw [slice_encode header (by norm_num), encodeTail, slice_append hmajor (by norm_num),
      slice_append hminor (by norm_num), slice_append hlength (by norm_num)]
    exact slice_part hid
  have h3240 : slice 32 40 header.encode = BigEndian.encode 8 header.request_id.toNat := by
    rw [slice_encode header (by norm_num), encodeTail, slice_append hmajor (by norm_num),
      slice_append hminor (by norm_num), slice_append hlength (by norm_num),
      slice_append hid (by norm_num)]
    exact slice_last (BigEndian.encode_length _ _)
  unfold decode
  rw [h04, hbyte4, hbyte5, h68, h810, h1012, h1216, h1632, h3240, header.encode_length,
    MessageKind.fromU8_code, Bytes.ofList?_val,
    BigEndian.decode_encode header.version.major.toNat_lt,
    BigEndian.decode_encode header.version.minor.toNat_lt,
    BigEndian.decode_encode header.payload_length.toNat_lt,
    BigEndian.decode_encode header.request_id.toNat_lt]
  simp only [UInt16.ofNat_toNat, UInt32.ofNat_toNat, UInt64.ofNat_toNat]
  exact header.new_eq_ok

/-- The fields of a header that the constructor accepts. -/
theorem of_new {kind : MessageKind} {version : Version} {payload_length : UInt32}
    {connection_id : Bytes 16} {request_id : UInt64} {header : FrameHeader}
    (h : new kind version payload_length.toNat connection_id request_id = .ok header) :
    header.kind = kind ∧ header.version = version ∧ header.payload_length = payload_length ∧
      header.connection_id = connection_id ∧ header.request_id = request_id := by
  unfold new at h
  split_ifs at h
  cases h
  exact ⟨rfl, rfl, UInt32.ofNat_toNat, rfl, rfl⟩

/-- A header is its ranges. -/
theorem slices_eq {bytes : List UInt8} (h : bytes.length = headerBytes) :
    slice 0 4 bytes ++ (slice 4 5 bytes ++ (slice 5 6 bytes ++ (slice 6 8 bytes ++
      (slice 8 10 bytes ++ (slice 10 12 bytes ++ (slice 12 16 bytes ++ (slice 16 32 bytes ++
      slice 32 40 bytes))))))) = bytes := by
  have hend : slice 32 40 bytes = bytes.drop 32 := by
    have hsplit := slice_append_drop (by norm_num : 32 ≤ 40) bytes
    have hnil : bytes.drop 40 = [] := List.drop_eq_nil_of_le h.le
    rwa [hnil, List.append_nil] at hsplit
  rw [hend, slice_append_drop (by norm_num), slice_append_drop (by norm_num),
    slice_append_drop (by norm_num), slice_append_drop (by norm_num),
    slice_append_drop (by norm_num), slice_append_drop (by norm_num),
    slice_append_drop (by norm_num), slice_append_drop (by norm_num), List.drop_zero]

/-- A header that is accepted is the encoding of what it decodes to. -/
theorem encode_of_decode {bytes : List UInt8} {header : FrameHeader}
    (h : decode bytes = .ok header) : header.encode = bytes := by
  simp only [decode, Except.throw_eq, Except.error_bind, Except.bind_eq_ok, Except.ite_error_eq_ok,
    Option.okOr_eq_ok, not_or, not_not] at h
  obtain ⟨hlength, ⟨hmagic, hversion, hflags⟩, kind, hkind, connection_id, hid, hnew⟩ := h
  obtain ⟨rfl, hv, hp, rfl, hr⟩ := of_new hnew
  have hlength' : bytes.length = 40 := hlength
  have h45 : [headerVersion] = slice 4 5 bytes := by rw [slice_byte (by omega), hversion]
  have h56 : [header.kind.code] = slice 5 6 bytes := by
    rw [slice_byte (by omega), MessageKind.code_of_fromU8 hkind]
  have h68 : BigEndian.encode 2 0 = slice 6 8 bytes := hflags.symm
  have h810 : BigEndian.encode 2 header.version.major.toNat = slice 8 10 bytes := by
    rw [hv, UInt16.toNat_ofNat']
    exact encode_slice 8 (by omega : 10 ≤ bytes.length)
  have h1012 : BigEndian.encode 2 header.version.minor.toNat = slice 10 12 bytes := by
    rw [hv, UInt16.toNat_ofNat']
    exact encode_slice 10 (by omega : 12 ≤ bytes.length)
  have h1216 : BigEndian.encode 4 header.payload_length.toNat = slice 12 16 bytes := by
    rw [hp, UInt32.toNat_ofNat']
    exact encode_slice 12 (by omega : 16 ≤ bytes.length)
  have h1632 : header.connection_id.val = slice 16 32 bytes := by
    unfold Bytes.ofList? at hid
    split_ifs at hid
    rw [← Option.some.inj hid]
  have h3240 : BigEndian.encode 8 header.request_id.toNat = slice 32 40 bytes := by
    rw [hr, UInt64.toNat_ofNat']
    exact encode_slice 32 (by omega : 40 ≤ bytes.length)
  calc header.encode
      = slice 0 4 bytes ++ (slice 4 5 bytes ++ (slice 5 6 bytes ++ (slice 6 8 bytes ++
          (slice 8 10 bytes ++ (slice 10 12 bytes ++ (slice 12 16 bytes ++ (slice 16 32 bytes ++
          slice 32 40 bytes))))))) := by
        rw [encode, h45, h56, h68, h810, h1012, h1216, h1632, h3240, hmagic]
    _ = bytes := slices_eq hlength

/-- `FrameHeader` has one encoding per value. -/
theorem canonical : Codec.Canonical (infallible encode) decode where
  decode_encode {header bytes} h := by
    cases h
    exact header.decode_encode
  encode_decode h := congrArg Except.ok (encode_of_decode h)

/-- The header that a connection works with. -/
def view (header : FrameHeader) : Protocol.FrameHeader where
  kind := header.kind
  version := header.version
  payload_length := header.payload_length.toNat
  connection_id := header.connection_id
  request_id := header.request_id.toNat

end FrameHeader

/-! ## Frames -/

/-- One validated frame. -/
structure Frame where
  header : FrameHeader
  payload : List UInt8
  sized : header.payload_length.toNat = payload.length
  deriving DecidableEq

namespace Frame

/-- `Frame::new`. -/
def new (header : FrameHeader) (payload : List UInt8) : Except FrameError Frame :=
  if h : header.payload_length.toNat = payload.length then .ok ⟨header, payload, h⟩
  else .error .malformed

/-- `Frame::decode`. The sum of the two lengths is far below what a `usize` can hold. -/
def decode (bytes : List UInt8) : Except FrameError Frame := do
  if bytes.length < headerBytes then throw .malformed
  let header ← FrameHeader.decode (bytes.take headerBytes)
  if bytes.length ≠ headerBytes + header.payload_length.toNat then throw .malformed
  new header (bytes.drop headerBytes)

/-- `Frame::encode`. -/
def encode (frame : Frame) : Except FrameError (List UInt8) :=
  if headerBytes + frame.payload.length < 2 ^ 64 then .ok (frame.header.encode ++ frame.payload)
  else .error .tooLarge

/-- `Frame` has one encoding per value. -/
theorem canonical : Codec.Canonical encode decode where
  decode_encode {frame bytes} h := by
    unfold encode at h
    split_ifs at h
    cases h
    have hheader := frame.header.encode_length
    have htake : (frame.header.encode ++ frame.payload).take headerBytes = frame.header.encode := by
      rw [← hheader, List.take_left]
    have hdrop : (frame.header.encode ++ frame.payload).drop headerBytes = frame.payload := by
      rw [← hheader, List.drop_left]
    have hlength : (frame.header.encode ++ frame.payload).length =
        headerBytes + frame.header.payload_length.toNat := by
      rw [List.length_append, hheader, frame.sized]
    unfold decode
    rw [if_neg (by omega), htake, hdrop, FrameHeader.decode_encode, Except.ok_bind,
      if_neg (not_not.mpr hlength), new, dif_pos frame.sized]
  encode_decode {frame bytes} h := by
    simp only [decode, Except.throw_eq, Except.error_bind, Except.bind_eq_ok,
      Except.ite_error_eq_ok, not_not] at h
    obtain ⟨-, header, hheader, hlength, hnew⟩ := h
    unfold new at hnew
    split_ifs at hnew with hsized
    cases hnew
    have hbound := header.bounded
    have hfits : headerBytes + (bytes.drop headerBytes).length < 2 ^ 64 := by
      rw [← hsized]
      unfold maxPayloadBytes at hbound
      unfold headerBytes
      omega
    unfold encode
    rw [if_pos hfits, FrameHeader.encode_of_decode hheader, List.take_append_drop]

end Frame

end Wire

/-- The codecs of the agent protocol are bijections between the values that can be encoded and the
byte strings that are accepted. A request body is decoded with an operation code, and yields a request
for that operation; and the operation that is peeked at before the authorization of a request is that
of the request. -/
theorem protocol_codecs :
    Codec.Canonical (infallible ClientHello.encode) ClientHello.decode ∧
    Codec.Canonical (infallible ServerHello.encode) ServerHello.decode ∧
    Codec.Canonical (infallible EndpointDescriptor.encode) EndpointDescriptor.decode ∧
    Codec.Canonical Wire.RequestEnvelope.encode Wire.RequestEnvelope.decode ∧
    Codec.Canonical ResponseEnvelope.encode ResponseEnvelope.decode ∧
    (∀ request bytes, OperationRequest.encode request = .ok bytes →
      OperationRequest.decode request.operation bytes = .ok request) ∧
    (∀ operation bytes request, OperationRequest.decode operation bytes = .ok request →
      request.encode = .ok bytes ∧ request.operation = operation) ∧
    Codec.Canonical (infallible AgentEvent.encode) AgentEvent.decode ∧
    Codec.Canonical BrowserSelection.encodeOptional BrowserSelection.decodeOptional ∧
    Codec.Canonical BrowserCredential.encode BrowserCredential.decode ∧
    Codec.Canonical (infallible Wire.FrameHeader.encode) Wire.FrameHeader.decode ∧
    Codec.Canonical Wire.Frame.encode Wire.Frame.decode ∧
    ∀ bytes request, Wire.RequestEnvelope.decode bytes = .ok request →
      Wire.RequestEnvelope.peekOperation bytes = .ok request.operation := by
  refine ⟨ClientHello.canonical, ServerHello.canonical, EndpointDescriptor.canonical,
    Wire.RequestEnvelope.canonical, ResponseEnvelope.canonical, ?_, ?_, AgentEvent.canonical,
    BrowserSelection.canonical, BrowserCredential.canonical, Wire.FrameHeader.canonical,
    Wire.Frame.canonical, ?_⟩
  · intro request bytes h
    exact OperationRequest.decode_encode h
  · intro operation bytes request h
    exact ⟨OperationRequest.encode_decode h, OperationRequest.operation_of_decode h⟩
  · intro bytes request h
    exact Wire.RequestEnvelope.peekOperation_of_decode h

end Librarian.Protocol
