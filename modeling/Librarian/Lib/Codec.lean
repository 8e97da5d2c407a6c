import Librarian.Lib.Fallible

/-!
# Canonical codecs

An encoder and a decoder that fit together: what the encoder accepts is read back, and what the
decoder accepts is the encoding of what it returns. Then the accepted byte strings are exactly the
encodings, one for each value.
-/

namespace Codec

variable {α ε ε' : Type} {encode : α → Except ε (List UInt8)}

/-- The decoder is the inverse of the encoder, and accepts nothing else. -/
structure Canonical (encode : α → Except ε (List UInt8)) (decode : List UInt8 → Except ε' α) :
    Prop where
  decode_encode {value : α} {bytes : List UInt8} (h : encode value = .ok bytes) :
    decode bytes = .ok value
  encode_decode {value : α} {bytes : List UInt8} (h : decode bytes = .ok value) :
    encode value = .ok bytes

/-- Two byte strings never decode to the same value. -/
theorem Canonical.bytes_unique {decode : List UInt8 → Except ε' α} (h : Canonical encode decode)
    {value : α} {bytes bytes' : List UInt8}
    (hbytes : decode bytes = .ok value) (hbytes' : decode bytes' = .ok value) : bytes = bytes' :=
  Except.ok.inj ((h.encode_decode hbytes).symm.trans (h.encode_decode hbytes'))

/-- A decoder that refuses bytes which differ from the encoding of the value that it has read. -/
def checked (nonCanonical : ε) (encode : α → Except ε (List UInt8))
    (parse : List UInt8 → Except ε α) (bytes : List UInt8) : Except ε α := do
  let value ← parse bytes
  if (← encode value) ≠ bytes then throw nonCanonical
  return value

/-- What such a decoder accepts. -/
theorem checked_eq_ok {nonCanonical : ε} {parse : List UInt8 → Except ε α} {bytes : List UInt8}
    {value : α} :
    checked nonCanonical encode parse bytes = .ok value ↔
      parse bytes = .ok value ∧ encode value = .ok bytes := by
  unfold checked
  constructor
  · intro h
    obtain ⟨value', hparse, h⟩ := Except.bind_eq_ok.mp h
    obtain ⟨bytes', hencode, h⟩ := Except.bind_eq_ok.mp h
    obtain ⟨hsame, h⟩ := Except.ite_error_eq_ok.mp h
    cases h
    rw [not_not] at hsame
    rw [← hsame]
    exact ⟨hsame ▸ hparse, hencode⟩
  · rintro ⟨hparse, hencode⟩
    rw [hparse, Except.ok_bind, hencode, Except.ok_bind, if_neg (not_not.mpr rfl)]
    rfl

/-- Such a decoder is canonical when its parser reads back what was encoded. -/
theorem Canonical.of_checked {nonCanonical : ε} {parse : List UInt8 → Except ε α}
    (h : ∀ value bytes, encode value = .ok bytes → parse bytes = .ok value) :
    Canonical encode (checked nonCanonical encode parse) where
  decode_encode hencode := checked_eq_ok.mpr ⟨h _ _ hencode, hencode⟩
  encode_decode hdecode := (checked_eq_ok.mp hdecode).2

end Codec
