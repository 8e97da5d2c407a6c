import Librarian.Protocol.Types

/-!
# Browser contexts and selections

The two values that tie a credential's disclosure to the document that asked for it.
-/

namespace Librarian.Protocol

/-- Bounded browser-observed context; not proof of a website or user gesture. -/
structure BrowserContext where
  request_id : Bytes 16
  tab_id : UInt32
  document_id : Bytes 16
  top_origin : String
  frame_origin : String
  accepted : ¬(request_id.isZero ∨ document_id.isZero ∨ tab_id > 0x7fffffff ∨ top_origin = "" ∨
    top_origin ≠ frame_origin)
  bounded : ¬(top_origin.utf8ByteSize > 2048 ∨ frame_origin.utf8ByteSize > 2048)
  deriving DecidableEq

/-- `BrowserContext::new`. A context of an embedded frame is refused, and the frame is not kept. -/
def BrowserContext.new (request_id : Bytes 16) (tab_id frame_id : UInt32) (document_id : Bytes 16)
    (top_origin frame_origin : String) : Except ProtocolError BrowserContext :=
  if h : request_id.isZero ∨ document_id.isZero ∨ tab_id > 0x7fffffff ∨ top_origin = "" ∨
      top_origin ≠ frame_origin then .error .invariantViolation
  else if frame_id ≠ 0 then .error .invariantViolation
  else if h' : top_origin.utf8ByteSize > 2048 ∨ frame_origin.utf8ByteSize > 2048 then
    .error .tooLarge
  else .ok ⟨request_id, tab_id, document_id, top_origin, frame_origin, h, h'⟩

/-- `BrowserContext::matches`. -/
def BrowserContext.matches (context other : BrowserContext) : Bool :=
  context.request_id = other.request_id ∧ context.tab_id = other.tab_id ∧
    context.document_id = other.document_id ∧ context.top_origin = other.top_origin ∧
    context.frame_origin = other.frame_origin

/-- Contexts match when they are equal. -/
theorem BrowserContext.matches_iff {context other : BrowserContext} :
    context.matches other ↔ context = other := by
  obtain ⟨r, t, d, o, f, _, _⟩ := context
  obtain ⟨r', t', d', o', f', _, _⟩ := other
  simp [BrowserContext.matches]

/-- Single-use, connection-bound selection. No account labels or secrets. -/
structure BrowserSelection where
  token : Bytes 16
  record_id : Bytes 16
  revision : UInt64
  accepted : ¬(token.isZero ∨ record_id.isZero ∨ revision = 0)
  deriving DecidableEq

/-- `BrowserSelection::new`. -/
def BrowserSelection.new (token record_id : Bytes 16) (revision : UInt64) :
    Option BrowserSelection :=
  if h : token.isZero ∨ record_id.isZero ∨ revision = 0 then none
  else some ⟨token, record_id, revision, h⟩

/-- `BrowserSelection::matches`. -/
def BrowserSelection.matches (selection other : BrowserSelection) : Bool :=
  selection.token = other.token ∧ selection.record_id = other.record_id ∧
    selection.revision = other.revision

/-- Selections match when they are equal. -/
theorem BrowserSelection.matches_iff {selection other : BrowserSelection} :
    selection.matches other ↔ selection = other := by
  obtain ⟨t, r, n, _⟩ := selection
  obtain ⟨t', r', n', _⟩ := other
  simp [BrowserSelection.matches]

end Librarian.Protocol
