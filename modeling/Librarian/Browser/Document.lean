import Librarian.Lib.Json
import Mathlib.Tactic.SplitIfs

/-!
# Browser documents

`origin.ts` and `browser-context.ts` of the browser extension: the origins that take part, and what
ties a request to the document that made it. The browser's URL parser is the parameter `parse`: it
throws where it gives nothing.

A string is a Unicode string, so that a lone surrogate has no place in one. A property that is
missing, or `undefined`, is `none`.
-/

namespace Librarian.Browser

/-- What is read of a `URL`. -/
structure Url where
  protocol : String
  origin : String
  hostname : String
  deriving DecidableEq, Repr

/-- `MAX_ORIGIN_BYTES`. -/
def maxOriginBytes : ℕ := 2048

/-- `MAX_BROWSER_URL_BYTES`. -/
def maxBrowserUrlBytes : ℕ := 16384

/-- The length of a string in JavaScript: its UTF-16 code units. -/
def length (text : String) : ℕ :=
  text.toList.foldl (fun n c => n + if c.toNat < 0x10000 then 1 else 2) 0

/-- The length of what `TextEncoder` makes of a string. -/
def byteLength (text : String) : ℕ := text.utf8ByteSize

/-! ## Origins -/

section Origins

variable (parse : String → Option Url)

/-- `parseHttpsOrigin`. -/
def parseHttpsOrigin (value : Option Json) : Option String :=
  match Json.string? value with
  | none => none
  | some text =>
    if length text > maxOriginBytes then none
    else
      match parse text with
      | none => none
      | some parsed =>
        if parsed.protocol ≠ "https:" ∨ parsed.origin ≠ text then none else some text

/-- The characters of `/[\u0000-\u0020\u007f\\]/u`. -/
def isRepaired (c : Char) : Bool := c.toNat ≤ 0x20 ∨ c.toNat = 0x7f ∨ c = '\\'

/-- The group of `/^https:\/\/([^/?#]+)/iu`. Under both flags an `s` is a long s as well. -/
def authority (text : String) : Option (List Char) :=
  match text.toList with
  | h :: t :: t' :: p :: s :: ':' :: '/' :: '/' :: rest =>
    if h ∈ ['h', 'H'] ∧ t ∈ ['t', 'T'] ∧ t' ∈ ['t', 'T'] ∧ p ∈ ['p', 'P'] ∧ s ∈ ['s', 'S', 'ſ'] ∧
        rest.takeWhile (fun c => c ∉ ['/', '?', '#']) ≠ [] then
      some (rest.takeWhile fun c => c ∉ ['/', '?', '#'])
    else none
  | _ => none

/-- `originFromBrowserUrl`. -/
def originFromBrowserUrl (value : Option Json) : Option String :=
  match Json.string? value with
  | none => none
  | some text =>
    if length text > maxBrowserUrlBytes ∨ byteLength text > maxBrowserUrlBytes ∨
        text.toList.any isRepaired then none
    else
      match authority text with
      | none => none
      | some authority =>
        if '@' ∈ authority then none
        else
          match parse text with
          | none => none
          | some parsed => parseHttpsOrigin parse (some (.string parsed.origin))

end Origins

/-! ## Document identifiers -/

/-- `[0-9A-F]`. -/
def isUpperHex (c : Char) : Bool := '0' ≤ c ∧ c ≤ '9' ∨ 'A' ≤ c ∧ c ≤ 'F'

/-- `[0-9a-f]`. -/
def isLowerHex (c : Char) : Bool := '0' ≤ c ∧ c ≤ '9' ∨ 'a' ≤ c ∧ c ≤ 'f'

/-- Where the hyphens of a document identifier stand. -/
def hyphens : List ℕ := [8, 13, 18, 23]

/-- `/^[0-9a-f]{8}-[0-9a-f]{4}-[0-9a-f]{4}-[0-9a-f]{4}-[0-9a-f]{12}$/u`. -/
def isHyphenated (chars : List Char) : Bool :=
  chars.length = 36 ∧ chars.zipIdx.all fun (c, i) => if i ∈ hyphens then c = '-' else isLowerHex c

/-- The five slices of `protocolDocumentId`, joined with hyphens. -/
def hyphenate (hex : List Char) : List Char :=
  hex.take 8 ++ '-' :: (hex.take 12).drop 8 ++ '-' :: (hex.take 16).drop 12 ++
    '-' :: (hex.take 20).drop 16 ++ '-' :: hex.drop 20

/-- `protocolDocumentId`. -/
def protocolDocumentId (value : String) : Option String :=
  if value.toList.length = 32 ∧ value.toList.all isUpperHex ∧
      value.toList ≠ List.replicate 32 '0' then
    some (String.ofList (hyphenate (value.toList.map Char.toLower)))
  else if isHyphenated value.toList ∧ value ≠ "00000000-0000-0000-0000-000000000000" then some value
  else none

/-! ## Documents -/

/-- Non-secret binding; obtaining this value alone never authorizes disclosure. -/
structure BrowserDocumentContext where
  tabId : ℤ
  frameId : ℤ
  documentId : String
  topLevelOrigin : String
  frameOrigin : String
  deriving DecidableEq, Repr

/-- The extension's identifier, `/^[a-p]{32}$/u`. -/
def isExtensionId (extensionId : String) : Bool :=
  extensionId.toList.length = 32 ∧ extensionId.toList.all fun c => 'a' ≤ c ∧ c ≤ 'p'

/-- A member of a value that may be missing. -/
def property (value : Option Json) (key : String) : Option Json := value.bind (·.get? key)

/-- The checks of `validateBrowserDocument` before its origins, with the identifiers of the tab and
of the document that they are about. -/
def validateIdentity (sender currentFrame : Option Json) (extensionId : String) :
    Option (ℤ × String) :=
  match Json.number? (property (property sender "tab") "id"),
      Json.string? (property sender "documentId") with
  | some tabId, some documentId =>
    if isExtensionId extensionId ∧ Json.string? (property sender "id") = some extensionId ∧
        Json.number? (property sender "frameId") = some 0 ∧
        Json.string? (property sender "documentLifecycle") = some "active" ∧
        0 ≤ tabId ∧ tabId ≤ 0x7fffffff ∧ (protocolDocumentId documentId).isSome ∧
        Json.string? (property currentFrame "documentId") = some documentId ∧
        Json.string? (property currentFrame "documentLifecycle") = some "active" ∧
        Json.string? (property currentFrame "frameType") = some "outermost_frame" ∧
        Json.number? (property currentFrame "parentFrameId") = some (-1) ∧
        Json.bool? (property currentFrame "errorOccurred") = some false then
      some (tabId, documentId)
    else none
  | _, _ => none

/-- `validateBrowserDocument`. -/
def validateBrowserDocument (parse : String → Option Url) (sender currentFrame : Option Json)
    (extensionId : String) : Option BrowserDocumentContext :=
  match validateIdentity sender currentFrame extensionId,
      parseHttpsOrigin parse (property sender "origin") with
  | some (tabId, documentId), some origin =>
    if originFromBrowserUrl parse (property sender "url") ≠ some origin ∨
        originFromBrowserUrl parse (property (property sender "tab") "url") ≠ some origin ∨
        originFromBrowserUrl parse (property currentFrame "url") ≠ some origin then none
    else
      some
        { tabId
          frameId := 0
          documentId
          topLevelOrigin := origin
          frameOrigin := origin }
  | _, _ => none

/-- `sameBrowserDocument`. -/
def sameBrowserDocument (admitted current : BrowserDocumentContext) : Bool :=
  admitted.tabId = current.tabId ∧ admitted.frameId = current.frameId ∧
    admitted.documentId = current.documentId ∧
    admitted.topLevelOrigin = current.topLevelOrigin ∧ admitted.frameOrigin = current.frameOrigin

/-- Two bindings are of the same document when they are equal. -/
theorem sameBrowserDocument_iff {admitted current : BrowserDocumentContext} :
    sameBrowserDocument admitted current ↔ admitted = current := by
  obtain ⟨t, f, d, o, o'⟩ := admitted
  obtain ⟨t', f', d', p, p'⟩ := current
  simp [sameBrowserDocument]

/-- The tab and the document of a binding are the sender's. -/
theorem validateIdentity_eq_some {sender currentFrame : Option Json} {extensionId : String}
    {tabId : ℤ} {documentId : String}
    (h : validateIdentity sender currentFrame extensionId = some (tabId, documentId)) :
    Json.number? (property (property sender "tab") "id") = some tabId ∧
      (0 ≤ tabId ∧ tabId ≤ 0x7fffffff) ∧ (protocolDocumentId documentId).isSome := by
  unfold validateIdentity at h
  split at h
  · rename_i htab hdocument
    split_ifs at h with hchecks
    obtain ⟨-, -, -, -, hlow, hhigh, hspelled, -⟩ := hchecks
    obtain ⟨rfl, rfl⟩ := Prod.mk.inj (Option.some.inj h)
    exact ⟨htab, ⟨hlow, hhigh⟩, hspelled⟩
  · cases h

/-- What a binding says of the sender and of the frame. -/
theorem validateBrowserDocument_eq_some {parse : String → Option Url}
    {sender currentFrame : Option Json} {extensionId : String} {context : BrowserDocumentContext}
    (h : validateBrowserDocument parse sender currentFrame extensionId = some context) :
    validateIdentity sender currentFrame extensionId = some (context.tabId, context.documentId) ∧
      parseHttpsOrigin parse (property sender "origin") = some context.topLevelOrigin ∧
      context.frameId = 0 ∧ context.frameOrigin = context.topLevelOrigin := by
  unfold validateBrowserDocument at h
  split at h
  · rename_i tabId documentId origin hidentity horigin
    split_ifs at h
    obtain rfl := Option.some.inj h
    exact ⟨hidentity, horigin, rfl, rfl⟩
  · cases h

end Librarian.Browser
