import Librarian.Core.VaultRun

/-!
# Stored origins and browser origins

The vault normalises the origin of an account component by component, and the agent takes a browser's
origin when it is its own serialisation. Where the URL parser gives back the origin that it has
serialised, both accept the same strings (`browserOrigin_parse_iff`): every account of an https
origin is found under exactly one browser origin, that of its own scheme, host and port
(`origins_meet`).
-/

namespace Librarian.Core

open Librarian.Format

/-- What the `url` crate documents of `http` and `https` URLs: they have a host, and their origin is
serialised as a URL of the same scheme, host and port, with nothing else. -/
structure LawfulUrls (P : Primitives) : Prop where
  host : ∀ value url, P.parseUrl value = some url → url.scheme = "http" ∨ url.scheme = "https" →
    url.host ≠ none ∧ url.origin ≠ "null"
  reparse : ∀ value url, P.parseUrl value = some url →
    url.scheme = "http" ∨ url.scheme = "https" →
    P.parseUrl url.origin = some { url with
      username := "", password := none, query := none, fragment := none, path := "/" }

variable {P : Primitives} {value origin : String}

/-- The checks of `normalize_origin`, all met. -/
theorem normalizeOrigin_eq_ok : normalizeOrigin P value = .ok origin ↔
    value.utf8ByteSize ≤ maxOriginBytes ∧ ∃ url, P.parseUrl value = some url ∧
      (url.scheme = "http" ∨ url.scheme = "https") ∧ url.host ≠ none ∧ url.username = "" ∧
      url.password = none ∧ url.query = none ∧ url.fragment = none ∧ url.path = "/" ∧
      url.origin ≠ "null" ∧ url.origin.utf8ByteSize ≤ maxOriginBytes ∧ url.origin = origin := by
  simp only [normalizeOrigin, Except.throw_eq, Except.error_bind, Except.pure_eq,
    Except.ite_error_eq_ok, Except.bind_eq_ok, Option.okOr_eq_ok, Except.ok.injEq, not_or,
    not_and_or, not_not, ne_eq, not_lt, gt_iff_lt, and_assoc]

/-- The text is a URL of the `https` scheme. -/
def IsHttps (P : Primitives) (value : String) : Prop :=
  ∃ url, P.parseUrl value = some url ∧ url.scheme = "https"

theorem browserOrigin_parse_eq_some {o : BrowserOrigin P}
    (h : BrowserOrigin.parse P value = some o) : o.value = value := by
  unfold BrowserOrigin.parse at h
  split at h
  · cases h
  split at h
  · cases h
  split at h
  · rw [← Option.some.inj h]
  · cases h

theorem browserOrigin_ext {o o' : BrowserOrigin P} (h : o.value = o'.value) : o = o' := by
  cases o
  cases o'
  cases h
  rfl

theorem browserOrigin_parse_isSome : (BrowserOrigin.parse P value).isSome ↔
    value.utf8ByteSize ≤ maxOriginBytes ∧
      ∃ url, P.parseUrl value = some url ∧ url.scheme = "https" ∧ url.origin = value := by
  constructor
  · intro h
    obtain ⟨o, ho⟩ := Option.isSome_iff_exists.mp h
    rw [← browserOrigin_parse_eq_some ho]
    exact o.parsed
  · rintro ⟨hsize, url, hurl, hchecks⟩
    unfold BrowserOrigin.parse
    rw [dif_neg (not_lt.mpr hsize)]
    split
    · rename_i hnone
      exact absurd (hurl.symm.trans hnone) (Option.some_ne_none url)
    · rename_i url' hurl'
      obtain rfl := Option.some.inj (hurl.symm.trans hurl')
      rw [dif_pos hchecks]
      rfl

/-- A normalised origin is its own serialisation, and nothing else is in it. -/
theorem LawfulUrls.normalizeOrigin_idem (hP : LawfulUrls P)
    (h : normalizeOrigin P value = .ok origin) : normalizeOrigin P origin = .ok origin := by
  obtain ⟨-, url, hurl, hscheme, hhost, -, -, -, -, -, hnull, hsize, rfl⟩ :=
    normalizeOrigin_eq_ok.mp h
  have hreparse := hP.reparse value url hurl hscheme
  exact normalizeOrigin_eq_ok.mpr
    ⟨hsize, _, hreparse, hscheme, hhost, rfl, rfl, rfl, rfl, rfl, hnull, hsize, rfl⟩

/-- The two validators accept the same canonical strings. -/
theorem LawfulUrls.browserOrigin_parse_iff (hP : LawfulUrls P) :
    (BrowserOrigin.parse P value).isSome ↔
      normalizeOrigin P value = .ok value ∧ IsHttps P value := by
  rw [browserOrigin_parse_isSome, normalizeOrigin_eq_ok]
  constructor
  · rintro ⟨hsize, url, hurl, hscheme, rfl⟩
    have hweb : url.scheme = "http" ∨ url.scheme = "https" := .inr hscheme
    obtain ⟨hhost, hnull⟩ := hP.host _ _ hurl hweb
    -- The URL is what its own serialisation is parsed as.
    have hsame : url = { url with
        username := "", password := none, query := none, fragment := none, path := "/" } :=
      Option.some.inj (hurl.symm.trans (hP.reparse _ _ hurl hweb))
    refine ⟨⟨hsize, url, hurl, hweb, hhost, ?_, ?_, ?_, ?_, ?_, hnull, hsize, rfl⟩,
      url, hurl, hscheme⟩
    all_goals rw [hsame]
  · rintro ⟨⟨hsize, url, hurl, -, -, -, -, -, -, -, -, -, horigin⟩, url', hurl', hscheme⟩
    obtain rfl := Option.some.inj (hurl.symm.trans hurl')
    exact ⟨hsize, url, hurl, hscheme, horigin⟩

/-! ## Stored accounts -/

/-- An account that is read back has a normalised origin. -/
theorem normalizeOrigin_of_decryptRecord {vault : UnlockedVault} {record : EncryptedRecord}
    {account : WebsiteAccount}
    (h : decryptRecord P vault record = .ok (.websiteAccount account)) :
    normalizeOrigin P account.permitted_origin = .ok account.permitted_origin := by
  simp only [decryptRecord, Except.throw_eq, Except.error_bind, Except.bind_eq_ok,
    Except.mapErr_eq_ok, Option.okOr_eq_ok, Except.ite_error_eq_ok] at h
  obtain ⟨-, -, -, -, -, plaintext, -, kind, -, hresult⟩ := h
  cases kind with
  | websiteAccount =>
    simp only [decryptWebsiteAccountPlaintext, Except.throw_eq, Except.error_bind,
      Except.bind_eq_ok, Except.mapErr_eq_ok, Except.ite_error_eq_ok, Except.pure_eq,
      Except.ok.injEq, DecryptedRecord.websiteAccount.injEq, not_not, ne_eq] at hresult
    obtain ⟨decoded, -, normalized, hnormal, rfl, rfl⟩ := hresult
    exact hnormal
  | passkey =>
    simp only [decryptPasskeyPlaintext, Except.throw_eq, Except.error_bind, Except.bind_eq_ok,
      Except.ite_error_eq_ok, Except.pure_eq, Except.ok.injEq, reduceCtorEq, and_false,
      exists_false] at hresult

/-- The agent finds the account under the origin. -/
def Meets (account : WebsiteAccount) (o : BrowserOrigin P) : Prop :=
  findUnique o.value (none, false) (.websiteAccount account) = (some account, false)

theorem meets_iff {account : WebsiteAccount} {o : BrowserOrigin P} :
    Meets account o ↔ account.permitted_origin = o.value := by
  unfold Meets findUnique
  by_cases h : account.permitted_origin = o.value
  · simp [h]
  · simp [h]

/-- The text is a URL of the same scheme, host and port as the other text. -/
def SameSite (P : Primitives) (value value' : String) : Prop :=
  ∃ url url', P.parseUrl value = some url ∧ P.parseUrl value' = some url' ∧
    url.scheme = url'.scheme ∧ url.host = url'.host ∧ url.port = url'.port

/-- Normalising keeps the scheme, the host and the port. -/
theorem LawfulUrls.sameSite (hP : LawfulUrls P) (h : normalizeOrigin P value = .ok origin) :
    SameSite P value origin := by
  obtain ⟨-, url, hurl, hscheme, -, -, -, -, -, -, -, -, rfl⟩ := normalizeOrigin_eq_ok.mp h
  exact ⟨url, _, hurl, hP.reparse value url hurl hscheme, rfl, rfl, rfl⟩

/-- Stored origins and browser origins meet exactly: normalising is idempotent, the browser's
canonical origins are the normalised ones of the `https` scheme, and an account of an `https` origin
is found under this origin alone. What is saved under a text is found only under an origin of the
text's scheme, host and port. -/
theorem origins_meet (hP : LawfulUrls P) :
    (∀ value origin, normalizeOrigin P value = .ok origin →
      normalizeOrigin P origin = .ok origin) ∧
    (∀ value, (BrowserOrigin.parse P value).isSome ↔
      normalizeOrigin P value = .ok value ∧ IsHttps P value) ∧
    ∀ vault record account, decryptRecord P vault record = .ok (.websiteAccount account) →
      (IsHttps P account.permitted_origin → ∃ o : BrowserOrigin P,
        BrowserOrigin.parse P account.permitted_origin = some o ∧
          o.value = account.permitted_origin ∧ ∀ o' : BrowserOrigin P, Meets account o' ↔ o' = o) ∧
      ∀ o : BrowserOrigin P, Meets account o →
        ∀ value, normalizeOrigin P value = .ok account.permitted_origin →
          SameSite P value o.value := by
  refine ⟨fun _ _ => hP.normalizeOrigin_idem, fun _ => hP.browserOrigin_parse_iff, ?_⟩
  intro vault record account hrecord
  have hnormal := normalizeOrigin_of_decryptRecord hrecord
  refine ⟨fun hhttps => ?_, fun o hmeets value hvalue => ?_⟩
  · obtain ⟨o, ho⟩ := Option.isSome_iff_exists.mp
      (hP.browserOrigin_parse_iff.mpr ⟨hnormal, hhttps⟩)
    have hvalue := browserOrigin_parse_eq_some ho
    refine ⟨o, ho, hvalue, fun o' => ?_⟩
    rw [meets_iff, ← hvalue]
    exact ⟨fun heq => browserOrigin_ext heq.symm, fun heq => by rw [heq]⟩
  · rw [← meets_iff.mp hmeets]
    exact hP.sameSite hvalue

/-- The one URL that the sample parser knows. -/
theorem exampleComPrimitives_parseUrl {url : Url}
    (h : exampleComPrimitives.parseUrl value = some url) : value = "https://example.com" ∧
      url = ⟨"https", some "example.com", "", none, none, none, none, "/",
        "https://example.com"⟩ := by
  have hparse : (if value = "https://example.com" then
      some (⟨"https", some "example.com", "", none, none, none, none, "/",
        "https://example.com"⟩ : Url)
    else none) = some url := h
  split_ifs at hparse with hvalue
  exact ⟨hvalue, (Option.some.inj hparse).symm⟩

theorem exampleComPrimitives_lawfulUrls : LawfulUrls exampleComPrimitives where
  host := by
    intro value url h _
    obtain ⟨-, rfl⟩ := exampleComPrimitives_parseUrl h
    exact ⟨Option.some_ne_none _, by decide⟩
  reparse := by
    intro value url h _
    obtain ⟨-, rfl⟩ := exampleComPrimitives_parseUrl h
    rfl

theorem origins_meet_example :
    (BrowserOrigin.parse exampleComPrimitives "https://example.com").isSome :=
  ((origins_meet exampleComPrimitives_lawfulUrls).2.1 "https://example.com").mpr
    ⟨rfl, ⟨_, rfl, rfl⟩⟩

end Librarian.Core
