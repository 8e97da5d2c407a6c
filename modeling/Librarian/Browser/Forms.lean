import Librarian.Browser.Content
import Librarian.Lib.Fallible
import Mathlib.Data.List.DropRight

/-!
# Sign-in forms

`forms.ts` of the browser extension: which controls of a document are filled. A document is the list
of its controls in tree order, each with what the script reads of it. A form is read through two of
its properties, `elements` and `action`, and both follow the rules of HTML: the collection of a
form's elements leaves image buttons out, and a control of the form that is named after a property
takes the place of the property. The properties of the document itself are taken as they are.
-/

namespace Librarian.Browser

/-! ## Text -/

/-- The characters of `/\s/u`, which `trim` removes. -/
def isSpace (c : Char) : Bool :=
  c.toNat ∈ [0x09, 0x0a, 0x0b, 0x0c, 0x0d, 0x20, 0xa0, 0x1680, 0x2028, 0x2029, 0x202f, 0x205f,
    0x3000, 0xfeff] ∨ 0x2000 ≤ c.toNat ∧ c.toNat ≤ 0x200a

/-- `trim`. -/
def trim (text : List Char) : List Char := (text.dropWhile isSpace).rdropWhile isSpace

/-- Whether an `autocomplete` has a token: `toLowerCase().split(/\s+/u).includes(token)`. The tokens
in question are of ASCII letters that nothing else has for its lower case. -/
def includesToken (autocomplete token : String) : Bool :=
  token.toList ∈ (autocomplete.toList.map Char.toLower).splitOnP isSpace

/-- What both flags of a regular expression take a character for. -/
def foldCase (c : Char) : Char := if c = 'ſ' then 's' else c.toLower

/-- `/^(sign\s*in|log\s*in|login)$/iu`. -/
def isSignInLabel (label : List Char) : Bool :=
  match label.map foldCase with
  | 's' :: 'i' :: 'g' :: 'n' :: rest => rest.dropWhile isSpace = ['i', 'n']
  | 'l' :: 'o' :: 'g' :: rest => rest.dropWhile isSpace = ['i', 'n']
  | _ => false

/-- `/^(user(name)?|email|login|identifier)$/iu`. -/
def isUsernameLabel (label : String) : Bool :=
  String.ofList (label.toList.map foldCase) ∈ ["user", "username", "email", "login", "identifier"]

/-! ## Controls -/

/-- The states of an input's type that are told apart. -/
inductive InputType
  | text
  | email
  | password
  | hidden
  | submit
  | image
  | other
  deriving DecidableEq, Repr

/-- The states of a button's type. -/
inductive ButtonType
  | submit
  | reset
  | button
  deriving DecidableEq, Repr

/-- The elements that can belong to a form. All but `img` are listed elements. -/
inductive Tag
  | input (type : InputType)
  | button (type : ButtonType)
  | select
  | img
  | other
  deriving DecidableEq, Repr

/-- `getBoundingClientRect`. -/
structure Rect where
  width : Rat
  height : Rat
  top : Rat
  left : Rat
  bottom : Rat
  right : Rat
  deriving DecidableEq, Repr

/-- What `writableVisible` reads of an element and its ancestors. -/
structure Styled where
  inert : Bool
  hidden : Bool
  ariaHidden : Option String
  display : String
  visibility : String
  opacity : Rat
  deriving DecidableEq, Repr

/-- An element that belongs to a form, or could. A missing `formaction` is `none`, and one that is
there has been resolved, as the property `formAction` does it. -/
structure Control where
  element : Element
  tag : Tag
  form : Option Element
  name : String
  id : String
  autocomplete : String
  disabled : Bool
  readOnly : Bool
  /-- `matches(":disabled")`. -/
  matchesDisabled : Bool
  /-- The number of `getClientRects`. -/
  clientRects : ℕ
  rect : Rect
  /-- The element itself and its ancestors. -/
  chain : List Styled
  value : String
  textContent : String
  formaction : Option String
  deriving DecidableEq, Repr

/-- The part of a window that is read. -/
structure View where
  innerHeight : Rat
  innerWidth : Rat
  deriving DecidableEq, Repr

namespace Control

/-- `instanceof HTMLInputElement`. -/
def isInput (control : Control) : Bool :=
  match control.tag with
  | .input _ => true
  | _ => false

/-- `instanceof HTMLButtonElement`. -/
def isButton (control : Control) : Bool :=
  match control.tag with
  | .button _ => true
  | _ => false

/-- Submit buttons and submit inputs, as `findFillTargets` looks for them. -/
def isSubmit (control : Control) : Bool :=
  control.tag = .button .submit ∨ control.tag = .input .submit

/-- The controls that can submit their form. -/
def canSubmit (control : Control) : Bool := control.isSubmit ∨ control.tag = .input .image

/-- The label of a submit control. -/
def label (control : Control) : List Char :=
  trim (if control.isInput then control.value else control.textContent).toList

end Control

/-- The loop of `writableVisible`. -/
def shownFrom (depth : ℕ) : List Styled → Bool
  | [] => true
  | element :: rest =>
    if depth ≥ 64 ∨ element.inert ∨ element.hidden ∨ element.ariaHidden = some "true" then false
    else if element.display = "none" ∨ element.visibility ≠ "visible" ∨ element.opacity = 0 then
      false
    else shownFrom (depth + 1) rest

/-- `writableVisible`. -/
def writableVisible (input : Control) (view : View) : Bool :=
  if input.disabled ∨ input.readOnly ∨ input.matchesDisabled ∨ input.tag = .input .hidden ∨
      input.clientRects = 0 then
    false
  else if input.rect.width ≤ 0 ∨ input.rect.height ≤ 0 ∨ input.rect.bottom ≤ 0 ∨
      input.rect.right ≤ 0 ∨ input.rect.top ≥ view.innerHeight ∨
      input.rect.left ≥ view.innerWidth then
    false
  else shownFrom 0 input.chain

/-! ## Documents -/

/-- What `findFillTargets` reads of a document. -/
structure Document where
  URL : String
  /-- `visibilityState === "visible"`. -/
  visible : Bool
  defaultView : Option View
  controls : List Control
  /-- The action of a form, resolved. -/
  action : Element → String
  /-- What a form keeps for a name that an element of it once had. -/
  pastNames : Element → String → Option Control

/-- What a form gives for one of its properties. -/
inductive Property
  | builtIn
  | control (control : Control)
  | list (controls : List Control)

namespace Document

variable (document : Document)

/-- The listed elements of a form, without its image buttons. -/
def elements (form : Element) : List Control :=
  document.controls.filter fun control =>
    control.form = some form ∧ control.tag ≠ .img ∧ control.tag ≠ .input .image

/-- The images of a form. -/
def images (form : Element) : List Control :=
  document.controls.filter fun control => control.form = some form ∧ control.tag = .img

/-- The elements of a form that have a name, or an identifier, and take the place of the property
of this name. -/
def candidates (form : Element) (name : String) : List Control :=
  match (document.elements form).filter fun control => control.name = name ∨ control.id = name with
  | [] => (document.images form).filter fun control => control.name = name ∨ control.id = name
  | controls => controls

/-- A property of a form. -/
def named (form : Element) (name : String) : Property :=
  match document.candidates form name with
  | [] => ((document.pastNames form name).map Property.control).getD .builtIn
  | [control] => .control control
  | controls => .list controls

/-- The loop `for (const element of form.elements)`: what it goes over, unless that is something
that nothing can go over. A selection is gone over by its options. -/
def iterate (form : Element) : Option (List Control) :=
  match document.named form "elements" with
  | .builtIn => some (document.elements form)
  | .control control => if control.tag = .select then some [] else none
  | .list controls => some controls

/-- What `form.elements` is to a loop that goes over it. -/
def walked (form : Element) : List Control := (document.iterate form).getD []

/-- `form?.action ?? document.URL`, where it is a string. -/
def actionOf (form : Option Element) : Option String :=
  match form with
  | none => some document.URL
  | some form =>
    match document.named form "action" with
    | .builtIn => some (document.action form)
    | _ => none

/-- `document.querySelectorAll("input")`. -/
def inputs : List Control := document.controls.filter Control.isInput

/-- The inputs that are visible and can be written. -/
def visibleInputs (view : View) : List Control :=
  document.inputs.filter fun input => writableVisible input view

/-- The passwords among them. -/
def passwords (view : View) : List Control :=
  (document.visibleInputs view).filter fun input => input.tag = .input .password

end Document

/-! ## `findFillTargets` -/

namespace Control

/-- A mark in the `autocomplete` of a control. -/
def marked (control : Control) (token : String) : Bool := includesToken control.autocomplete token

/-- The filter for usernames. -/
def isUsername (input : Control) : Bool :=
  (input.tag = .input .text ∨ input.tag = .input .email) ∧
    (input.marked "username" ∨ input.tag = .input .email ∨
      isUsernameLabel (if input.name ≠ "" then input.name else input.id))

end Control

/-- How `findFillTargets` ends without targets. -/
inductive Refusal
  | null
  | thrown
  deriving DecidableEq, Repr

namespace Document

variable (document : Document) (parse : String → Option Url)

/-- The inputs that are filled together with a password. -/
def group (view : View) (password : Control) : List Control :=
  match password.form with
  | none => [password]
  | some form => (document.visibleInputs view).filter fun input => input.form = some form

/-- Whether the form has one submit control, labelled as that of a login. Of a single control in
the place of `elements`, `Array.from` makes an array without submit controls. -/
def isLogin (form : Element) : Bool :=
  match (document.walked form).filter Control.isSubmit with
  | [control] => isSignInLabel control.label
  | _ => false

/-- Whether the password is that of a login. -/
def isLoginPassword (password : Control) : Bool :=
  password.marked "current-password" ∨ password.form.any document.isLogin

/-- Whether a control has a `formaction` that leads away from the origin. -/
def leadsAway (origin : String) (control : Control) : Bool :=
  (control.isButton ∨ control.isInput) ∧ control.formaction.any fun url =>
    originFromBrowserUrl parse (some (.string url)) ≠ some origin

/-- The loop over the elements of the form. -/
def checkFormactions (origin : String) (form : Option Element) : Except Refusal Unit :=
  match form with
  | none => .ok ()
  | some form =>
    match document.iterate form with
    | none => .error .thrown
    | some elements => if elements.any (leadsAway parse origin) then .error .null else .ok ()

/-- The only element of a list. -/
def only (controls : List Control) : Option Control :=
  match controls with
  | [control] => some control
  | _ => none

/-- The inputs that may be the username. -/
def usernames (view : View) (password : Control) : List Control :=
  (document.group view password).filter Control.isUsername

/-- The checks of `findFillTargets`. -/
def search : Except Refusal FillTargets := do
  let view ← document.defaultView.okOr .null
  let origin ← (originFromBrowserUrl parse (some (.string document.URL))).okOr .null
  if ¬document.visible then throw .null
  if document.inputs.length > 128 then throw .null
  let password ← (only (document.passwords view)).okOr .null
  if password.marked "new-password" then throw .null
  if (document.group view password).any (·.marked "new-password") then throw .null
  if ¬document.isLoginPassword password then throw .null
  -- what is not a string has no origin
  let action ← (document.actionOf password.form).okOr .null
  if originFromBrowserUrl parse (some (.string action)) ≠ some origin then throw .null
  document.checkFormactions parse origin password.form
  if (document.usernames view password).length > 1 then throw .null
  if document.usernames view password = [] ∧ ¬password.marked "current-password" then throw .null
  return ⟨(document.usernames view password).head?.map Control.element, password.element,
    password.form, action⟩

/-- `findFillTargets`. -/
def findFillTargets : Found :=
  match document.search parse with
  | .ok targets => .targets targets
  | .error .null => .nothing
  | .error .thrown => .throws

/-! ## What the targets promise -/

/-- The checks that a document with targets has passed. -/
structure Accepted (view : View) (origin : String) (password : Control) (action : String) :
    Prop where
  seen : document.defaultView = some view
  located : originFromBrowserUrl parse (some (.string document.URL)) = some origin
  visible : document.visible
  sole : document.passwords view = [password]
  unmarked : ∀ input ∈ document.group view password, ¬input.marked "new-password"
  acts : document.actionOf password.form = some action
  home : originFromBrowserUrl parse (some (.string action)) = some origin
  formactions : document.checkFormactions parse origin password.form = .ok ()

/-- The targets of a document that has passed its checks. -/
def targetsOf (view : View) (password : Control) (action : String) : FillTargets :=
  ⟨(document.usernames view password).head?.map Control.element, password.element, password.form,
    action⟩

/-- The promise of the targets: they are in a visible document with a canonical origin, belong
together, and every way to submit them leads to this origin. -/
structure Home (targets : FillTargets) (view : View) (origin : String) (password : Control) :
    Prop where
  seen : document.defaultView = some view
  located : originFromBrowserUrl parse (some (.string document.URL)) = some origin
  canonical : ∃ url, parse origin = some url ∧ url.protocol = "https:" ∧ url.origin = origin
  visible : document.visible
  sole : document.passwords view = [password]
  target : targets.password = password.element ∧ targets.form = password.form
  unmarked : ∀ input ∈ document.visibleInputs view,
    (input = password ∨ password.form.isSome ∧ input.form = password.form) →
      ¬input.marked "new-password"
  username : ∀ element, targets.username = some element → ∃ input ∈ document.visibleInputs view,
    input.element = element ∧ targets.form.isSome ∧ input.form = targets.form
  home : originFromBrowserUrl parse (some (.string targets.action)) = some origin
  acts : ∀ form, targets.form = some form → targets.action = document.action form
  submits : ∀ control ∈ document.controls, control.canSubmit →
    ∀ form, targets.form = some form → control.form = some form →
      ∀ url, control.formaction = some url →
        originFromBrowserUrl parse (some (.string url)) = some origin

/-- Where a control can submit the form of the password, but is not among what `form.elements`
gives to a loop, its `formaction` has the origin of the document. -/
def LeftOutStay : Prop :=
  ∀ view, document.defaultView = some view → ∀ password ∈ document.passwords view,
    ∀ form, password.form = some form → ∀ control ∈ document.controls, control.canSubmit →
      control.form = some form → control ∉ document.walked form →
        ∀ url, control.formaction = some url →
          originFromBrowserUrl parse (some (.string url)) =
            originFromBrowserUrl parse (some (.string document.URL))

variable {document parse}

theorem only_eq_some {controls : List Control} {control : Control} :
    only controls = some control ↔ controls = [control] := by
  cases controls with
  | nil => simp [only]
  | cons first rest =>
    cases rest with
    | nil => simp [only]
    | cons second rest => simp [only]

/-- What a document with targets looks like. -/
theorem of_search {targets : FillTargets} (h : document.search parse = .ok targets) :
    ∃ view origin password action, document.Accepted parse view origin password action ∧
      targets = document.targetsOf view password action := by
  simp only [search, Except.bind_eq_ok, Except.throw_eq, Except.error_bind, Except.ite_error_eq_ok,
    Option.okOr_eq_ok, Except.pure_eq, Except.ok.injEq, List.any_eq_true, not_exists, not_and,
    Classical.not_not, Except.exists_unit_eq, only_eq_some] at h
  obtain ⟨view, hview, origin, horigin, hvisible, -, password, hpassword, -, hunmarked, -, action,
    haction, hhome, hformactions, -, -, htargets⟩ := h
  exact ⟨view, origin, password, action,
    ⟨hview, horigin, hvisible, hpassword, hunmarked, haction, hhome, hformactions⟩, htargets.symm⟩

theorem findFillTargets_eq_targets {targets : FillTargets} :
    document.findFillTargets parse = .targets targets ↔ document.search parse = .ok targets := by
  unfold findFillTargets
  split <;> simp [*]

/-- An origin is what the parser makes of itself. -/
theorem canonical_of_parseHttpsOrigin {value : Option Json} {origin : String}
    (h : parseHttpsOrigin parse value = some origin) :
    ∃ url, parse origin = some url ∧ url.protocol = "https:" ∧ url.origin = origin := by
  unfold parseHttpsOrigin at h
  split at h
  · cases h
  · rename_i text htext
    split at h
    · cases h
    · split at h
      · cases h
      · rename_i parsed hparsed
        split_ifs at h with hcanonical
        obtain ⟨hprotocol, horigin⟩ := not_or.mp hcanonical
        rw [← Option.some.inj h]
        exact ⟨parsed, hparsed, not_not.mp hprotocol, not_not.mp horigin⟩

/-- The origin of a URL is canonical. -/
theorem canonical_of_originFromBrowserUrl {value : Option Json} {origin : String}
    (h : originFromBrowserUrl parse value = some origin) :
    ∃ url, parse origin = some url ∧ url.protocol = "https:" ∧ url.origin = origin := by
  unfold originFromBrowserUrl at h
  split at h
  · cases h
  · split at h
    · cases h
    · split at h
      · cases h
      · split at h
        · cases h
        · split at h
          · cases h
          · exact canonical_of_parseHttpsOrigin h

namespace Accepted

variable {view : View} {origin : String} {password : Control} {action : String}
  (h : document.Accepted parse view origin password action)
include h

theorem password_mem : password ∈ document.passwords view := by
  rw [h.sole]
  exact List.mem_singleton_self password

/-- The password is an input of its own group, and no other input without a form is in it. -/
theorem mem_group {input : Control} (hinput : input ∈ document.visibleInputs view)
    (hgroup : input = password ∨ password.form.isSome ∧ input.form = password.form) :
    input ∈ document.group view password := by
  have hpassword : password ∈ document.visibleInputs view :=
    (List.mem_filter.mp h.password_mem).1
  unfold group
  split
  · rename_i hnone
    obtain hsame | ⟨hsome, -⟩ := hgroup
    · exact List.mem_singleton.mpr hsame
    · rw [hnone] at hsome
      cases hsome
  · rename_i form hform
    obtain rfl | ⟨-, hsame⟩ := hgroup
    · exact List.mem_filter.mpr ⟨hinput, decide_eq_true hform⟩
    · exact List.mem_filter.mpr ⟨hinput, decide_eq_true (hsame.trans hform)⟩

/-- A username is in the form of the password. -/
theorem of_username {element : Element}
    (husername : (document.targetsOf view password action).username = some element) :
    ∃ input ∈ document.visibleInputs view,
      input.element = element ∧ password.form.isSome ∧ input.form = password.form := by
  have hpassword : password.tag = .input .password :=
    of_decide_eq_true (List.mem_filter.mp h.password_mem).2
  obtain ⟨input, hhead, helement⟩ := Option.map_eq_some_iff.mp husername
  obtain ⟨hgroup, hname⟩ := List.mem_filter.mp (List.mem_of_mem_head? hhead)
  unfold group at hgroup
  split at hgroup
  · -- without a form the group is the password, which is no username
    obtain rfl := List.mem_singleton.mp hgroup
    simp [Control.isUsername, hpassword] at hname
  · rename_i form hform
    obtain ⟨hvisible, hsame⟩ := List.mem_filter.mp hgroup
    exact ⟨input, hvisible, helement, by rw [hform]; rfl,
      (of_decide_eq_true hsame).trans hform.symm⟩

/-- The action of the form is read only where nothing takes its place. -/
theorem action_eq {form : Element} (hform : password.form = some form) :
    action = document.action form := by
  have hacts := h.acts
  rw [hform, actionOf] at hacts
  split at hacts
  · exact (Option.some.inj hacts).symm
  · cases hacts

/-- The loop has seen what it goes over. -/
theorem walked_stay {form : Element} (hform : password.form = some form) {control : Control}
    (hmem : control ∈ document.walked form) (hsubmit : control.canSubmit) {url : String}
    (hurl : control.formaction = some url) :
    originFromBrowserUrl parse (some (.string url)) = some origin := by
  have hformactions := h.formactions
  rw [hform, checkFormactions] at hformactions
  unfold walked at hmem
  split at hformactions
  · cases hformactions
  · rename_i elements helements
    rw [helements, Option.getD_some] at hmem
    obtain ⟨hnone, -⟩ := Except.ite_error_eq_ok.mp hformactions
    by_contra haway
    refine hnone (List.any_eq_true.mpr ⟨control, hmem, ?_⟩)
    have hkind : control.isButton ∨ control.isInput := by
      simp only [Control.canSubmit, Control.isSubmit, decide_eq_true_eq] at hsubmit
      obtain (htag | htag) | htag := hsubmit <;>
        simp [Control.isButton, Control.isInput, htag]
    rw [leadsAway, hurl]
    simpa [haway] using hkind

/-- The targets keep their promise where what the loop leaves out does. -/
theorem keeps (hstay : document.LeftOutStay parse) :
    document.Home parse (document.targetsOf view password action) view origin password where
  seen := h.seen
  located := h.located
  canonical := canonical_of_originFromBrowserUrl h.located
  visible := h.visible
  sole := h.sole
  target := ⟨rfl, rfl⟩
  unmarked input hinput hgroup := h.unmarked input (h.mem_group hinput hgroup)
  username element := h.of_username
  home := h.home
  acts form := h.action_eq
  submits control hmem hsubmit form hform hown url hurl := by
    by_cases hwalked : control ∈ document.walked form
    · exact h.walked_stay hform hwalked hsubmit hurl
    · rw [hstay view h.seen password h.password_mem form hform control hmem hsubmit hown hwalked
        url hurl]
      exact h.located

end Accepted

/-- The targets keep their promise exactly where nothing leads away from the origin that the loop
over `form.elements` leaves out. -/
theorem targets_home_iff {targets : FillTargets}
    (h : document.findFillTargets parse = .targets targets) :
    (∃ view origin password, document.Home parse targets view origin password) ↔
      document.LeftOutStay parse := by
  obtain ⟨view, origin, password, action, haccepted, rfl⟩ :=
    of_search (findFillTargets_eq_targets.mp h)
  constructor
  · rintro ⟨view', origin', password', hhome⟩
    intro view'' hseen password'' hpassword form hform control hmem hsubmit hown hwalked url hurl
    obtain rfl : view'' = view' := Option.some.inj (hseen.symm.trans hhome.seen)
    rw [hhome.sole] at hpassword
    obtain rfl := List.mem_singleton.mp hpassword
    rw [hhome.located]
    exact hhome.submits control hmem hsubmit form (hhome.target.2.trans hform) hown url hurl
  · intro hstay
    exact ⟨view, origin, password, haccepted.keeps hstay⟩

end Document

/-! ## A form with an image button -/

/-- The parser on the URLs of the examples. -/
def sampleParse (text : String) : Option Url :=
  if text ∈ ["https://a.example", "https://a.example/", "https://a.example/login"] then
    some ⟨"https:", "https://a.example", "a.example"⟩
  else if text ∈ ["https://b.example", "https://b.example/login"] then
    some ⟨"https:", "https://b.example", "b.example"⟩
  else none

/-- A visible control of the form. -/
def sampleControl (element : Element) (tag : Tag) (autocomplete : String)
    (formaction : Option String) : Control where
  element
  tag
  form := some 0
  name := ""
  id := ""
  autocomplete
  disabled := false
  readOnly := false
  matchesDisabled := false
  clientRects := 1
  rect := ⟨100, 20, 0, 0, 20, 100⟩
  chain := [⟨false, false, none, "block", "visible", 1⟩]
  value := ""
  textContent := ""
  formaction

/-- A document with one form: a current password, and an image button. -/
def sampleForm (formaction : String) : Document where
  URL := "https://a.example/"
  visible := true
  defaultView := some ⟨800, 1200⟩
  controls := [sampleControl 1 (.input .password) "current-password" none,
    sampleControl 2 (.input .image) "" (some formaction)]
  action _ := "https://a.example/login"
  pastNames _ _ := none

/-- What is found in the form. -/
def sampleTargets : FillTargets := ⟨none, 1, some 0, "https://a.example/login"⟩

theorem image_leads_away :
    (sampleForm "https://b.example/login").findFillTargets sampleParse = .targets sampleTargets ∧
      ¬∃ view origin password, (sampleForm "https://b.example/login").Home sampleParse
        sampleTargets view origin password := by
  have hfound : (sampleForm "https://b.example/login").findFillTargets sampleParse =
      .targets sampleTargets := by decide +kernel
  refine ⟨hfound, ?_⟩
  rintro ⟨view, origin, password, hhome⟩
  have hlocated : originFromBrowserUrl sampleParse
      (some (.string (sampleForm "https://b.example/login").URL)) = some "https://a.example" := by
    decide +kernel
  obtain rfl : origin = "https://a.example" :=
    Option.some.inj (hhome.located.symm.trans hlocated)
  have haway := hhome.submits (sampleControl 2 (.input .image) "" (some "https://b.example/login"))
    (List.mem_cons_of_mem _ List.mem_cons_self) rfl 0 rfl rfl "https://b.example/login" rfl
  revert haway
  decide +kernel

theorem image_stays : ∃ view origin password, (sampleForm "https://a.example/login").Home
    sampleParse sampleTargets view origin password := by
  have hfound : (sampleForm "https://a.example/login").findFillTargets sampleParse =
      .targets sampleTargets := by decide +kernel
  refine (Document.targets_home_iff hfound).mpr ?_
  intro view hview password hpassword form hform control hmem hsubmit hown hwalked url hurl
  obtain rfl | hmem := List.mem_cons.mp hmem
  · exact absurd hsubmit (by decide)
  · obtain rfl := List.mem_singleton.mp hmem
    obtain rfl : "https://a.example/login" = url := Option.some.inj hurl
    decide +kernel

end Librarian.Browser
