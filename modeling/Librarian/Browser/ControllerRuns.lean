import Librarian.Browser.FillController
import Librarian.Lib.Chronicle
import Librarian.Lib.Runs

/-!
# Runs of the fill controller

Whatever happens to the worker, a result reaches a port only by the whole way of a run: a valid
frame, the permission, the native host, the same document, the permission; and nothing that aborts
the port's request has happened since it connected (`Worker.posted_validated`).

The way that a suspended run has come is `Passed`. A request keeps its `Trail`, and a step either
takes one run further or leaves each run where it is.
-/

namespace Librarian.Browser

open Chronicle

variable {api : BrowserApi}

/-- What aborts the request of a port: a navigation of its tab's main frame, the removal of its tab
or of a permission, the end of the port, or of the worker. -/
def WorkerEntry.Interrupts (port : ℕ) (tabId : Option ℤ) : WorkerEntry → Prop
  | navigated tab | removed tab => some tab = tabId
  | revoked | restarted => True
  | disconnected p | expired p => p = port
  | connected _ _ | framed _ _ | permitted _ _ _ | asked _ _ | answered _ _ | posted _ _
  | presented _ _ => False

/-- The way that a run has come when it waits for an answer. -/
inductive Passed (api : BrowserApi) (port : ℕ) (sender : Option Json) :
    Await → List WorkerEntry → Prop
  | frame (message : Json) : Passed api port sender (.frame message) []
  | permission {context : BrowserDocumentContext} {pattern : String} {frame : Option Json}
      (hframe : validateBrowserDocument api.parse sender frame api.id = some context)
      (hpattern : Worker.permissionPattern api context = some pattern) :
      Passed api port sender (.permission context pattern) [.framed port frame]
  | credential {context : BrowserDocumentContext} {pattern : String} {way : List WorkerEntry}
      (h : Passed api port sender (.permission context pattern) way) :
      Passed api port sender (.credential context pattern)
        (way ++ [.permitted port pattern true, .asked port context])
  | frameAgain {context : BrowserDocumentContext} {pattern : String} {way : List WorkerEntry}
      (result : FillResult) (h : Passed api port sender (.credential context pattern) way) :
      Passed api port sender (.frameAgain context pattern result) (way ++ [.answered port result])
  | permissionAgain {context current : BrowserDocumentContext} {pattern : String}
      {result : FillResult} {way : List WorkerEntry} {frame : Option Json}
      (h : Passed api port sender (.frameAgain context pattern result) way)
      (hframe : validateBrowserDocument api.parse sender frame api.id = some current)
      (hsame : sameBrowserDocument context current) :
      Passed api port sender (.permissionAgain context pattern result) (way ++ [.framed port frame])

/-- What the history says of a request: since its port connected nothing has aborted it, unless it
is aborted, and its run has come the whole way to where it is. -/
structure Trail (api : BrowserApi) (port : ℕ) (history : List WorkerEntry) (r : FillPort) :
    Prop where
  tab : r.tabId = Json.number? (property (property r.sender "tab") "id")
  closed : r.finished → r.aborted
  since : ∃ before after, history = before ++ .connected port r.sender :: after ∧
    (r.aborted = false → ∀ e ∈ after, ¬e.Interrupts port r.tabId) ∧
    ∀ await, r.await = some await → ∃ way, Passed api port r.sender await way ∧ way.Sublist after

/-- A result that has been posted with every reason. -/
def Delivered (api : BrowserApi) (port : ℕ) (result : FillResult) (history : List WorkerEntry) :
    Prop :=
  ∃ sender frame context pattern frame' current before after,
    history = before ++ .connected port sender :: after ∧
      validateBrowserDocument api.parse sender frame api.id = some context ∧
      validateBrowserDocument api.parse sender frame' api.id = some current ∧
      sameBrowserDocument context current ∧
      Worker.permissionPattern api context = some pattern ∧
      [.framed port frame, .permitted port pattern true, .asked port context,
        .answered port result, .framed port frame', .permitted port pattern true].Sublist after ∧
      ∀ e ∈ after, ¬e.Interrupts port (some context.tabId)

namespace Trail

variable {port : ℕ} {history : List WorkerEntry} {r r' : FillPort}

/-- The history goes on, and the run stays where it is or ends. -/
theorem append (h : Trail api port history r) (entries : List WorkerEntry)
    (hsender : r'.sender = r.sender) (htab : r'.tabId = r.tabId)
    (hclosed : r'.finished → r'.aborted)
    (haborted : r'.aborted = false →
      r.aborted = false ∧ ∀ e ∈ entries, ¬e.Interrupts port r.tabId)
    (hawait : ∀ await, r'.await = some await → r.await = some await) :
    Trail api port (history ++ entries) r' where
  tab := by
    rw [htab, hsender]
    exact h.tab
  closed := hclosed
  since := by
    obtain ⟨before, after, rfl, hquiet, hway⟩ := h.since
    refine ⟨before, after ++ entries, ?_, fun hlive e he => ?_, fun await h' => ?_⟩
    · rw [List.append_assoc, List.cons_append, hsender]
    · obtain ⟨hlive, hentries⟩ := haborted hlive
      rw [htab]
      rcases List.mem_append.mp he with he | he
      · exact hquiet hlive e he
      · exact hentries e he
    · obtain ⟨way, hpassed, hsub⟩ := hway await (hawait await h')
      rw [hsender]
      exact ⟨way, hpassed, hsub.trans (List.sublist_append_left after entries)⟩

/-- The run of a request that is not aborted comes one step further. -/
theorem advance (h : Trail api port history r) {await next : Await} {entries : List WorkerEntry}
    (hawait : r.await = some await)
    (hentries : ∀ e ∈ entries, ¬e.Interrupts port r.tabId)
    (hpassed : ∀ way, Passed api port r.sender await way →
      Passed api port r.sender next (way ++ entries)) :
    Trail api port (history ++ entries) { r with await := some next } where
  tab := h.tab
  closed := h.closed
  since := by
    obtain ⟨before, after, rfl, hquiet, hway⟩ := h.since
    refine ⟨before, after ++ entries, ?_, fun hlive e he => ?_, fun await' hnext => ?_⟩
    · rw [List.append_assoc, List.cons_append]
    · rcases List.mem_append.mp he with he | he
      · exact hquiet hlive e he
      · exact hentries e he
    · obtain rfl := Option.some.inj hnext
      obtain ⟨way, hway, hsub⟩ := hway await hawait
      exact ⟨way ++ entries, hpassed way hway, hsub.append_right entries⟩

theorem close (h : Trail api port history r) {entries : List WorkerEntry} :
    Trail api port (history ++ entries) r.close := by
  unfold FillPort.close
  split_ifs with hfinished
  · exact h.append entries rfl rfl h.closed
      (fun hlive => absurd (h.closed hfinished) (by rw [hlive]; exact Bool.false_ne_true))
      fun _ => id
  · exact h.append entries rfl rfl (fun _ => rfl) (fun hlive => Bool.noConfusion hlive) fun _ => id

theorem settle (h : Trail api port history r) {entries : List WorkerEntry} :
    Trail api port (history ++ entries) r.settle := by
  have hclose : Trail api port (history ++ entries) r.close := h.close
  rw [← List.append_nil (history ++ entries)]
  exact hclose.append [] rfl rfl hclose.closed
    (fun hlive => ⟨hlive, fun _ he => absurd he List.not_mem_nil⟩)
    fun _ hnone => (Option.some_ne_none _ hnone.symm).elim

/-- The request is aborted, or it does not mind the entry. -/
theorem abort (h : Trail api port history r) {p : FillPort → Bool} {entry : WorkerEntry}
    (hentry : p r = false → ¬entry.Interrupts port r.tabId) :
    Trail api port (history ++ [entry])
      (if ¬r.finished ∧ p r then { r with aborted := true } else r) := by
  split_ifs with hactive
  · exact h.append [entry] rfl rfl (fun _ => rfl) (fun hlive => Bool.noConfusion hlive) fun _ => id
  · refine h.append [entry] rfl rfl h.closed (fun hlive => ⟨hlive, fun e he => ?_⟩) fun _ => id
    have hopen : ¬r.finished := fun hfinished => Bool.false_ne_true (hlive ▸ h.closed hfinished)
    have hnot : p r = false := Bool.eq_false_iff.mpr fun hp => hactive ⟨hopen, hp⟩
    rw [List.mem_singleton.mp he]
    exact hentry hnot

/-- A run starts to wait for its first answer. -/
theorem start (h : Trail api port history r) (message : Json) :
    Trail api port history { r with await := some (.frame message) } where
  tab := h.tab
  closed := h.closed
  since := by
    obtain ⟨before, after, hhistory, hquiet, -⟩ := h.since
    refine ⟨before, after, hhistory, hquiet, fun await hawait => ?_⟩
    obtain rfl := Option.some.inj hawait
    exact ⟨[], .frame message, List.nil_sublist after⟩

theorem run (h : Trail api port history r) (message : Json) :
    Trail api port history (Worker.run message r) := by
  unfold Worker.run
  split_ifs
  · exact h.start message
  · rw [← List.append_nil history]
    exact h.settle

/-- The whole way of a run, at its last answer. -/
theorem delivered {context : BrowserDocumentContext} {pattern : String} {result : FillResult}
    (h : Trail api port history r)
    (hawait : r.await = some (.permissionAgain context pattern result))
    (hlive : r.aborted = false) :
    Delivered api port result (history ++ [.permitted port pattern true]) := by
  obtain ⟨before, after, rfl, hquiet, hway⟩ := h.since
  obtain ⟨way, hpassed, hsub⟩ := hway _ hawait
  cases hpassed with
  | permissionAgain hpassed hcurrent hsame =>
    cases hpassed with
    | frameAgain _ hpassed =>
      cases hpassed with
      | credential hpassed =>
        cases hpassed with
        | permission hframe hpattern =>
          refine ⟨r.sender, _, context, pattern, _, _, before,
            after ++ [.permitted port pattern true], ?_, hframe, hcurrent, hsame, hpattern, ?_, ?_⟩
          · rw [List.append_assoc, List.cons_append]
          · exact hsub.append_right [.permitted port pattern true]
          · have htab : r.tabId = some context.tabId := h.tab.trans
              (validateIdentity_eq_some (validateBrowserDocument_eq_some hframe).1).1
            intro e he
            rw [← htab]
            rcases List.mem_append.mp he with he | he
            · exact hquiet hlive e he
            · rw [List.mem_singleton.mp he]
              exact id

end Trail

namespace Worker

variable {w w' : Worker} {port : ℕ}

/-- What holds of the worker in every run. -/
structure Tracked (api : BrowserApi) (w : Worker) : Prop where
  trails : ∀ port r, w.requests port = some r → Trail api port w.history r
  posts : Always (fun before entry => ∀ port result, entry = .posted port result →
    Delivered api port result before) w.history

/-- The requests and the history are the same. -/
theorem Tracked.congr (h : Tracked api w) (hrequests : w'.requests = w.requests)
    (hhistory : w'.history = w.history) : Tracked api w' where
  trails := by
    rw [hrequests, hhistory]
    exact h.trails
  posts := by
    rw [hhistory]
    exact h.posts

/-- Each request goes its own step, and the history goes on with entries that post nothing. -/
theorem Tracked.map (h : Tracked api w) {f : ℕ → FillPort → FillPort} (entries : List WorkerEntry)
    (hrequests : ∀ port, w'.requests port = (w.requests port).map (f port))
    (hhistory : w'.history = w.history ++ entries)
    (hposts : ∀ e ∈ entries, ∀ port result, e ≠ .posted port result)
    (htrails : ∀ port r, w.requests port = some r → Trail api port w.history r →
      Trail api port (w.history ++ entries) (f port r)) : Tracked api w' where
  trails := by
    intro port r' hr'
    rw [hrequests, Option.map_eq_some_iff] at hr'
    obtain ⟨r, hr, rfl⟩ := hr'
    rw [hhistory]
    exact htrails port r hr (h.trails port r hr)
  posts := by
    rw [hhistory]
    exact h.posts.append fun e he _ port result hpost => absurd hpost (hposts e he port result)

/-- The request of one port goes a step. -/
theorem Tracked.modify (h : Tracked api w) {f : FillPort → FillPort} (entries : List WorkerEntry)
    (hrequests : w'.requests = (w.modify port f).requests)
    (hhistory : w'.history = w.history ++ entries)
    (hposts : ∀ e ∈ entries, ∀ port result, e ≠ .posted port result)
    (hothers : ∀ e ∈ entries, ∀ p tab, p ≠ port → ¬e.Interrupts p tab)
    (htrail : ∀ r, w.requests port = some r → Trail api port w.history r →
      Trail api port (w.history ++ entries) (f r)) : Tracked api w' := by
  refine h.map (f := fun p r => if p = port then f r else r) entries (fun p => ?_) hhistory hposts
    fun p r hr htrail' => ?_
  · rw [hrequests, Worker.modify]
    dsimp only
    split_ifs
    · rfl
    · exact Option.map_id'.symm
  · by_cases hp : p = port
    · subst hp
      rw [if_pos rfl]
      exact htrail r hr htrail'
    · rw [if_neg hp]
      exact htrail'.append entries rfl rfl htrail'.closed
        (fun hlive => ⟨hlive, fun e he => hothers e he p r.tabId hp⟩) fun _ => id

/-- A run ends. -/
theorem Tracked.settle (h : Tracked api w) (port : ℕ) : Tracked api (w.settle port) :=
  h.modify [] rfl (List.append_nil _).symm (by simp) (by simp) fun _ _ htrail => htrail.settle

/-- An entry that interrupts nothing and posts nothing. -/
theorem Tracked.note (h : Tracked api w) {entry : WorkerEntry}
    (hposts : ∀ port result, entry ≠ .posted port result)
    (hquiet : ∀ port tab, ¬entry.Interrupts port tab) : Tracked api (w.note entry) := by
  refine h.map (f := fun _ r => r) [entry] (fun _ => Option.map_id'.symm) rfl
    (fun e he => ?_) fun port r _ htrail => ?_
  · rw [List.mem_singleton.mp he]
    exact hposts
  · refine htrail.append [entry] rfl rfl htrail.closed (fun hlive => ⟨hlive, fun e he => ?_⟩)
      fun _ => id
    rw [List.mem_singleton.mp he]
    exact hquiet port r.tabId

theorem Tracked.fail (h : Tracked api w) (port : ℕ) (r : FillPort) :
    Tracked api (w.fail port r) := by
  unfold Worker.fail
  split_ifs
  · exact h.settle port
  · exact (h.settle port).note (fun _ _ => WorkerEntry.noConfusion) fun _ _ => id

/-! ## Events -/

theorem Tracked.connect (h : Tracked api w) (name : String) (sender : Option Json) :
    Tracked api (w.connect api name sender) := by
  unfold Worker.connect
  split_ifs
  · exact h.congr rfl rfl
  · refine ⟨fun port r hr => ?_, h.posts.snoc fun _ _ hpost => WorkerEntry.noConfusion hpost⟩
    change (if port = w.ports then _ else w.requests port) = some r at hr
    split_ifs at hr with hport
    · obtain rfl := Option.some.inj hr
      subst hport
      exact ⟨rfl, fun hfinished => Bool.noConfusion hfinished, w.history, [], rfl,
        fun _ _ he => absurd he List.not_mem_nil,
        fun _ hnone => (Option.some_ne_none _ hnone.symm).elim⟩
    · have htrail := h.trails port r hr
      refine htrail.append [_] rfl rfl htrail.closed (fun hlive => ⟨hlive, fun e he => ?_⟩)
        fun _ => id
      rw [List.mem_singleton.mp he]
      exact id

theorem Tracked.message (h : Tracked api w) (port : ℕ) (message : Json) :
    Tracked api (Worker.message port message w) := by
  refine h.modify [] rfl (List.append_nil _).symm (by simp) (by simp) fun r _ htrail => ?_
  split_ifs
  · exact htrail.close
  · have hreceived : Trail api port (w.history ++ []) { r with received := true } :=
      htrail.append [] rfl rfl htrail.closed
        (fun hlive => ⟨hlive, fun _ he => absurd he List.not_mem_nil⟩) fun _ => id
    exact hreceived.run message

/-- The end of a port closes its request, and others do not mind. -/
theorem Tracked.ended (h : Tracked api w) {port : ℕ} {entry : WorkerEntry}
    (hposts : ∀ port result, entry ≠ .posted port result)
    (hothers : ∀ p tab, p ≠ port → ¬entry.Interrupts p tab) :
    Tracked api (Worker.note entry (w.modify port FillPort.close)) := by
  refine h.modify [entry] rfl rfl (fun e he => ?_) (fun e he => ?_) fun _ _ htrail => htrail.close
  · rw [List.mem_singleton.mp he]
    exact hposts
  · rw [List.mem_singleton.mp he]
    exact hothers

theorem Tracked.disconnected (h : Tracked api w) (port : ℕ) : Tracked api (w.disconnected port) :=
  h.ended (fun _ _ => WorkerEntry.noConfusion) fun _ _ hother hport => hother hport.symm

theorem Tracked.expired (h : Tracked api w) (port : ℕ) : Tracked api (w.expired port) :=
  h.ended (fun _ _ => WorkerEntry.noConfusion) fun _ _ hother hport => hother hport.symm

/-- An entry is noted, and the requests that it interrupts are aborted. -/
theorem Tracked.aborted (h : Tracked api w) {p : FillPort → Bool} {entry : WorkerEntry}
    (hrequests : w'.requests = (w.abort p).requests) (hhistory : w'.history = w.history ++ [entry])
    (hposts : ∀ port result, entry ≠ .posted port result)
    (hentry : ∀ port r, p r = false → ¬entry.Interrupts port r.tabId) : Tracked api w' := by
  refine h.map [entry] (fun port => congrFun hrequests port) hhistory (fun e he => ?_)
    fun port r _ htrail => htrail.abort (hentry port r)
  rw [List.mem_singleton.mp he]
  exact hposts

theorem Tracked.navigated (h : Tracked api w) (tabId frameId : ℤ) :
    Tracked api (w.navigated tabId frameId) := by
  unfold Worker.navigated
  split_ifs
  · refine h.aborted rfl rfl (fun _ _ => WorkerEntry.noConfusion) fun port r hother htab => ?_
    exact of_decide_eq_false hother htab.symm
  · exact h

theorem Tracked.tabRemoved (h : Tracked api w) (tabId : ℤ) : Tracked api (w.tabRemoved tabId) := by
  refine h.aborted (p := fun r => r.tabId = some tabId) rfl rfl
    (fun _ _ => WorkerEntry.noConfusion) fun port r hother htab => ?_
  exact of_decide_eq_false hother htab.symm

theorem Tracked.permissionRemoved (h : Tracked api w) : Tracked api w.permissionRemoved :=
  h.aborted (p := fun _ => true) rfl rfl (fun _ _ => WorkerEntry.noConfusion)
    fun _ _ hnever => Bool.noConfusion hnever

/-- A restart leaves no request. -/
theorem Tracked.restart (h : Tracked api w) :
    Tracked api { ports := w.ports, history := w.history ++ [.restarted] } where
  trails := fun _ _ hr => (Option.some_ne_none _ hr.symm).elim
  posts := h.posts.snoc fun _ _ hpost => WorkerEntry.noConfusion hpost

/-! ## Runs that go on -/

/-- A run comes to its next `await`. -/
theorem Tracked.wait (h : Tracked api w) {r : FillPort} {await next : Await}
    (entries : List WorkerEntry) (hr : w.requests port = some r) (hawait : r.await = some await)
    (hrequests : w'.requests = (w.wait port next).requests)
    (hhistory : w'.history = w.history ++ entries)
    (hposts : ∀ e ∈ entries, ∀ port result, e ≠ .posted port result)
    (hquiet : ∀ e ∈ entries, ∀ port tab, ¬e.Interrupts port tab)
    (hpassed : ∀ way, Passed api port r.sender await way →
      Passed api port r.sender next (way ++ entries)) : Tracked api w' := by
  refine h.modify entries hrequests hhistory hposts (fun e he p tab _ => hquiet e he p tab)
    fun r' hr' htrail => ?_
  obtain rfl := Option.some.inj (hr'.symm.trans hr)
  exact htrail.advance hawait (fun e he => hquiet e he port r'.tabId) hpassed

theorem admit_requests (message : Json) (context : BrowserDocumentContext) (now : ℕ) (w : Worker) :
    (w.admitted message context now).1.requests = w.requests ∧
      (w.admitted message context now).1.history = w.history := by
  unfold admitted
  split_ifs <;> exact ⟨rfl, rfl⟩

theorem Tracked.onFrame (h : Tracked api w) {r : FillPort} {message : Json}
    (hr : w.requests port = some r) (hawait : r.await = some (.frame message))
    (frame : Option Json) (now : ℕ) :
    Tracked api (w.onFrame api port r message frame now) := by
  unfold Worker.onFrame
  split
  · exact h.settle port
  · rename_i context hframe
    obtain ⟨hrequests, hhistory⟩ := admit_requests message context now w
    have hadmit : Tracked api (w.admitted message context now).1 := h.congr hrequests hhistory
    split
    · exact h.settle port
    split
    · exact hadmit.settle port
    split
    · exact hadmit.fail port r
    rename_i pattern hpattern
    refine hadmit.wait [.framed port frame] (hrequests ▸ hr) hawait rfl rfl (by simp)
      (fun e he => ?_) fun way hway => ?_
    · rw [List.mem_singleton.mp he]
      exact fun _ _ => id
    · cases hway
      exact .permission hframe hpattern

theorem Tracked.onPermission (h : Tracked api w) {r : FillPort} {context : BrowserDocumentContext}
    {pattern : String} (hr : w.requests port = some r)
    (hawait : r.await = some (.permission context pattern)) (held : Bool) :
    Tracked api (w.onPermission port r context pattern held) := by
  unfold Worker.onPermission
  split_ifs with hstop
  · exact h.settle port
  · obtain rfl : held = true := by
      by_contra hheld
      exact hstop (.inl hheld)
    refine h.wait [.permitted port pattern true, .asked port context] hr hawait rfl
      (List.append_assoc _ _ _) (by simp) (fun e he => ?_) fun way hway => .credential hway
    rcases List.mem_pair.mp he with rfl | rfl
    · exact fun _ _ => id
    · exact fun _ _ => id

theorem Tracked.onCredential (h : Tracked api w) {r : FillPort} {context : BrowserDocumentContext}
    {pattern : String} (hr : w.requests port = some r)
    (hawait : r.await = some (.credential context pattern)) (result : FillResult) :
    Tracked api (w.onCredential port r context pattern result) := by
  unfold Worker.onCredential
  split_ifs
  · exact h.settle port
  · refine h.wait [.answered port result] hr hawait rfl rfl (by simp) (fun e he => ?_)
      fun way hway => .frameAgain result hway
    rw [List.mem_singleton.mp he]
    exact fun _ _ => id

theorem Tracked.onFrameAgain (h : Tracked api w) {r : FillPort} {context : BrowserDocumentContext}
    {pattern : String} {result : FillResult} (hr : w.requests port = some r)
    (hawait : r.await = some (.frameAgain context pattern result)) (frame : Option Json) :
    Tracked api (w.onFrameAgain api port r context pattern result frame) := by
  unfold Worker.onFrameAgain
  split
  · exact h.settle port
  · rename_i current hframe
    split_ifs with hsame
    · refine h.wait [.framed port frame] hr hawait rfl rfl (by simp) (fun e he => ?_)
        fun way hway => .permissionAgain hway hframe hsame
      rw [List.mem_singleton.mp he]
      exact fun _ _ => id
    · exact h.settle port

theorem Tracked.onPermissionAgain (h : Tracked api w) {r : FillPort}
    {context : BrowserDocumentContext} {pattern : String} {result : FillResult}
    (hr : w.requests port = some r)
    (hawait : r.await = some (.permissionAgain context pattern result)) (held posts : Bool) :
    Tracked api (w.onPermissionAgain port r context pattern result held posts) := by
  have hpermitted : Tracked api (w.note (.permitted port pattern held)) :=
    h.note (fun _ _ => WorkerEntry.noConfusion) fun _ _ => id
  unfold Worker.onPermissionAgain
  split
  · exact h.settle port
  rename_i hstop
  split
  · obtain rfl : held = true := by
      by_contra hheld
      exact hstop (.inl hheld)
    have hlive : r.aborted = false := Bool.eq_false_iff.mpr fun haborted => hstop (.inr haborted)
    have hposted : Tracked api
        (Worker.note (WorkerEntry.posted port result) (w.note (.permitted port pattern true))) := by
      refine ⟨fun port' r' hr' => ?_, hpermitted.posts.snoc fun port' result' hpost => ?_⟩
      · have htrail := hpermitted.trails port' r' hr'
        refine htrail.append [_] rfl rfl htrail.closed (fun hlive => ⟨hlive, fun e he => ?_⟩)
          fun _ => id
        rw [List.mem_singleton.mp he]
        exact id
      · obtain ⟨rfl, rfl⟩ := WorkerEntry.posted.inj hpost
        exact (h.trails port r hr).delivered hawait hlive
    exact (hposted.note (fun _ _ => WorkerEntry.noConfusion) fun _ _ => id).settle port
  · exact hpermitted.fail port r

theorem Tracked.resume (h : Tracked api w) {f : FillPort → Worker → Worker}
    (hf : ∀ r, w.requests port = some r → Tracked api (f r w)) : Tracked api (w.resume port f) := by
  unfold Worker.resume
  split
  · rename_i r hr
    exact hf r hr
  · exact h

theorem Tracked.resumeFrame (h : Tracked api w) {r : FillPort} (hr : w.requests port = some r)
    (frame : Option Json) (now : ℕ) : Tracked api (w.resumeFrame api port frame now r) := by
  unfold Worker.resumeFrame
  split
  · rename_i hawait
    exact h.onFrame hr hawait frame now
  · rename_i hawait
    exact h.onFrameAgain hr hawait frame
  · exact h

theorem Tracked.resumePermission (h : Tracked api w) {r : FillPort} (hr : w.requests port = some r)
    (held posts : Bool) : Tracked api (w.resumePermission port held posts r) := by
  unfold Worker.resumePermission
  split
  · rename_i hawait
    exact h.onPermission hr hawait held
  · rename_i hawait
    exact h.onPermissionAgain hr hawait held posts
  · exact h

theorem Tracked.resumeCredential (h : Tracked api w) {r : FillPort} (hr : w.requests port = some r)
    (result : FillResult) : Tracked api (w.resumeCredential port result r) := by
  unfold Worker.resumeCredential
  split
  · rename_i hawait
    exact h.onCredential hr hawait result
  · exact h

theorem Tracked.resumeRefused (h : Tracked api w) (port : ℕ) (r : FillPort) :
    Tracked api (w.resumeRefused port r) := by
  unfold Worker.resumeRefused
  split
  · exact h.fail port r
  · exact h

/-! ## Toolbar actions -/

theorem Tracked.explicit (h : Tracked api w) (tabId : Option ℤ) :
    Tracked api (w.explicit tabId) := by
  unfold Worker.explicit
  split
  · exact h.congr rfl rfl
  · exact h

theorem Tracked.explicitFrame (h : Tracked api w) (click : ToolbarAction) (frame : Option Json)
    (bytes : Bytes 16) (now : ℕ) : Tracked api (w.explicitFrame api click frame bytes now) := by
  unfold Worker.explicitFrame
  split
  · split_ifs
    · exact h.congr rfl rfl
    · exact h.congr rfl rfl
  · exact h.congr rfl rfl

theorem Tracked.explicitResponse (h : Tracked api w) (click : ToolbarAction)
    (response : Option Json) : Tracked api (w.explicitResponse click response) := by
  unfold Worker.explicitResponse
  split_ifs
  · exact h.congr rfl rfl
  · have hcongr : Tracked api
        { w with actions := mapDelete click.tabId w.actions, clicks := w.clicks.erase click } :=
      h.congr rfl rfl
    exact hcongr.note (fun _ _ => WorkerEntry.noConfusion) fun _ _ => id

/-! ## Runs -/

theorem Tracked.step (h : Tracked api w) (e : Event) : Tracked api (w.step api e) := by
  cases e with
  | connect name sender => exact h.connect name sender
  | message port message => exact h.message port message
  | disconnected port => exact h.disconnected port
  | expired port => exact h.expired port
  | navigated tabId frameId => exact h.navigated tabId frameId
  | tabRemoved tabId => exact h.tabRemoved tabId
  | permissionRemoved => exact h.permissionRemoved
  | restart => exact h.restart
  | frame port frame now => exact h.resume fun r hr => h.resumeFrame hr frame now
  | permission port held posts => exact h.resume fun r hr => h.resumePermission hr held posts
  | credential port result => exact h.resume fun r hr => h.resumeCredential hr result
  | refused port => exact h.resume fun r _ => h.resumeRefused port r
  | explicit tabId => exact h.explicit tabId
  | explicitFrame click frame bytes now =>
    unfold Worker.step
    dsimp only
    split_ifs
    · exact h.explicitFrame _ frame bytes now
    · exact h
  | explicitResponse click response =>
    unfold Worker.step
    dsimp only
    split_ifs
    · exact h.explicitResponse _ response
    · exact h

theorem tracked_initial (api : BrowserApi) : Tracked api {} where
  trails := fun _ _ hr => (Option.some_ne_none _ hr.symm).elim
  posts := always_nil

/-- Whatever happens, a result that is posted to a port has been delivered with every reason. -/
theorem posted_validated (api : BrowserApi) (events : List Event) :
    ∀ before port result after,
      (events.foldl (Worker.step api) {}).history = before ++ .posted port result :: after →
      Delivered api port result before := by
  have htracked := Runs.invariant events (tracked_initial api) fun _ e h => h.step e
  exact fun before port result after hsplit =>
    htracked.posts before _ after hsplit port result rfl

end Worker

end Librarian.Browser
