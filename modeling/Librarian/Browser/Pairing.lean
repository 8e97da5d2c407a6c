import Librarian.Browser.ContentRuns

/-!
# The pending port and the pending attempt

The script knows in two places that a request is under way: by `pendingPort`, and by the attempt
that its state has pending. They go together as long as two things do not happen: that
`findFillTargets` throws while a response is received, after the port has been let go
(`throw_strands_attempt`), and that the document comes back from the history with a port pending.
Then an explicit fill starts an attempt whenever no port is pending (`never_stuck`).
-/

namespace Librarian.Browser.ContentScript

variable {s s' t : ContentScript}

/-- The steps that the condition for the pairing is about. -/
def Calm (s : ContentScript) : Event → Prop
  | .message port _ => s.dispatching = 0 → s.pendingPort = some port → s.page.found ≠ .throws
  | .pageshow persisted => persisted → s.pendingPort = none
  | _ => True

/-- The same ports for the same attempts; some timeouts may have been cleared. -/
structure SamePorts (s s' : ContentScript) : Prop where
  length : s'.openings.length = s.openings.length
  back : ∀ o' ∈ s'.openings, ∃ o ∈ s.openings,
    o.port = o'.port ∧ o.attempt = o'.attempt ∧ (o'.armed → o.armed)
  forth : ∀ o ∈ s.openings, ∃ o' ∈ s'.openings, o'.port = o.port ∧ o'.attempt = o.attempt

theorem SamePorts.of_eq (h : s'.openings = s.openings) : SamePorts s s' where
  length := by rw [h]
  back := by
    rw [h]
    exact fun o ho => ⟨o, ho, rfl, rfl, id⟩
  forth := by
    rw [h]
    exact fun o ho => ⟨o, ho, rfl, rfl⟩

theorem SamePorts.trans (h : SamePorts s t) (h' : SamePorts t s') : SamePorts s s' where
  length := h'.length.trans h.length
  back := by
    intro o'' ho''
    obtain ⟨o', ho', hport', hattempt', harmed'⟩ := h'.back o'' ho''
    obtain ⟨o, ho, hport, hattempt, harmed⟩ := h.back o' ho'
    exact ⟨o, ho, hport.trans hport', hattempt.trans hattempt', fun h => harmed (harmed' h)⟩
  forth := by
    intro o ho
    obtain ⟨o', ho', hport, hattempt⟩ := h.forth o ho
    obtain ⟨o'', ho'', hport', hattempt'⟩ := h'.forth o' ho'
    exact ⟨o'', ho'', hport'.trans hport, hattempt'.trans hattempt⟩

theorem samePorts_clearTimeout (timer : Option Port) (s : ContentScript) :
    SamePorts s (s.clearTimeout timer) where
  length := List.length_map _
  back := by
    intro o' ho'
    obtain ⟨o, ho, rfl⟩ := List.mem_map.mp ho'
    refine ⟨o, ho, ?_⟩
    split_ifs
    · exact ⟨rfl, rfl, fun hon => absurd hon (by simp)⟩
    · exact ⟨rfl, rfl, id⟩
  forth := by
    intro o ho
    refine ⟨_, List.mem_map.mpr ⟨o, ho, rfl⟩, ?_⟩
    split_ifs
    · exact ⟨rfl, rfl⟩
    · exact ⟨rfl, rfl⟩

/-- What holds whenever no handler runs. -/
structure Paired (s : ContentScript) : Prop where
  below : ∀ o ∈ s.openings, o.port < s.openings.length ∧ o.attempt.serial < s.state.next
  distinct : ∀ o ∈ s.openings, ∀ o' ∈ s.openings, o.port = o'.port ↔ o.attempt = o'.attempt
  pending : ∀ port, s.pendingPort = some port →
    ∃ o ∈ s.openings, o.port = port ∧ s.state.pending = some o.attempt
  idle : s.pendingPort = none → s.state.pending = none
  timer : s.pendingTimer = s.pendingPort
  armed : ∀ o ∈ s.openings, o.armed → s.pendingPort = some o.port

theorem Paired.port_iff (h : Paired s) : s.pendingPort = none ↔ s.state.pending = none := by
  refine ⟨h.idle, fun hnone => ?_⟩
  cases hport : s.pendingPort with
  | none => rfl
  | some port =>
    obtain ⟨o, -, -, hpending⟩ := h.pending port hport
    exact absurd (hpending.symm.trans hnone) (Option.some_ne_none _)

theorem load_paired (restored : Bool) (page : Page) : Paired (load restored page) where
  below := fun _ h => absurd h List.not_mem_nil
  distinct := fun _ h => absurd h List.not_mem_nil
  pending := fun _ h => (Option.some_ne_none _ h.symm).elim
  idle := fun _ => rfl
  timer := rfl
  armed := fun _ h => absurd h List.not_mem_nil

/-- What two states with the same ports have in common. -/
theorem Paired.openings (h : Paired s) (hports : SamePorts s s')
    (hnext : s.state.next ≤ s'.state.next) :
    (∀ o ∈ s'.openings, o.port < s'.openings.length ∧ o.attempt.serial < s'.state.next) ∧
      ∀ o ∈ s'.openings, ∀ o' ∈ s'.openings, o.port = o'.port ↔ o.attempt = o'.attempt := by
  refine ⟨fun o' ho' => ?_, fun o₁ ho₁ o₂ ho₂ => ?_⟩
  · obtain ⟨o, ho, hport, hattempt, -⟩ := hports.back o' ho'
    rw [hports.length, ← hport, ← hattempt]
    exact ⟨(h.below o ho).1, (h.below o ho).2.trans_le hnext⟩
  · obtain ⟨o, ho, hport, hattempt, -⟩ := hports.back o₁ ho₁
    obtain ⟨o', ho', hport', hattempt', -⟩ := hports.back o₂ ho₂
    rw [← hport, ← hport', ← hattempt, ← hattempt']
    exact h.distinct o ho o' ho'

/-- What is pending is left alone. -/
theorem Paired.keep (h : Paired s) (hports : SamePorts s s')
    (hnext : s'.state.next = s.state.next) (hpending : s'.state.pending = s.state.pending)
    (hport : s'.pendingPort = s.pendingPort) (htimer : s'.pendingTimer = s.pendingTimer) :
    Paired s' := by
  obtain ⟨hbelow, hdistinct⟩ := h.openings hports hnext.ge
  refine ⟨hbelow, hdistinct, fun port hsome => ?_, ?_, ?_, fun o' ho' harmed' => ?_⟩
  · rw [hport] at hsome
    obtain ⟨o, ho, hopen, hattempt⟩ := h.pending port hsome
    obtain ⟨o', ho', hopen', hattempt'⟩ := hports.forth o ho
    refine ⟨o', ho', hopen'.trans hopen, ?_⟩
    rw [hpending, hattempt']
    exact hattempt
  · rw [hport, hpending]
    exact h.idle
  · rw [hport, htimer]
    exact h.timer
  · obtain ⟨o, ho, hopen, -, harmed⟩ := hports.back o' ho'
    rw [hport, ← hopen]
    exact h.armed o ho (harmed harmed')

/-- Both are given up. -/
theorem Paired.rest (h : Paired s) (hports : SamePorts s s')
    (hnext : s.state.next ≤ s'.state.next) (hpending : s'.state.pending = none)
    (hport : s'.pendingPort = none) (htimer : s'.pendingTimer = none)
    (harmed : ∀ o ∈ s'.openings, o.armed = false) : Paired s' := by
  obtain ⟨hbelow, hdistinct⟩ := h.openings hports hnext
  refine ⟨hbelow, hdistinct, fun port hsome => ?_, fun _ => hpending, ?_, fun o ho hon => ?_⟩
  · exact absurd (hsome.symm.trans hport) (Option.some_ne_none _)
  · rw [htimer, hport]
  · rw [harmed o ho] at hon
    cases hon

/-- No timeout is left once that of the pending port is cleared. -/
theorem Paired.cleared (h : Paired s) : ∀ o ∈ (s.clearTimeout s.pendingPort).openings,
    o.armed = false := by
  intro o' ho'
  obtain ⟨o, ho, rfl⟩ := List.mem_map.mp ho'
  split_ifs with hpending
  · rfl
  · exact Bool.eq_false_iff.mpr fun hon => hpending (h.armed o ho hon)

/-- With no port pending, no timeout is left. -/
theorem Paired.unarmed (h : Paired s) (hport : s.pendingPort = none) :
    ∀ o ∈ s.openings, o.armed = false := by
  intro o ho
  have hoff : o.armed ≠ true := fun hon =>
    Option.some_ne_none _ ((h.armed o ho hon).symm.trans hport)
  exact Bool.eq_false_iff.mpr hoff

/-- A handler gives up what is pending and cancels. -/
theorem Paired.cancelled (h : Paired s) (hopenings : t.openings = s.openings)
    (htimer : t.pendingTimer = s.pendingTimer) (hnext : t.state.next = s.state.next)
    (hpending : t.state.pending = none) : Paired t.cancel := by
  have hclear : t.cancel.openings = (s.clearTimeout s.pendingPort).openings := by
    rw [← h.timer, ← htimer]
    simp only [cancel, clearTimeout, hopenings]
  refine h.rest ((samePorts_clearTimeout s.pendingPort s).trans (SamePorts.of_eq hclear)) hnext.ge
    hpending rfl rfl ?_
  rw [hclear]
  exact h.cleared

/-- What a handler notes does not matter. -/
theorem Paired.note (h : Paired s) (entry : Entry) : Paired (s.note entry) :=
  h.keep (SamePorts.of_eq rfl) rfl rfl rfl rfl

/-! ## The document and its window -/

theorem Paired.edited (h : Paired s) (input : Bool) : Paired (s.edited input) := by
  unfold ContentScript.edited
  split_ifs
  · exact Paired.note (h.cancelled (t := s.stopAutomatic.noteEdit) rfl rfl rfl rfl) _
  · exact h

theorem Paired.popstate (h : Paired s) : Paired s.popstate :=
  Paired.note (h.cancelled (t := s.stopAutomatic.noteEdit) rfl rfl rfl rfl) _

theorem Paired.schedule (h : Paired s) : Paired s.schedule := by
  unfold ContentScript.schedule
  split_ifs
  · exact h
  · exact h.keep (SamePorts.of_eq rfl) rfl rfl rfl rfl

theorem Paired.visibilitychange (h : Paired s) (visible : Bool) :
    Paired (s.visibilitychange visible) := by
  unfold ContentScript.visibilitychange
  split_ifs
  · exact h.schedule
  · exact Paired.note (h.cancelled (t := s.noteEdit.stopAutomatic) rfl rfl rfl rfl) _

theorem Paired.pagehide (h : Paired s) : Paired s.pagehide :=
  Paired.note (h.cancelled (t := { s.stopAutomatic with state := s.state.suspend }) rfl rfl rfl rfl)
    _

/-- A document that comes back with no port pending has none afterwards, and no attempt. -/
theorem Paired.pageshow (h : Paired s) {persisted : Bool}
    (hcalm : persisted → s.pendingPort = none) : Paired (s.pageshow persisted) := by
  unfold ContentScript.pageshow
  split_ifs with hpersisted
  · have hport := hcalm hpersisted
    have hrest : Paired { s.stopAutomatic with state := s.state.suspend.resume } :=
      h.rest (SamePorts.of_eq rfl) le_rfl rfl hport (h.timer.trans hport) (h.unarmed hport)
    exact hrest.note .restored
  · exact h.schedule

theorem Paired.dispatch (h : Paired s) : Paired s.dispatch := by
  unfold ContentScript.dispatch
  split_ifs
  · exact h
  · have hkeep : Paired { s with dispatching := s.dispatching - 1 } :=
      h.keep (SamePorts.of_eq rfl) rfl rfl rfl rfl
    exact hkeep.edited true

/-! ## Ports -/

/-- A port is opened for a new attempt. -/
theorem Paired.connect (h : Paired s) (hport : s.pendingPort = none) {kind : FillKind}
    (snapshot : Snapshot) (hopenings : t.openings = s.openings)
    (hnext : t.state.next = s.state.next + 1)
    (hpending : t.state.pending = some ⟨kind, s.state.next⟩) :
    Paired (t.connect ⟨kind, s.state.next⟩ snapshot) := by
  have hnew : (t.connect ⟨kind, s.state.next⟩ snapshot).openings =
      s.openings ++ [⟨s.openings.length, ⟨kind, s.state.next⟩, snapshot, true⟩] := by
    rw [← hopenings]
    rfl
  have hpendingPort : (t.connect ⟨kind, s.state.next⟩ snapshot).pendingPort =
      some s.openings.length := by
    rw [← hopenings]
    rfl
  refine ⟨?_, ?_, fun port hsome => ?_, fun hnone => ?_, rfl, ?_⟩
  · rw [hnew, List.length_append]
    intro o ho
    have hserial : (t.connect ⟨kind, s.state.next⟩ snapshot).state.next = s.state.next + 1 := hnext
    rw [hserial]
    rcases List.mem_append.mp ho with ho | ho
    · obtain ⟨hbelow, hbelow'⟩ := h.below o ho
      exact ⟨Nat.lt_add_right _ hbelow, Nat.lt_succ_of_lt hbelow'⟩
    · rw [List.mem_singleton.mp ho]
      exact ⟨Nat.lt_succ_self _, Nat.lt_succ_self _⟩
  · rw [hnew]
    intro o ho o' ho'
    -- The new port is above the others, and the new attempt as well.
    have hother {o : Opening} (ho : o ∈ s.openings) :
        o.port ≠ s.openings.length ∧ o.attempt ≠ ⟨kind, s.state.next⟩ := by
      obtain ⟨hbelow, hbelow'⟩ := h.below o ho
      refine ⟨Nat.ne_of_lt hbelow, fun heq => ?_⟩
      rw [heq] at hbelow'
      exact Nat.lt_irrefl _ hbelow'
    rcases List.mem_append.mp ho with ho | ho
    · rcases List.mem_append.mp ho' with ho' | ho'
      · exact h.distinct o ho o' ho'
      · rw [List.mem_singleton.mp ho']
        exact iff_of_false (hother ho).1 (hother ho).2
    · rw [List.mem_singleton.mp ho]
      rcases List.mem_append.mp ho' with ho' | ho'
      · exact iff_of_false (hother ho').1.symm (hother ho').2.symm
      · rw [List.mem_singleton.mp ho']
        exact iff_of_true rfl rfl
  · rw [hpendingPort] at hsome
    rw [hnew]
    exact ⟨_, List.mem_append_right _ (List.mem_singleton_self _), Option.some.inj hsome, hpending⟩
  · exact absurd (hpendingPort.symm.trans hnone) (Option.some_ne_none _)
  · rw [hnew, hpendingPort]
    intro o ho hon
    rcases List.mem_append.mp ho with ho | ho
    · rw [h.unarmed hport o ho] at hon
      cases hon
    · rw [List.mem_singleton.mp ho]

theorem fail_pending (attempt : FillAttempt) (hpending : s.state.pending = some attempt) :
    (s.fail attempt).state.pending = none ∧ (s.fail attempt).state.next = s.state.next := by
  unfold ContentScript.fail FillOnceState.fail
  rw [if_pos hpending]
  exact ⟨rfl, rfl⟩

/-- A handler has failed the attempt and lets its port go, with no timeout left. -/
theorem Paired.released (h : Paired s) {attempt : FillAttempt}
    (hpending : s.state.pending = some attempt) {timer : Option Port} :
    Paired (((s.fail attempt).cancel).clearTimeout timer) := by
  obtain ⟨hnone, hnext⟩ := fail_pending attempt hpending
  have hcancelled : Paired (s.fail attempt).cancel := h.cancelled rfl rfl hnext hnone
  exact hcancelled.keep (samePorts_clearTimeout _ _) rfl rfl rfl rfl

/-- An attempt that has begun with no port pending, up to the end of `begin`. -/
theorem Paired.request (h : Paired s) (hport : s.pendingPort = none) {kind : FillKind}
    (snapshot : Snapshot) (connects posts : Bool) (hopenings : t.openings = s.openings)
    (hports : t.pendingPort = s.pendingPort ∧ t.pendingTimer = s.pendingTimer)
    (hnext : t.state.next = s.state.next + 1)
    (hpending : t.state.pending = some ⟨kind, s.state.next⟩) :
    Paired (t.request ⟨kind, s.state.next⟩ snapshot connects posts).1 := by
  have hconnect := h.connect hport snapshot hopenings hnext hpending
  unfold ContentScript.request
  split
  · -- The connection throws, and the attempt is over.
    obtain ⟨hnone, hsame⟩ := fail_pending ⟨kind, s.state.next⟩ hpending
    have hle : s.state.next ≤ (t.fail ⟨kind, s.state.next⟩).state.next := by
      rw [hsame, hnext]
      exact Nat.le_succ _
    refine h.rest (SamePorts.of_eq hopenings) hle hnone (hports.1.trans hport)
      (hports.2.trans (h.timer.trans hport)) ?_
    have hsameOpenings : (t.fail ⟨kind, s.state.next⟩).openings = s.openings := hopenings
    rw [hsameOpenings]
    exact h.unarmed hport
  split
  · exact hconnect
  · exact hconnect.released hpending

theorem Paired.begin (h : Paired s) (explicit connects posts : Bool) :
    Paired (s.begin explicit connects posts).1 := by
  unfold ContentScript.begin
  split
  · exact h
  rename_i hfree
  have hport : s.pendingPort = none := by simpa using (not_or.mp hfree).2
  split
  · exact h
  · exact h
  rename_i targets htargets
  split
  · exact h
  split
  · exact h.rest (SamePorts.of_eq rfl) le_rfl rfl hport (h.timer.trans hport) (h.unarmed hport)
  split
  · exact h
  rename_i state attempt hattempt
  obtain ⟨kind, rfl, rfl, hbegins, -⟩ := attempt_eq_some hattempt
  have hstate := beginKind_state hbegins
  exact h.request hport _ connects posts rfl ⟨rfl, rfl⟩ (congrArg FillOnceState.next hstate)
    (congrArg FillOnceState.pending hstate)

theorem Paired.tick (h : Paired s) (connects posts : Bool) : Paired (s.tick connects posts) := by
  have hkeep : Paired { s with scheduled := false } :=
    h.keep (SamePorts.of_eq rfl) rfl rfl rfl rfl
  unfold ContentScript.tick
  split
  · exact h
  split
  · exact hkeep
  · exact hkeep.begin false connects posts

theorem Paired.runtimeMessage (h : Paired s) (ownWorker : Bool) (message : Json)
    (connects posts : Bool) : Paired (s.runtimeMessage ownWorker message connects posts) := by
  unfold ContentScript.runtimeMessage
  split
  · exact h.begin true connects posts
  · exact h

/-- The pending port is the one of the pending attempt. -/
theorem Paired.attempt_iff (h : Paired s) {o : Opening} (ho : o ∈ s.openings) :
    s.pendingPort = some o.port ↔ s.state.pending = some o.attempt := by
  cases hport : s.pendingPort with
  | none =>
    rw [h.idle hport]
    exact iff_of_false (Option.some_ne_none _).symm (Option.some_ne_none _).symm
  | some port =>
    obtain ⟨o', ho', rfl, hpending⟩ := h.pending port hport
    rw [hpending, Option.some_inj, Option.some_inj]
    exact h.distinct o' ho' o ho

/-- Once the response is checked nothing is pending any more, unless the check throws. -/
theorem receive_pending {o : Opening} (message : Json)
    (hpending : s.state.pending = some o.attempt) (hfound : s.page.found ≠ .throws) :
    (s.receive o message).state.pending = none ∧
      (s.receive o message).state.next = s.state.next ∧
      (s.receive o message).openings = s.openings ∧
      (s.receive o message).pendingPort = s.pendingPort ∧
      (s.receive o message).pendingTimer = s.pendingTimer := by
  obtain ⟨hnone, hnext⟩ := fail_pending o.attempt hpending
  have hfail := And.intro hnone (And.intro hnext (And.intro (rfl : (s.fail o.attempt).openings = _)
    (And.intro (rfl : (s.fail o.attempt).pendingPort = _)
      (rfl : (s.fail o.attempt).pendingTimer = _))))
  unfold receive
  split
  · rename_i hthrows
    exact absurd hthrows hfound
  · split
    · unfold FillOnceState.complete
      split_ifs
      · exact hfail
      · exact ⟨rfl, rfl, rfl, rfl, rfl⟩
    · exact hfail
  · exact hfail

theorem Paired.message (h : Paired s) {o : Opening} (ho : o ∈ s.openings) (message : Json)
    (hcalm : s.pendingPort = some o.port → s.page.found ≠ .throws) :
    Paired (ContentScript.message o message s) := by
  unfold ContentScript.message
  split_ifs with hstale
  · exact h.keep (samePorts_clearTimeout _ _) rfl rfl rfl rfl
  · have hport : s.pendingPort = some o.port := not_not.mp hstale
    have hforget : (s.clearTimeout (some o.port)).forget o.port =
        { s.clearTimeout s.pendingPort with pendingPort := none, pendingTimer := none } := by
      rw [hport]
      exact if_pos hport
    rw [hforget]
    have hreceived := receive_pending message
      (s := { s.clearTimeout s.pendingPort with pendingPort := none, pendingTimer := none })
      ((h.attempt_iff ho).mp hport) (hcalm hport)
    obtain ⟨hpending, hnext, hopenings, hportNone, htimerNone⟩ := hreceived
    refine h.rest ((samePorts_clearTimeout s.pendingPort s).trans (SamePorts.of_eq hopenings))
      hnext.ge hpending hportNone htimerNone ?_
    rw [hopenings]
    exact h.cleared

/-- Failing an attempt that is not pending. -/
theorem fail_of_ne {attempt : FillAttempt} (h : s.state.pending ≠ some attempt) :
    s.fail attempt = s := by
  unfold ContentScript.fail FillOnceState.fail
  rw [if_neg h]

theorem Paired.disconnected (h : Paired s) {o : Opening} (ho : o ∈ s.openings) :
    Paired (s.disconnected o) := by
  have hkeep : Paired (s.clearTimeout (some o.port)) :=
    h.keep (samePorts_clearTimeout _ _) rfl rfl rfl rfl
  unfold ContentScript.disconnected
  by_cases hport : s.pendingPort = some o.port
  · obtain ⟨hnone, hnext⟩ := fail_pending o.attempt ((h.attempt_iff ho).mp hport)
    have hforget : ((s.clearTimeout (some o.port)).fail o.attempt).forget o.port =
        { (s.clearTimeout s.pendingPort).fail o.attempt with
          pendingPort := none, pendingTimer := none } := by
      rw [hport]
      exact if_pos hport
    rw [hforget]
    exact h.rest ((samePorts_clearTimeout s.pendingPort s).trans (SamePorts.of_eq rfl)) hnext.ge
      hnone rfl rfl h.cleared
  · have hother : (s.clearTimeout (some o.port)).state.pending ≠ some o.attempt :=
      fun hpending => hport ((h.attempt_iff ho).mpr hpending)
    have hforget : (s.clearTimeout (some o.port)).forget o.port = s.clearTimeout (some o.port) :=
      if_neg hport
    rw [fail_of_ne hother, hforget]
    exact hkeep

theorem Paired.expired (h : Paired s) {o : Opening} (ho : o ∈ s.openings) :
    Paired (s.expired o) := by
  have hkeep : Paired (s.clearTimeout (some o.port)) :=
    h.keep (samePorts_clearTimeout _ _) rfl rfl rfl rfl
  unfold ContentScript.expired
  split_ifs with harmed
  · obtain ⟨hnone, hnext⟩ := fail_pending o.attempt
      ((h.attempt_iff ho).mp (h.armed o ho harmed))
    exact hkeep.cancelled rfl rfl hnext hnone
  · exact h

/-! ## Runs -/

theorem Paired.ofPort (h : Paired s) {port : Port} {f : Opening → ContentScript → ContentScript}
    (hf : ∀ o ∈ s.openings, o.port = port → Paired (f o s)) : Paired (s.ofPort port f) := by
  unfold ContentScript.ofPort
  split
  · rename_i o hfind
    exact hf o (List.mem_of_find?_eq_some hfind) (by simpa using List.find?_some hfind)
  · exact h

theorem Paired.queued (h : Paired s) {f : ContentScript → ContentScript}
    (hf : s.dispatching = 0 → Paired (f s)) : Paired (s.queued f) := by
  unfold ContentScript.queued
  split_ifs with hdone
  · exact hf hdone
  · exact h

theorem Paired.step (h : Paired s) (e : Event) (hcalm : Calm s e) : Paired (s.step e) := by
  cases e with
  | page page => exact h.keep (SamePorts.of_eq rfl) rfl rfl rfl rfl
  | edited input => exact h.edited input
  | popstate => exact h.popstate
  | pagehide => exact h.pagehide
  | pageshow persisted => exact h.pageshow hcalm
  | visibilitychange visible => exact h.visibilitychange visible
  | schedule => exact h.schedule
  | dispatch => exact h.dispatch
  | tick connects posts => exact h.queued fun _ => h.tick connects posts
  | runtimeMessage ownWorker message connects posts =>
    exact h.queued fun _ => h.runtimeMessage ownWorker message connects posts
  | message port message =>
    refine h.queued fun hdone => h.ofPort fun o ho hport => h.message ho message ?_
    rw [hport]
    exact hcalm hdone
  | disconnected port => exact h.queued fun _ => h.ofPort fun o ho _ => h.disconnected ho
  | expired port => exact h.queued fun _ => h.ofPort fun o ho _ => h.expired ho

theorem run_paired {restored : Bool} {page : Page} {events : List Event}
    (h : Runs.Along step Calm (load restored page) events) :
    Paired (events.foldl step (load restored page)) :=
  h.invariant (load_paired restored page) fun _ e hpaired hcalm => hpaired.step e hcalm

/-! ## Explicit fills -/

/-- Up to the end of `begin` nothing is taken from the history. -/
theorem request_history (attempt : FillAttempt) (snapshot : Snapshot) (connects posts : Bool)
    (s : ContentScript) : s.history <+: (s.request attempt snapshot connects posts).1.history := by
  unfold ContentScript.request
  split
  · exact List.prefix_rfl
  split
  · exact List.prefix_append _ _
  · exact List.prefix_append _ _

/-- An explicit fill begins an attempt when nothing is pending. -/
theorem begin_explicit {targets : FillTargets} (connects posts : Bool)
    (hactive : s.state.active) (hpending : s.state.pending = none) (hport : s.pendingPort = none)
    (htop : s.page.top) (hsetter : s.page.setter) (hfound : s.page.found = .targets targets) :
    s.history ++ [.began ⟨.explicit, s.state.next⟩ (s.page.snapshot targets)] <+:
      (s.begin true connects posts).1.history := by
  have hattempt : s.attempt true =
      ({ s.state with
          automaticConsumed := true
          pending := some ⟨.explicit, s.state.next⟩
          next := s.state.next + 1 }, some ⟨.explicit, s.state.next⟩) := by
    have hfree : ¬(¬s.state.active ∨ s.state.pending.isSome) := by simp [hactive, hpending]
    exact if_neg hfree
  have hbusy : ¬(¬s.page.top ∨ s.pendingPort.isSome) := by simp [htop, hport]
  unfold ContentScript.begin
  rw [if_neg hbusy, hfound]
  simp only [hsetter, hattempt, not_true_eq_false, if_false, false_and]
  refine List.IsPrefix.trans ?_ (request_history _ _ connects posts _)
  exact List.prefix_rfl

/-- While nothing throws in `findFillTargets` as a response is received, and the document does not
come back from the history with a port pending, a port is pending exactly when an attempt is; and so
an explicit fill begins an attempt in every active document with targets and no port pending. -/
theorem never_stuck (restored : Bool) (page : Page) (events : List Event)
    (hcalm : Runs.Along step Calm (load restored page) events)
    (hs : events.foldl step (load restored page) = s) :
    (s.pendingPort = none ↔ s.state.pending = none) ∧
      ∀ ownWorker message targets connects posts, s.dispatching = 0 → s.pendingPort = none →
        s.state.active → s.page.top → s.page.setter → s.page.found = .targets targets →
        actionNonce ownWorker message ≠ none →
        s.history ++ [.began ⟨.explicit, s.state.next⟩ (s.page.snapshot targets)] <+:
          (s.step (.runtimeMessage ownWorker message connects posts)).history := by
  have hpaired : Paired s := hs ▸ run_paired hcalm
  refine ⟨hpaired.port_iff, ?_⟩
  intro ownWorker message targets connects posts hdone hport hactive htop hsetter hfound hnonce
  obtain ⟨nonce, hsome⟩ := Option.ne_none_iff_exists'.mp hnonce
  have hstep : s.step (.runtimeMessage ownWorker message connects posts) =
      (s.begin true connects posts).1 := by
    simp only [ContentScript.step, ContentScript.queued, ContentScript.runtimeMessage, hdone, hsome,
      if_true]
  rw [hstep]
  exact begin_explicit connects posts hactive (hpaired.idle hport) hport htop hsetter hfound

/-- A document with a sign-in form. -/
def signInPage : Page where
  top := true
  found := .targets ⟨some 0, 1, some 2, "https://example.com/session"⟩
  setter := true
  value := fun _ => ""
  href := "https://example.com/"

/-- The message of the worker for a click on its toolbar button. -/
def toolbarMessage : Json :=
  .object [("kind", .string "explicitFill"),
    ("actionNonce", .string "00000000000000000000000000000000")]

theorem never_stuck_after_disconnect :
    [Entry.began ⟨.automatic, 0⟩ (signInPage.snapshot ⟨some 0, 1, some 2,
        "https://example.com/session"⟩), .opened ⟨.automatic, 0⟩ 0,
      .began ⟨.explicit, 1⟩ (signInPage.snapshot ⟨some 0, 1, some 2,
        "https://example.com/session"⟩)] <+:
      (([Event.tick true true, .disconnected 0].foldl step (load false signInPage)).step
        (.runtimeMessage true toolbarMessage true true)).history :=
  (never_stuck false signInPage [.tick true true, .disconnected 0] ⟨trivial, trivial, trivial⟩
    rfl).2 true toolbarMessage ⟨some 0, 1, some 2, "https://example.com/session"⟩ true true rfl rfl
    rfl rfl rfl rfl (by decide)

/-- The response arrives while a control of the form shadows its list of elements, so that
`findFillTargets` throws. Afterwards the form is as before. -/
def strandingRun : List Event :=
  [.tick true true, .page { signInPage with found := .throws },
    .message 0 (.object [("status", .string "unavailable")]), .page signInPage]

/-- The port has been let go and the attempt stays pending: fills of the form begin nothing. -/
theorem throw_strands_attempt :
    (strandingRun.foldl step (load false signInPage)).pendingPort = none ∧
      (strandingRun.foldl step (load false signInPage)).state.pending = some ⟨.automatic, 0⟩ ∧
      (strandingRun.foldl step (load false signInPage)).state.active ∧
      ((strandingRun.foldl step (load false signInPage)).step
        (.runtimeMessage true toolbarMessage true true)).begun = [⟨.automatic, 0⟩] := by
  decide +kernel

end Librarian.Browser.ContentScript
