import Librarian.Browser.ContentRuns
import Librarian.Browser.ControllerRuns

/-!
# Fill in the browser

The content scripts of any number of documents and the service worker, in any interleaving. What
the browser carries between them is an event of the one that it reaches, and it may be anything: a
document relies on no message of the worker, nor the worker on one of a document.
-/

namespace Librarian.Browser

/-- The content scripts and the worker. -/
structure Extension where
  documents : ℕ → ContentScript
  worker : Worker

namespace Extension

variable {api : BrowserApi} {restored : ℕ → Bool} {pages : ℕ → Page}

inductive Event
  | document (document : ℕ) (event : ContentScript.Event)
  | worker (event : Worker.Event)

/-- Every document as it is loaded, and a fresh worker. -/
def load (restored : ℕ → Bool) (pages : ℕ → Page) : Extension where
  documents document := .load (restored document) (pages document)
  worker := {}

def step (api : BrowserApi) (b : Extension) : Event → Extension
  | .document d event =>
    { b with documents := fun d' =>
        if d' = d then (b.documents d').step event else b.documents d' }
  | .worker event => { b with worker := b.worker.step api event }

/-- The part of a document in an interleaving. -/
def ofDocument (document : ℕ) : Event → Option ContentScript.Event
  | .document d event => if d = document then some event else none
  | .worker _ => none

/-- The part of the worker. -/
def ofWorker : Event → Option Worker.Event
  | .document _ _ => none
  | .worker event => some event

/-- A document goes its part of the interleaving. -/
theorem documents_foldl (events : List Event) (b : Extension) (d : ℕ) :
    (events.foldl (step api) b).documents d =
      (events.filterMap (ofDocument d)).foldl ContentScript.step (b.documents d) := by
  induction events generalizing b with
  | nil => rfl
  | cons e events ih =>
    rw [List.foldl_cons, ih]
    cases e with
    | document d' event =>
      by_cases h : d' = d
      · subst h
        simp [step, ofDocument]
      · have h' : d ≠ d' := fun hd => h hd.symm
        simp [step, ofDocument, h, h']
    | worker event =>
      rw [List.filterMap_cons_none rfl]
      rfl

/-- The worker goes its part of the interleaving. -/
theorem worker_foldl (events : List Event) (b : Extension) :
    (events.foldl (step api) b).worker =
      (events.filterMap ofWorker).foldl (Worker.step api) b.worker := by
  induction events generalizing b with
  | nil => rfl
  | cons e events ih =>
    rw [List.foldl_cons, ih]
    cases e with
    | document d event =>
      rw [List.filterMap_cons_none rfl]
      rfl
    | worker event =>
      have hpart : (Event.worker event :: events).filterMap ofWorker =
          event :: events.filterMap ofWorker := List.filterMap_cons_some rfl
      rw [hpart]
      rfl

/-- In any interleaving, an attempt of a document begins once and writes once at most, with nothing
in between that disturbs it and into the document that it has begun with; a document opens one port
at most of its own accord, none when it was restored; and a result reaches a port only by the whole
way of its run, with nothing since the port connected that aborts it. -/
theorem fill_single_shot (api : BrowserApi) (restored : ℕ → Bool) (pages : ℕ → Page)
    (events : List Event) :
    (∀ d, ((events.foldl (step api) (load restored pages)).documents d).begun.Nodup ∧
        ((events.foldl (step api) (load restored pages)).documents d).written.Nodup ∧
        ∀ before attempt page after,
          ((events.foldl (step api) (load restored pages)).documents d).history =
            before ++ .wrote attempt page :: after →
          ∃ snapshot, Undisturbed attempt snapshot before ∧ page.Matches snapshot) ∧
      (∀ d, ((events.foldl (step api) (load restored pages)).documents d).history.countP
            Entry.automatic ≤ (if restored d then 0 else 1) ∧
        ∀ before entry after,
          ((events.foldl (step api) (load restored pages)).documents d).history =
            before ++ entry :: after →
          entry.automatic → .restored ∉ before) ∧
      ∀ before port result after,
        (events.foldl (step api) (load restored pages)).worker.history =
          before ++ .posted port result :: after →
        Delivered api port result before := by
  refine ⟨fun d => ?_, fun d => ?_, ?_⟩
  · rw [documents_foldl]
    exact ContentScript.written_once (restored d) (pages d) _
  · rw [documents_foldl]
    exact ContentScript.opened_once (restored d) (pages d) _
  · rw [worker_foldl]
    exact Worker.posted_validated api _

end Extension

end Librarian.Browser
