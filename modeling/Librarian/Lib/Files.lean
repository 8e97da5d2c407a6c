import Librarian.Lib.Bytes
import Librarian.Lib.Conc.Environment

/-!
# Files and their names

A directory, and programs of calls on it of which each may fail. Others may move between any two
calls of a program: they may give one name, the public one, to other files or to none. They do not
write to files that exist, and they do not know the file that the program has created until it has
the public name.

A scene keeps, with the directory, what the program itself has made of the public name, and what
that name has stood for at some time. So it can be said of a program, whatever the others do, that
it changes the name at most once and to a complete file; and when the others let the name alone,
that the name stands for what the program has made of it.
-/

namespace Files

open Conc

variable {Name : Type}

/-- The files of a directory, by their identities. -/
structure Directory (Name : Type) where
  names : Name → Option ℕ
  contents : ℕ → List UInt8
  /-- An identity that no file has had. -/
  next : ℕ
  bounded : ∀ name file, names name = some file → file < next

/-- What a name stands for: a file and its bytes. -/
abbrev Entry : Type := Option (ℕ × List UInt8)

namespace Directory

/-- No files. -/
def empty : Directory Name := ⟨fun _ => none, fun _ => [], 0, fun _ _ h => nomatch h⟩

/-- What a name stands for. -/
def entry (d : Directory Name) (name : Name) : Entry :=
  (d.names name).map fun file => (file, d.contents file)

variable {d : Directory Name} {name other source target : Name} {file : ℕ}

@[simp]
theorem entry_eq_none : d.entry name = none ↔ d.names name = none :=
  Option.map_eq_none_iff

theorem entry_of_names (h : d.names name = some file) :
    d.entry name = some (file, d.contents file) := by
  rw [entry, h]
  rfl

theorem names_of_entry {bytes : List UInt8} (h : d.entry name = some (file, bytes)) :
    d.names name = some file ∧ d.contents file = bytes := by
  obtain ⟨found, hnames, heq⟩ := Option.map_eq_some_iff.mp h
  cases heq
  exact ⟨hnames, rfl⟩

/-- A name stands for what it stood for when it has its file, and the file its bytes. -/
theorem entry_congr {d' : Directory Name} (hnames : d'.names name = d.names name)
    (hcontents : ∀ file, d.names name = some file → d'.contents file = d.contents file) :
    d'.entry name = d.entry name := by
  rw [entry, entry, hnames]
  cases hfile : d.names name with
  | none => rfl
  | some file => rw [Option.map_some, Option.map_some, hcontents file hfile]

/-- A file that has been created is none of the old ones. -/
theorem fresh (d : Directory Name) (name : Name) : d.names name ≠ some d.next := by
  intro h
  have hlt := d.bounded name _ h
  omega

variable [DecidableEq Name]

/-- A new and empty file. -/
def create (d : Directory Name) (name : Name) : Directory Name where
  names := Function.update d.names name (some d.next)
  contents := Function.update d.contents d.next []
  next := d.next + 1
  bounded other file h := by
    by_cases hname : other = name
    · rw [hname, Function.update_self, Option.some.injEq] at h
      omega
    · rw [Function.update_of_ne hname] at h
      have hlt := d.bounded other file h
      omega

/-- Writes to a file. -/
def write (d : Directory Name) (file : ℕ) (bytes : List UInt8) : Directory Name :=
  { d with contents := Function.update d.contents file bytes }

/-- A second name for a file. -/
def link (d : Directory Name) (source target : Name) : Directory Name where
  names := Function.update d.names target (d.names source)
  contents := d.contents
  next := d.next
  bounded other file h := by
    by_cases hname : other = target
    · rw [hname, Function.update_self] at h
      exact d.bounded source file h
    · rw [Function.update_of_ne hname] at h
      exact d.bounded other file h

/-- Removes a name. -/
def unlink (d : Directory Name) (name : Name) : Directory Name where
  names := Function.update d.names name none
  contents := d.contents
  next := d.next
  bounded other file h := by
    by_cases hname : other = name
    · rw [hname, Function.update_self] at h
      cases h
    · rw [Function.update_of_ne hname] at h
      exact d.bounded other file h

@[simp]
theorem create_names : (d.create name).names other =
    if other = name then some d.next else d.names other :=
  Function.update_apply ..

@[simp]
theorem link_names : (d.link source target).names other =
    if other = target then d.names source else d.names other :=
  Function.update_apply ..

@[simp]
theorem unlink_names : (d.unlink name).names other =
    if other = name then none else d.names other :=
  Function.update_apply ..

end Directory

variable [DecidableEq Name]

/-! ## Calls -/

/-- The result of opening a file. -/
inductive Opened
  | found (file : ℕ)
  | notFound
  | failed
  deriving DecidableEq, Repr

/-- What the outside answers to a call. -/
structure Answers where
  succeeds : Bool := true
  random : Option (Bytes 16) := none
  bytes : Option (List UInt8) := none

/-- The calls. -/
inductive Call (Name : Type) : Type 1
  /-- Something that touches no file and may fail. -/
  | attempt
  /-- Random bytes. -/
  | random
  /-- Bytes that the outside hands over. -/
  | choose
  /-- Creates a file under a name that is free. -/
  | create (name : Name)
  /-- Fills a file that has been created. -/
  | write (file : ℕ) (bytes : List UInt8)
  | openFile (name : Name)
  | size (file : ℕ)
  | read (file : ℕ)
  /-- A second name, when it is free. -/
  | link (source target : Name)
  /-- Gives the name of a file to another one, in one step. Whether the name has to be taken is up
  to the caller. -/
  | move (replacing : Bool) (source target : Name)
  | unlink (name : Name)
  /-- Deletes an open file under the name by which it has been opened, unless it has lost it. -/
  | delete (name : Name) (file : ℕ)

namespace Call

/-- The types of the results. -/
abbrev Result : Call Name → Type
  | attempt | write _ _ | link _ _ | move _ _ _ | unlink _ | delete _ _ => Bool
  | random => Option (Bytes 16)
  | choose => Option (List UInt8)
  | create _ => Option ℕ
  | openFile _ => Opened
  | size _ => Option ℕ
  | read _ => Option (List UInt8)

/-- What a call makes of the directory. -/
def effect : (a : Call Name) → Answers → Directory Name → a.Result × Directory Name
  | attempt, o, d => (o.succeeds, d)
  | random, o, d => (o.random, d)
  | choose, o, d => (o.bytes, d)
  | create name, o, d =>
    if o.succeeds ∧ d.names name = none then (some d.next, d.create name) else (none, d)
  | write file bytes, o, d =>
    -- A write that fails may have written a part.
    (o.succeeds, d.write file (if o.succeeds then bytes else o.bytes.getD []))
  | openFile name, o, d =>
    (if ¬o.succeeds then .failed else
      match d.names name with
      | some file => .found file
      | none => .notFound, d)
  | size file, o, d => (if o.succeeds then some (d.contents file).length else none, d)
  | read file, o, d => (if o.succeeds then some (d.contents file) else none, d)
  | link source target, o, d =>
    if o.succeeds ∧ d.names target = none ∧ d.names source ≠ none then
      (true, d.link source target)
    else (false, d)
  | move replacing source target, o, d =>
    if o.succeeds ∧ (replacing → d.names target ≠ none) ∧ d.names source ≠ none then
      (true, (d.link source target).unlink source)
    else (false, d)
  | unlink name, o, d =>
    if o.succeeds ∧ d.names name ≠ none then (true, d.unlink name) else (false, d)
  | delete name file, o, d =>
    (o.succeeds, if o.succeeds ∧ d.names name = some file then d.unlink name else d)

/-- The file that a call has created. -/
def created : (a : Call Name) → a.Result → Option ℕ
  | create _, result => result
  | _, _ => none

/-- The file that a call writes to. -/
def writes : Call Name → List ℕ
  | write file _ => [file]
  | _ => []

/-- A call that only looks. -/
def Looks : Call Name → Prop
  | create _ | write _ _ | link _ _ | move _ _ _ | unlink _ | delete _ _ => False
  | _ => True

end Call

/-! ## Scenes -/

/-- A directory, and what is noted of a program that works on it. -/
structure Scene (Name : Type) where
  directory : Directory Name
  /-- The file that the program has created. -/
  staged : Option ℕ
  /-- The files that it has written to. -/
  written : List ℕ
  /-- What it has made of the public name, the latest first. -/
  changes : List Entry
  /-- What the public name has stood for. -/
  seen : List Entry

namespace Scene

/-- The program has done nothing. -/
def start (target : Name) (d : Directory Name) : Scene Name := ⟨d, none, [], [], [d.entry target]⟩

/-- The others have moved. -/
def after (s : Scene Name) (target : Name) (d : Directory Name) : Scene Name :=
  { s with directory := d, seen := d.entry target :: s.seen }

/-- The program has made a call. -/
def called (s : Scene Name) (target : Name) (a : Call Name) (result : a.Result)
    (d : Directory Name) : Scene Name where
  directory := d
  staged := (a.created result).or s.staged
  written := a.writes ++ s.written
  changes := if d.entry target = s.directory.entry target then s.changes
    else d.entry target :: s.changes
  seen := d.entry target :: s.seen

end Scene

/-- Programs on a directory with a public name. -/
abbrev machine (target : Name) : Machine where
  State := Scene Name
  Oracle := Answers
  Mutex := Empty
  Action := Call Name
  Result := Call.Result
  perform a o s := ((a.effect o s.directory).1,
    s.called target a (a.effect o s.directory).1 (a.effect o s.directory).2)

/-- A program of calls. -/
abbrev Steps (target : Name) (α : Type) : Type 1 := Prog (machine target) α

/-- One call. -/
abbrev step {target : Name} (a : Call Name) : Steps target a.Result :=
  Prog.act (M := machine target) a

/-- What the others may do. -/
structure Outside (target : Name) (s : Scene Name) (d : Directory Name) : Prop where
  names (name : Name) (h : name ≠ target) : d.names name = s.directory.names name
  /-- They do not know the file of the program. -/
  foreign (file : ℕ) (h : s.staged = some file) (htarget : d.names target = some file) :
    s.directory.names target = some file
  contents (file : ℕ) (h : file < s.directory.next) : d.contents file = s.directory.contents file
  next : s.directory.next ≤ d.next

/-- After each call of the program, the others may move. -/
def environment (target : Name) : Environment (machine target) (Scene Name) := fun s a r s' =>
  ∃ o d, Outside target ((machine target).perform a o s).2 d ∧
    r = ((machine target).perform a o s).1 ∧
    s' = ((machine target).perform a o s).2.after target d

/-- After each call of the program, the others may move, but they let the public name alone. -/
def quiet (target : Name) : Environment (machine target) (Scene Name) := fun s a r s' =>
  ∃ o d, Outside target ((machine target).perform a o s).2 d ∧
    d.entry target = ((machine target).perform a o s).2.directory.entry target ∧
    r = ((machine target).perform a o s).1 ∧
    s' = ((machine target).perform a o s).2.after target d

end Files
