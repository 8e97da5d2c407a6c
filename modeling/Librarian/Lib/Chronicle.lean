import Mathlib.Data.List.Induction
import Mathlib.Data.List.Nodup

/-!
# Chronicles

A history is a list of entries, the newest last. `Always p history` says that each entry meets `p`
with the history before it, and `Since bad e history` that the entry `e` is in the history and
nothing bad comes after it. Both are kept as entries are added at the end.
-/

namespace Chronicle

variable {α : Type*} {p : List α → α → Prop} {bad : α → Prop} {history : List α} {e x : α}

/-- A split of a longer history is at its new entry, or one of the shorter history. -/
theorem snoc_eq_append_cons {before after : List α} (h : history ++ [x] = before ++ e :: after) :
    (before = history ∧ e = x) ∨ ∃ rest, history = before ++ e :: rest := by
  induction after using List.reverseRecOn with
  | nil =>
    obtain ⟨hbefore, hlast⟩ := List.append_inj' h rfl
    exact .inl ⟨hbefore.symm, (List.singleton_inj.mp hlast).symm⟩
  | append_singleton rest y _ =>
    rw [← List.cons_append, ← List.append_assoc] at h
    exact .inr ⟨rest, (List.append_inj' h rfl).1⟩

/-- A new entry keeps the entries distinct. -/
theorem nodup_snoc (h : history.Nodup) (hx : x ∉ history) : (history ++ [x]).Nodup := by
  rw [← List.concat_eq_append]
  exact List.Nodup.concat hx h

/-- Each entry meets `p` with the history before it. -/
def Always (p : List α → α → Prop) (history : List α) : Prop :=
  ∀ before e after, history = before ++ e :: after → p before e

theorem always_nil : Always p [] := by
  intro before e after h
  exact absurd h.symm (List.append_ne_nil_of_right_ne_nil before (List.cons_ne_nil e after))

theorem Always.snoc (h : Always p history) (hx : p history x) : Always p (history ++ [x]) := by
  intro before e after hsplit
  rcases snoc_eq_append_cons hsplit with ⟨rfl, rfl⟩ | ⟨rest, hrest⟩
  · exact hx
  · exact h before e rest hrest

/-- Entries that meet `p` with any history before them. -/
theorem Always.append (h : Always p history) {entries : List α}
    (hentries : ∀ x ∈ entries, ∀ before, p before x) : Always p (history ++ entries) := by
  induction entries using List.reverseRecOn with
  | nil =>
    rw [List.append_nil]
    exact h
  | append_singleton entries x ih =>
    rw [← List.append_assoc]
    refine (ih fun y hy => hentries y (List.mem_append_left _ hy)).snoc (hentries x ?_ _)
    exact List.mem_append_right _ (List.mem_singleton_self x)

/-- `e` is in the history, and nothing bad comes after it. -/
def Since (bad : α → Prop) (e : α) (history : List α) : Prop :=
  ∃ before after, history = before ++ e :: after ∧ ∀ x ∈ after, ¬bad x

theorem since_snoc_self : Since bad e (history ++ [e]) :=
  ⟨history, [], rfl, fun _ h => absurd h List.not_mem_nil⟩

theorem Since.snoc (h : Since bad e history) (hx : ¬bad x) : Since bad e (history ++ [x]) := by
  obtain ⟨before, after, rfl, hafter⟩ := h
  refine ⟨before, after ++ [x], by rw [List.append_assoc, List.cons_append], fun y hy => ?_⟩
  rcases List.mem_append.mp hy with hy | hy
  · exact hafter y hy
  · exact List.mem_singleton.mp hy ▸ hx

end Chronicle
