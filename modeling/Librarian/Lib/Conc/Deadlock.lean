import Mathlib.Data.Finset.Lattice.Fold
import Mathlib.Logic.Relation
import Librarian.Lib.Conc.Logic

/-!
# Threads that wait for each other

A thread that waits for a mutex has no step, so a circle of waiting threads never moves again. Where
the mutexes have ranks and every thread waits for a mutex of higher rank than all that it holds, the
ranks rise along a chain of waits and there is no circle. Here some threads may break the order: each
circle then contains one that does, and behind every other chain of waits there is a thread that
does not wait.
-/

namespace Conc

variable {M : Machine} [DecidableEq M.Mutex] {c : Config M} {rank : M.Mutex → ℕ} {t t' t'' : ℕ}

namespace Config

omit [DecidableEq M.Mutex] in
/-- A thread wants a mutex of higher rank than all that it holds. -/
def InOrder (rank : M.Mutex → ℕ) (c : Config M) (t : ℕ) : Prop :=
  ∀ m held, c.wants t = some m → c.holder held = some t → rank held < rank m

omit [DecidableEq M.Mutex] in
/-- A thread waits for itself or, through others, for another one. -/
abbrev Behind (c : Config M) : ℕ → ℕ → Prop := Relation.ReflTransGen c.WaitsFor

omit [DecidableEq M.Mutex] in
/-- A thread waits for at most one other. -/
theorem WaitsFor.unique (h : c.WaitsFor t t') (h' : c.WaitsFor t t'') : t' = t'' := by
  obtain ⟨m, hwants, hholder⟩ := h
  obtain ⟨m', hwants', hholder'⟩ := h'
  have hm : m = m' := Option.some.inj (hwants.symm.trans hwants')
  have ht : some t' = some t'' := by rw [← hholder, ← hholder', hm]
  exact Option.some.inj ht

omit [DecidableEq M.Mutex] in
/-- A chain of waits leads to a thread that does not wait, or to one that breaks the order. -/
theorem exists_behind [Fintype M.Mutex] (c : Config M) (rank : M.Mutex → ℕ) (t : ℕ) :
    ∃ t', c.Behind t t' ∧ ((∀ t'', ¬c.WaitsFor t' t'') ∨ ¬c.InOrder rank t') := by
  let bound := Finset.univ.sup rank
  have hbound (m : M.Mutex) : rank m ≤ bound := Finset.le_sup (Finset.mem_univ m)
  -- The induction is on the distance of the wanted mutex from the highest rank.
  have hchain (n : ℕ) : ∀ t, (∀ m, c.wants t = some m → bound < rank m + n) →
      ∃ t', c.Behind t t' ∧ ((∀ t'', ¬c.WaitsFor t' t'') ∨ ¬c.InOrder rank t') := by
    induction n with
    | zero =>
      intro t hwanted
      refine ⟨t, .refl, .inl fun t'' hwaits => ?_⟩
      obtain ⟨m, hwants, -⟩ := hwaits
      have hhigh := hwanted m hwants
      have hlow := hbound m
      omega
    | succ n ih =>
      intro t hwanted
      by_cases hwaits : ∃ t₁, c.WaitsFor t t₁
      · obtain ⟨t₁, m, hwants, hholder⟩ := hwaits
        have hfirst : c.Behind t t₁ := .single ⟨m, hwants, hholder⟩
        by_cases horder : c.InOrder rank t₁
        · have hnext : ∀ m', c.wants t₁ = some m' → bound < rank m' + n := by
            intro m' hwants'
            have hhigh := hwanted m hwants
            have hrise := horder m' m hwants' hholder
            omega
          obtain ⟨t', hbehind, hend⟩ := ih t₁ hnext
          exact ⟨t', hfirst.trans hbehind, hend⟩
        · exact ⟨t₁, hfirst, .inr horder⟩
      · exact ⟨t, .refl, .inl fun t'' hwaits' => hwaits ⟨t'', hwaits'⟩⟩
  exact hchain (bound + 1) t fun m _ => by omega

omit [DecidableEq M.Mutex] in
/-- From every thread of a circle the waits lead back to where it was entered. -/
theorem Behind.back (h : c.Behind t t') (hcircle : Relation.TransGen c.WaitsFor t t) :
    c.Behind t' t := by
  induction h with
  | refl => exact .refl
  | @tail t₁ t₂ _ hwaits ih =>
    have hnext : ∃ t₃, c.WaitsFor t₁ t₃ ∧ c.Behind t₃ t := by
      rcases ih.cases_head with heq | hstep
      · subst heq
        exact Relation.TransGen.head'_iff.mp hcircle
      · exact hstep
    obtain ⟨t₃, hwaits', hbehind⟩ := hnext
    rwa [hwaits.unique hwaits']

omit [DecidableEq M.Mutex] in
/-- Every circle contains a thread that breaks the order. -/
theorem exists_inversion [Fintype M.Mutex] (rank : M.Mutex → ℕ)
    (hcircle : Relation.TransGen c.WaitsFor t t) :
    ∃ t', c.Behind t t' ∧ c.Behind t' t ∧ ¬c.InOrder rank t' := by
  obtain ⟨t', hbehind, hend⟩ := c.exists_behind rank t
  have hback := hbehind.back hcircle
  have hwaits : ∃ t'', c.WaitsFor t' t'' := by
    rcases hback.cases_head with heq | ⟨t'', hwaits, -⟩
    · subst heq
      obtain ⟨t'', hwaits, -⟩ := Relation.TransGen.head'_iff.mp hcircle
      exact ⟨t'', hwaits⟩
    · exact ⟨t'', hwaits⟩
  obtain ⟨t'', hwaits⟩ := hwaits
  exact ⟨t', hbehind, hback, hend.resolve_left fun hnone => hnone t'' hwaits⟩

end Config

section

variable [Fintype M.Mutex] {Φ : Type} {D : Discipline M Φ} {done : Φ → Prop} {phase : ℕ → Φ}

/-- A thread that has ended holds no mutex. -/
theorem Checked.holds_none (h : Checked D done phase c) (hidle : c.Idle t) (m : M.Mutex) :
    c.holder m ≠ some t := by
  have hwp := h.wp t
  rw [show c.threads t = .ret () from hidle] at hwp
  have hempty : heldBy c.holder t = ∅ := hwp.2
  intro hholder
  have hmem : m ∈ heldBy c.holder t := mem_heldBy.mpr hholder
  simp [hempty] at hmem

/-- A thread that is still running and does not wait has a step. -/
theorem Checked.next_isSome (h : Checked D done phase c) (hlive : ¬c.Idle t)
    (hhalt : c.threads t ≠ .halt) (hwaits : ∀ t', ¬c.WaitsFor t t') (o : M.Oracle) :
    (c.next t o).isSome := by
  have hwp := h.wp t
  unfold Config.next
  cases hthread : c.threads t with
  | ret a => exact absurd hthread hlive
  | call a k => rfl
  | acquire m k =>
    have hfree : c.holder m = none := by
      refine Option.eq_none_iff_forall_ne_some.mpr fun t' hholder => hwaits t' ⟨m, ?_, hholder⟩
      rw [Config.wants, hthread]
    simp [hfree]
  | release m k =>
    rw [hthread] at hwp
    have hholds : c.holder m = some t := mem_heldBy.mp hwp.1
    simp [hholds]
  | halt => exact absurd hthread hhalt

end

end Conc
