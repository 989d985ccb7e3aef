import ContractBuild.Sources.Scan

/-!
# The order of paths

Paths are compared by their components, which tell a path apart from every other (`orderKey_inj`).
So the order is linear, and there is one list only that has given members in strictly increasing
order (`InOrder.unique`). A sorted list depends only on what is in it, not on the order in which the
disk lists it (`sorted_eq_of_mem_iff`).
-/

namespace ContractBuild

namespace Path

/-! ## Lists of components -/

theorem componentsLe_total (as bs : List String) : componentsLe as bs || componentsLe bs as := by
  induction as generalizing bs with
  | nil => rfl
  | cons a as ih =>
    cases bs with
    | nil => rfl
    | cons b bs =>
      unfold componentsLe
      by_cases hab : a = b
      · simpa [hab] using ih bs
      · rw [if_neg hab, if_neg (Ne.symm hab)]
        simpa using String.le_total a b

theorem componentsLe_trans {as bs cs : List String} (hab : componentsLe as bs = true)
    (hbc : componentsLe bs cs = true) : componentsLe as cs = true := by
  induction as generalizing bs cs with
  | nil => rfl
  | cons a as ih =>
    cases bs with
    | nil => simp [componentsLe] at hab
    | cons b bs =>
      cases cs with
      | nil => simp [componentsLe] at hbc
      | cons c cs =>
        unfold componentsLe at hab hbc ⊢
        -- the first components that differ in either comparison decide
        by_cases h₁ : a = b
        · subst h₁
          rw [if_pos rfl] at hab
          by_cases h₂ : a = c
          · rw [if_pos h₂] at hbc ⊢
            exact ih hab hbc
          · rwa [if_neg h₂] at hbc ⊢
        · rw [if_neg h₁] at hab
          by_cases h₂ : b = c
          · subst h₂
            rwa [if_neg h₁]
          · rw [if_neg h₂] at hbc
            have hle : a ≤ c := String.le_trans (by simpa using hab) (by simpa using hbc)
            have hne : a ≠ c := by
              rintro rfl
              exact h₁ (String.le_antisymm (by simpa using hab) (by simpa using hbc))
            rw [if_neg hne]
            simpa using hle

theorem componentsLe_antisymm {as bs : List String} (hab : componentsLe as bs = true)
    (hba : componentsLe bs as = true) : as = bs := by
  induction as generalizing bs with
  | nil =>
    cases bs with
    | nil => rfl
    | cons b bs => simp [componentsLe] at hba
  | cons a as ih =>
    cases bs with
    | nil => simp [componentsLe] at hab
    | cons b bs =>
      unfold componentsLe at hab hba
      by_cases h : a = b
      · subst h
        rw [if_pos rfl] at hab hba
        rw [ih hab hba]
      · rw [if_neg h] at hab
        rw [if_neg (Ne.symm h)] at hba
        exact absurd (String.le_antisymm (by simpa using hab) (by simpa using hba)) h

/-! ## Paths -/

/-- The components tell where a path starts and what its parts are. -/
theorem orderKey_inj {p q : Path} (h : p.orderKey = q.orderKey) : p = q := by
  have hempty : ∀ (p : Path), "" ∉ p.parts := fun p hm => (p.isPart _ hm).1 rfl
  have hdot : ∀ (p : Path), "." ∉ p.parts := fun p hm => (p.isPart _ hm).2.1 rfl
  obtain ⟨a, ps, hps⟩ := p
  obtain ⟨b, qs, hqs⟩ := q
  have hp := hempty ⟨a, ps, hps⟩
  have hq := hempty ⟨b, qs, hqs⟩
  have hp' := hdot ⟨a, ps, hps⟩
  have hq' := hdot ⟨b, qs, hqs⟩
  -- a leading component that is empty is a slash, and no part is empty
  apply Path.ext
  all_goals
    cases a <;> cases b <;> cases ps <;> cases qs <;>
      simp_all [orderKey]

theorem le_total (p q : Path) : p.le q || q.le p := componentsLe_total _ _

theorem le_trans {p q r : Path} (hpq : p.le q = true) (hqr : q.le r = true) : p.le r = true :=
  componentsLe_trans hpq hqr

theorem le_antisymm {p q : Path} (hpq : p.le q = true) (hqp : q.le p = true) : p = q :=
  orderKey_inj (componentsLe_antisymm hpq hqp)

end Path

/-- One path stands before another. -/
def Path.Before (p q : Path) : Prop := p.le q = true ∧ p ≠ q

instance (p q : Path) : Decidable (p.Before q) := inferInstanceAs (Decidable (_ ∧ _))

namespace Sources

variable {Q : Path → Prop} {ps qs : List Path}

/-- A list in strictly increasing order of exactly the paths with a property. -/
structure InOrder (Q : Path → Prop) (ps : List Path) : Prop where
  increasing : ps.Pairwise Path.Before
  mem_iff : ∀ p, p ∈ ps ↔ Q p

/-- What is in a list without repetitions is in order once it is sorted. -/
theorem inOrder_sorted (hps : ps.Nodup) (h : ∀ p, p ∈ ps ↔ Q p) : InOrder Q (sorted ps) := by
  have hperm : (sorted ps).Perm ps := List.mergeSort_perm ps Path.le
  have hsorted : (sorted ps).Pairwise fun p q => p.le q = true := by
    apply List.pairwise_mergeSort
    · exact fun _ _ _ => Path.le_trans
    · exact Path.le_total
  exact ⟨hsorted.and (hperm.nodup_iff.2 hps), fun p => hperm.mem_iff.trans (h p)⟩

/-- There is one such list only. -/
theorem InOrder.unique (h : InOrder Q ps) (h' : InOrder Q qs) : ps = qs := by
  have hps : ps.Nodup := h.increasing.imp And.right
  have hqs : qs.Nodup := h'.increasing.imp And.right
  have hperm : ps.Perm qs := (List.perm_ext_iff_of_nodup hps hqs).2 fun p =>
    (h.mem_iff p).trans (h'.mem_iff p).symm
  refine hperm.eq_of_pairwise (fun _ _ _ _ => ?_) h.increasing h'.increasing
  exact fun hpq hqp => Path.le_antisymm hpq.1 hqp.1

/-- What is in a sorted list determines it. -/
theorem sorted_eq_of_mem_iff (hps : ps.Nodup) (hqs : qs.Nodup) (h : ∀ p, p ∈ ps ↔ p ∈ qs) :
    sorted ps = sorted qs :=
  (inOrder_sorted hps h).unique (inOrder_sorted hqs fun _ => Iff.rfl)

end Sources

end ContractBuild
