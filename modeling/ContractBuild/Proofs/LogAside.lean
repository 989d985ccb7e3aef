import ContractBuild.Proofs.Uniform

/-!
# The log aside

The log is written and never read. So two stages that write different records, and do the same
otherwise, come to the same from any two states that differ in the log alone. `Matches` says so of
two stages, with a relation for their results; matching stages make matching runs (`Matches.bind`).
-/

namespace ContractBuild

variable {α β γ δ ε ε' σ : Type}

/-- Two results are values that `R` relates, or errors that `E` relates. -/
inductive Related (E : ε → ε' → Prop) (R : α → β → Prop) : Except ε α → Except ε' β → Prop
  | ok {a : α} {b : β} (h : R a b) : Related E R (.ok a) (.ok b)
  | error {f : ε} {g : ε'} (h : E f g) : Related E R (.error f) (.error g)

theorem Related.eq {x y : Except ε α} (h : Related Eq Eq x y) : x = y := by
  cases h with
  | ok h => rw [h]
  | error h => rw [h]

theorem related_refl {E : ε → ε → Prop} {R : α → α → Prop} (hE : ∀ f, E f f) (hR : ∀ a, R a a)
    (x : Except ε α) : Related E R x x := by
  cases x with
  | ok a => exact .ok (hR a)
  | error f => exact .error (hE f)

/-- Trails that differ at most in their log. -/
structure Trail.SameButLog (t u : Trail) : Prop where
  made : t.made = u.made
  calls : t.calls = u.calls
  produced : t.produced = u.produced

/-- Runs that differ at most in their log. -/
structure Run.SameButLog (s u : Run) : Prop where
  disk : s.disk = u.disk
  lines : s.lines = u.lines
  trail : s.trail.SameButLog u.trail

theorem Trail.SameButLog.refl (t : Trail) : t.SameButLog t := ⟨rfl, rfl, rfl⟩

theorem Run.SameButLog.refl (s : Run) : s.SameButLog s := ⟨rfl, rfl, .refl _⟩

theorem Trail.SameButLog.extend {t u : Trail} (h : t.SameButLog u) (v : Trail) :
    (t.extend v).SameButLog (u.extend v) where
  made := congrArg (· + v.made) h.made
  calls := congrArg (· ++ v.calls) h.calls
  produced := congrArg (· ++ v.produced) h.produced

theorem Run.SameButLog.after {s u : Run} (h : s.SameButLog u) (v : Run) :
    (s.after v).SameButLog (u.after v) where
  disk := rfl
  lines := congrArg (· ++ v.lines) h.lines
  trail := h.trail.extend v.trail

/-- The records that are added do not matter. -/
theorem Trail.SameButLog.noted {t u : Trail} (h : t.SameButLog u) (x : Refusal) (d d' : String) :
    (Attempt.noted t x d).SameButLog (Attempt.noted u x d') where
  made := by rw [Attempt.made_noted, Attempt.made_noted, h.made]
  calls := by rw [Attempt.calls_noted, Attempt.calls_noted, h.calls]
  produced := by rw [Attempt.produced_noted, Attempt.produced_noted, h.produced]

namespace Attempt

variable {R : α → β → Prop} {S : γ → δ → Prop} {a : Attempt α} {b : Attempt β}

/-- From trails that differ in the log alone two attempts come to results that `R` relates or to the
same failure, and their trails still differ in the log alone. -/
def Matches (R : α → β → Prop) (a : Attempt α) (b : Attempt β) : Prop :=
  ∀ t u, t.SameButLog u →
    Related Eq R (a.runFrom t).1 (b.runFrom u).1 ∧ (a.runFrom t).2.SameButLog (b.runFrom u).2

theorem Matches.bind {f : α → Attempt γ} {g : β → Attempt δ} (h : Matches R a b)
    (hnext : ∀ x y, R x y → Matches S (f x) (g y)) : Matches S (a >>= f) (b >>= g) := by
  intro t u htu
  obtain ⟨hresult, htrail⟩ := h t u htu
  rw [runFrom_bind, runFrom_bind]
  generalize a.runFrom t = p at hresult htrail
  generalize b.runFrom u = q at hresult htrail
  obtain ⟨x, t₁⟩ := p
  obtain ⟨y, u₁⟩ := q
  cases hresult with
  | ok hxy => exact hnext _ _ hxy _ _ htrail
  | error hfg => exact ⟨.error hfg, htrail⟩

theorem matches_pure {x : α} {y : β} (h : R x y) :
    Matches R (pure x : Attempt α) (pure y) := fun _ _ htu => ⟨.ok h, htu⟩

theorem matches_fail (f : Failure) : Matches R (fail f) (fail f) := fun _ _ htu => ⟨.error rfl, htu⟩

theorem matches_record (r r' : Log.Record) : Matches Eq (record r) (record r') :=
  fun _ _ htu => ⟨.ok rfl, htu.made, htu.calls, htu.produced⟩

/-- The details of a refusal only go to the log. -/
theorem matches_refuse (x : Refusal) (d d' : String) : Matches R (refuse x d) (refuse x d') := by
  intro t u htu
  rw [runFrom_refuse, runFrom_refuse]
  exact ⟨.error rfl, htu.noted x d d'⟩

/-- An attempt that calls nothing matches itself. -/
theorem Silent.matches_self {a : Attempt α} (h : Silent id a) : Matches Eq a a := by
  intro t u htu
  obtain ⟨x, v, hyields, -⟩ := h
  rw [hyields.runFrom_eq, hyields.runFrom_eq]
  exact ⟨related_refl (fun _ => rfl) (fun _ => rfl) x, htu.extend v⟩

end Attempt

namespace Running

variable {r r' : Running α}

/-- From runs that differ in the log alone two runs come to the same, and still differ in the log
alone. -/
def Matches (r r' : Running α) : Prop :=
  ∀ s u, s.SameButLog u →
    (r.runFrom s).1 = (r'.runFrom u).1 ∧ (r.runFrom s).2.SameButLog (r'.runFrom u).2

theorem Matches.bind {f g : α → Running β} (h : Matches r r') (hnext : ∀ a, Matches (f a) (g a)) :
    Matches (r >>= f) (r' >>= g) := by
  intro s u hsu
  obtain ⟨hresult, hrun⟩ := h s u hsu
  rw [runFrom_bind, runFrom_bind]
  generalize r.runFrom s = p at hresult hrun
  generalize r'.runFrom u = q at hresult hrun
  obtain ⟨x, s₁⟩ := p
  obtain ⟨y, u₁⟩ := q
  obtain rfl : x = y := hresult
  cases x with
  | ok a => exact hnext a _ _ hrun
  | error f => exact ⟨rfl, hrun⟩

/-- A uniform stage matches itself. -/
theorem Uniform.matches_self (h : Uniform r) : Matches r r := by
  intro s u hsu
  obtain ⟨x, v, hyields⟩ := h s.disk
  rw [hyields s rfl, hyields u hsu.disk.symm]
  exact ⟨rfl, hsu.after v⟩

end Running

end ContractBuild
