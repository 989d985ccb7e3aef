import ContractBuild.Proofs.Steady
import ContractBuild.Run

/-!
# What a run adds

Nothing in a run looks at the lines or at the trail of what came before it, only at the disk. So
from every run on one disk it has the same result, leaves the same disk and adds the same lines and
the same trail (`Running.Yields`). A run that is uniform does so on every disk, and uniform stages
make uniform runs (`Uniform.bind`).
-/

namespace ContractBuild

namespace Run

variable {s u v : Run}

/-- A run that goes on with what another one, started with nothing behind it, came to. -/
def after (s u : Run) : Run where
  disk := u.disk
  lines := s.lines ++ u.lines
  trail := s.trail.extend u.trail

/-- A run with nothing behind it. -/
def blank (d : Disk) : Run := { disk := d }

@[simp] theorem disk_after (s u : Run) : (s.after u).disk = u.disk := rfl

@[simp] theorem disk_blank (d : Disk) : (blank d).disk = d := rfl

theorem after_after (s u v : Run) : (s.after u).after v = s.after (u.after v) := by
  simp [after, Trail.extend_extend]

@[simp] theorem blank_after (d : Disk) (u : Run) : (blank d).after u = u := by
  simp [after, blank, Trail.extend]

theorem after_blank (s : Run) : s.after (blank s.disk) = s := by
  simp [after, blank]

end Run

namespace Running

variable {α β : Type} {r : Running α} {f : α → Running β} {d : Disk} {x y : Except Failure α}
variable {u v s s' : Run}

/-- From every run on the disk `d`, `r` has the result `x` and adds `u`. -/
def Yields (r : Running α) (d : Disk) (x : Except Failure α) (u : Run) : Prop :=
  ∀ s : Run, s.disk = d → r.runFrom s = (x, s.after u)

/-- On every disk the same is added, whatever came before. -/
def Uniform (r : Running α) : Prop := ∀ d, ∃ x u, Yields r d x u

/-- What is added can be read off any run. -/
theorem Yields.eq_of_runFrom (h : Yields r s.disk x u) (hr : r.runFrom s = (y, s')) :
    x = y ∧ s' = s.after u := by
  obtain ⟨rfl, rfl⟩ := Prod.mk.inj ((h s rfl).symm.trans hr)
  exact ⟨rfl, rfl⟩

theorem Yields.unique (h : Yields r d x u) (h' : Yields r d y v) : x = y ∧ u = v := by
  obtain ⟨rfl, hu⟩ := Prod.mk.inj ((h (.blank d) rfl).symm.trans (h' (.blank d) rfl))
  simpa using hu

theorem Uniform.yields (h : Uniform r) (hr : r.runFrom s = (x, s')) :
    ∃ u, s' = s.after u ∧ Yields r s.disk x u := by
  obtain ⟨y, u, hyields⟩ := h s.disk
  obtain ⟨rfl, rfl⟩ := hyields.eq_of_runFrom hr
  exact ⟨u, rfl, hyields⟩

/-! ## One stage -/

theorem yields_pure (a : α) (d : Disk) : Yields (pure a) d (.ok a) (.blank d) := by
  rintro s rfl
  rw [runFrom_pure, Run.after_blank]

theorem yields_fail (f : Failure) (d : Disk) :
    Yields (fail f : Running α) d (.error f) (.blank d) := by
  rintro s rfl
  rw [runFrom_fail, Run.after_blank]

/-! ## Two stages -/

theorem Yields.bind {a : α} {x : Except Failure β} (h : Yields r d (.ok a) u)
    (hf : Yields (f a) u.disk x v) : Yields (r >>= f) d x (u.after v) := by
  intro s hs
  rw [runFrom_bind, h s hs, ← Run.after_after]
  exact hf _ rfl

theorem Yields.bind_error {g : Failure} (h : Yields r d (.error g) u) :
    Yields (r >>= f) d (.error g) u := by
  intro s hs
  rw [runFrom_bind, h s hs]

/-- A result that is only passed on adds nothing. -/
theorem Yields.bind_pure (h : Yields r d x u) (g : α → β) :
    Yields (r >>= fun a => pure (g a)) d (x.map g) u := by
  cases x with
  | error f => exact h.bind_error
  | ok a =>
    have hbind := h.bind (f := fun a => pure (g a)) (yields_pure (g a) u.disk)
    rwa [Run.after_blank] at hbind

theorem Uniform.bind (h : Uniform r) (hf : ∀ a, Uniform (f a)) : Uniform (r >>= f) := by
  intro d
  obtain ⟨x, u, hyields⟩ := h d
  cases x with
  | error g => exact ⟨_, _, hyields.bind_error⟩
  | ok a =>
    obtain ⟨y, v, hrest⟩ := hf a u.disk
    exact ⟨y, _, hyields.bind hrest⟩

end Running

end ContractBuild
