import ContractBuild.Attempt

/-!
# How stages end

`Ends P Q x` says of a result: a value satisfies `Q`, a refusal satisfies `P`, and failures of other
kinds are left open. `Attempt.Ends` says so of an attempt from every trail. Both pass through
`bind`, so that the statement about a stage is put together from those about its steps in order.
-/

namespace ContractBuild

variable {α β : Type} {P P' : Refusal → Prop} {Q : α → Prop} {R : β → Prop}

/-- A value satisfies `Q`, and a refusal satisfies `P`. -/
def Ends (P : Refusal → Prop) (Q : α → Prop) : Except Failure α → Prop
  | .ok a => Q a
  | .error (.refused x) => P x
  | .error _ => True

/-- What a failure is does not depend on the value that it replaces. -/
theorem Ends.of_error {f : Failure} (h : Ends P Q (.error f)) : Ends P R (.error f) := by
  cases f with
  | refused x => exact h
  | _ => trivial

/-- A failure of a stage that refuses nothing. -/
theorem Ends.ne_refused {f : Failure} (h : Ends (fun _ => False) Q (.error f)) (x : Refusal) :
    f ≠ .refused x := by
  rintro rfl
  exact h

theorem Ends.mono {x : Except Failure α} {Q' : α → Prop} (h : Ends P Q x) (hP : ∀ r, P r → P' r)
    (hQ : ∀ a, Q a → Q' a) : Ends P' Q' x := by
  cases x with
  | ok a => exact hQ a h
  | error g =>
    cases g with
    | refused r => exact hP r h
    | _ => trivial

theorem Ends.bind {x : Except Failure α} {f : α → Except Failure β} (hx : Ends P Q x)
    (hf : ∀ a, Q a → Ends P R (f a)) : Ends P R (x >>= f) := by
  cases x with
  | ok a => exact hf a hx
  | error g =>
    cases g with
    | refused r => exact hx
    | _ => trivial

/-- A failure that was translated from one that is no refusal. -/
theorem ends_mapError {ε : Type} {f : ε → Failure} (hf : ∀ e x, f e ≠ .refused x)
    (x : Except ε α) : Ends P (fun _ => True) (x.mapError f) := by
  cases x with
  | ok a => trivial
  | error e =>
    simp only [mapError_error]
    cases he : f e with
    | refused r => exact absurd he (hf e r)
    | _ => trivial

theorem ends_mapM {f : α → Except Failure β} (hf : ∀ a, Ends P (fun _ => True) (f a))
    (as : List α) : Ends P (fun _ => True) (as.mapM f) := by
  induction as with
  | nil => trivial
  | cons a as ih =>
    rw [List.mapM_cons]
    exact (hf a).bind fun _ _ => ih.bind fun _ _ => trivial

theorem ends_filterM {keep : α → Except Failure Bool}
    (hkeep : ∀ a, Ends P (fun _ => True) (keep a)) (as : List α) :
    Ends P (fun _ => True) (as.filterM keep) := by
  have haux : ∀ acc, Ends P (fun _ => True) (List.filterAuxM keep as acc) := by
    induction as with
    | nil => exact fun _ => trivial
    | cons a as ih =>
      intro acc
      rw [List.filterAuxM]
      exact (hkeep a).bind fun _ _ => ih _
  exact (haux []).bind fun _ _ => trivial

namespace Attempt

/-- `Ends` for an attempt, from every trail. -/
def Ends (P : Refusal → Prop) (Q : α → Prop) (a : Attempt α) : Prop :=
  ∀ t, ContractBuild.Ends P Q (a.runFrom t).1

theorem ends_pure {a : α} (h : Q a) : Ends P Q (pure a) := fun _ => h

theorem ends_ofExcept {x : Except Failure α} (h : ContractBuild.Ends P Q x) :
    Ends P Q (ofExcept x) := fun _ => h

theorem ends_record (r : Log.Record) : Ends P (fun _ => True) (record r) := fun _ => trivial

theorem ends_refuse {r : Refusal} (h : P r) (details : String) :
    Ends P Q (refuse r details) := by
  intro t
  rw [runFrom_refuse]
  exact h

theorem ends_fail {f : Failure} (h : ∀ x, f ≠ .refused x) : Ends P Q (fail f : Attempt α) := by
  intro t
  rw [runFrom_fail]
  cases f with
  | refused x => exact absurd rfl (h x)
  | _ => trivial

theorem Ends.bind {a : Attempt α} {f : α → Attempt β} (ha : Ends P Q a)
    (hf : ∀ v, Q v → Ends P R (f v)) : Ends P R (a >>= f) := by
  intro t
  have hat := ha t
  rw [runFrom_bind]
  rcases h : a.runFrom t with ⟨g | v, u⟩
  · rw [h] at hat
    cases g with
    | refused x => exact hat
    | _ => trivial
  · rw [h] at hat
    exact hf v hat u

theorem Ends.mono {a : Attempt α} {Q' : α → Prop} (h : Ends P Q a) (hP : ∀ x, P x → P' x)
    (hQ : ∀ v, Q v → Q' v) : Ends P' Q' a := fun t => (h t).mono hP hQ

/-- What a refusal of an attempt satisfies. -/
theorem Ends.of_refused {a : Attempt α} {t u : Trail} {x : Refusal} (h : Ends P Q a)
    (hrun : a.runFrom t = (.error (.refused x), u)) : P x := by
  have hat := h t
  rwa [hrun] at hat

/-- What a result of an attempt satisfies. -/
theorem Ends.of_ok {a : Attempt α} {t u : Trail} {v : α} (h : Ends P Q a)
    (hrun : a.runFrom t = (.ok v, u)) : Q v := by
  have hat := h t
  rwa [hrun] at hat

end Attempt

end ContractBuild
