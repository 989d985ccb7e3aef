import ContractBuild.Attempt

/-!
# Steady attempts

Nothing in a build looks at the trail that earlier stages left, except that objects are numbered in
the order in which they are made. So an attempt has the same result from every trail and appends the
same to it (`Attempt.Yields`), as far as a view shows that leaves out the numbers. An attempt that
also calls no producer is steady, and one that calls no engine either is silent. Steady stages make
steady attempts, and silent stages silent ones (`Steady.bind`, `Silent.bind`). Where the numbers
count as well, an attempt has the same result from every trail with as many objects (`Numbered`).
-/

namespace ContractBuild

namespace Trail

/-- A trail continued by another one. -/
def extend (t u : Trail) : Trail where
  log := t.log ++ u.log
  made := t.made + u.made
  calls := t.calls ++ u.calls
  produced := t.produced ++ u.produced

@[simp] theorem extend_blank (t : Trail) : t.extend {} = t := by
  simp [extend]

theorem extend_extend (t u v : Trail) : (t.extend u).extend v = t.extend (u.extend v) := by
  simp [extend, Nat.add_assoc]

@[simp] theorem calls_extend (t u : Trail) : (t.extend u).calls = t.calls ++ u.calls := rfl

@[simp] theorem produced_extend (t u : Trail) :
    (t.extend u).produced = t.produced ++ u.produced := rfl

end Trail

namespace Attempt

variable {α β γ δ : Type} {view : α → γ} {view' : β → δ}

/-- What a view shows of the result, and the trail after it. -/
def viewFrom (view : α → γ) (a : Attempt α) (t : Trail) : Except Failure γ × Trail :=
  ((a.runFrom t).1.map view, (a.runFrom t).2)

/-- From every trail an attempt has the result `x`, as far as a view shows, and appends `u`. -/
def Yields (view : α → γ) (a : Attempt α) (x : Except Failure γ) (u : Trail) : Prop :=
  ∀ t, viewFrom view a t = (x, t.extend u)

/-- An attempt that comes to the same from every trail and calls no producer. -/
def Steady (view : α → γ) (a : Attempt α) : Prop :=
  ∃ x u, Yields view a x u ∧ u.produced = []

/-- A steady attempt that calls no engine either. -/
def Silent (view : α → γ) (a : Attempt α) : Prop :=
  ∃ x u, Yields view a x u ∧ u.calls = [] ∧ u.produced = []

/-- Without a view the whole result is the same. -/
theorem Yields.runFrom_eq {a : Attempt α} {x : Except Failure α} {u : Trail}
    (h : Yields id a x u) (t : Trail) : a.runFrom t = (x, t.extend u) := by
  rw [← h t, viewFrom]
  cases hr : (a.runFrom t).1 <;> exact Prod.ext hr rfl

/-- Running a steady attempt calls no producer. -/
theorem Steady.produced_eq {a : Attempt α} (h : Steady view a) (t : Trail) :
    (a.runFrom t).2.produced = t.produced := by
  obtain ⟨x, u, hyields, hu⟩ := h
  have htrail : (a.runFrom t).2 = t.extend u := congrArg Prod.snd (hyields t)
  rw [htrail, Trail.produced_extend, hu, List.append_nil]

theorem Silent.steady {a : Attempt α} (h : Silent view a) : Steady view a := by
  obtain ⟨x, u, hyields, -, hu⟩ := h
  exact ⟨x, u, hyields, hu⟩

/-- Running a silent attempt calls no engine. -/
theorem Silent.calls_eq {a : Attempt α} (h : Silent view a) (t : Trail) :
    (a.runFrom t).2.calls = t.calls := by
  obtain ⟨x, u, hyields, hu, -⟩ := h
  have htrail : (a.runFrom t).2 = t.extend u := congrArg Prod.snd (hyields t)
  rw [htrail, Trail.calls_extend, hu, List.append_nil]

/-! ## One step -/

theorem yields_map_of_runFrom {a : Attempt α} {x : Except Failure α} {u : Trail}
    (h : ∀ t, a.runFrom t = (x, t.extend u)) : Yields view a (x.map view) u :=
  fun t => by rw [viewFrom, h]

theorem yields_of_runFrom {a : Attempt α} {x : Except Failure α} {u : Trail}
    (h : ∀ t, a.runFrom t = (x, t.extend u)) : Yields id a x u := by
  have hmap : x.map id = x := by cases x <;> rfl
  exact hmap ▸ yields_map_of_runFrom h

theorem silent_ofExcept (x : Except Failure α) : Silent view (ofExcept x) :=
  ⟨_, {}, yields_map_of_runFrom fun t => by rw [runFrom_ofExcept, Trail.extend_blank], rfl, rfl⟩

theorem silent_pure (a : α) : Silent view (pure a : Attempt α) := silent_ofExcept (.ok a)

theorem silent_fail (f : Failure) : Silent view (fail f : Attempt α) := silent_ofExcept (.error f)

theorem silent_record (r : Log.Record) : Silent id (record r) :=
  ⟨_, { log := [r] }, yields_map_of_runFrom (x := .ok ()) fun t => by simp [Trail.extend], rfl, rfl⟩

theorem steady_call (e : Engine) (c : Engine.Call) : Steady id (call e c) :=
  ⟨_, { calls := [c] },
    yields_map_of_runFrom (x := .ok (e.compile c)) fun t => by simp [Trail.extend], rfl⟩

theorem noted_eq_extend (t : Trail) (r : Refusal) (details : String) :
    noted t r details = t.extend (noted {} r details) := by
  unfold noted
  split
  next => simp
  next => simp [Trail.extend]

theorem calls_noted (t : Trail) (r : Refusal) (details : String) :
    (noted t r details).calls = t.calls := by
  unfold noted
  split <;> rfl

theorem made_noted (t : Trail) (r : Refusal) (details : String) :
    (noted t r details).made = t.made := by
  unfold noted
  split <;> rfl

theorem produced_noted (t : Trail) (r : Refusal) (details : String) :
    (noted t r details).produced = t.produced := by
  unfold noted
  split <;> rfl

theorem silent_refuse (r : Refusal) (details : String) :
    Silent view (refuse r details : Attempt α) :=
  ⟨_, noted {} r details, yields_map_of_runFrom fun t => by rw [runFrom_refuse, noted_eq_extend],
    calls_noted {} r details, produced_noted {} r details⟩

/-! ## Two stages -/

/-- What the second stage comes to may depend on the result of the first as far as its view shows.
Then the two add what the first one adds, and what the second one adds if it is reached. -/
theorem Yields.bindView {P : Trail → Prop} {a : Attempt α} {f : α → Attempt β}
    {x : Except Failure γ} {u : Trail} (hyields : Yields view a x u)
    (hf : ∀ b, ∃ x' v, Yields view' (f b) x' v ∧ P v)
    (hsame : ∀ b b', view b = view b' → ∀ t, viewFrom view' (f b) t = viewFrom view' (f b') t) :
    ∃ x' w, Yields view' (a >>= f) x' w ∧ (w = u ∨ ∃ v, P v ∧ w = u.extend v) := by
  have hrun : ∀ t, ∃ y, a.runFrom t = (y, t.extend u) ∧ y.map view = x := by
    intro t
    obtain ⟨hx, htrail⟩ := Prod.mk.inj (hyields t)
    exact ⟨_, Prod.ext rfl htrail, hx⟩
  obtain ⟨y₀, -, hy₀⟩ := hrun {}
  cases y₀ with
  | error g =>
    refine ⟨_, u, yields_map_of_runFrom (x := .error g) fun t => ?_, .inl rfl⟩
    obtain ⟨y, hy, hx⟩ := hrun t
    rw [runFrom_bind, hy]
    cases y with
    | ok b => simp [Except.map, ← hy₀] at hx
    | error g' =>
      obtain rfl : g' = g := by simpa [Except.map, ← hy₀] using hx
      rfl
  | ok b₀ =>
    -- any result that the view shows so stands for all of them
    obtain ⟨x', v, hyields', hv⟩ := hf b₀
    refine ⟨x', u.extend v, fun t => ?_, .inr ⟨v, hv, rfl⟩⟩
    obtain ⟨y, hy, hx⟩ := hrun t
    cases y with
    | error g' => simp [Except.map, ← hy₀] at hx
    | ok b =>
      have hview : view b = view b₀ := by simpa [Except.map, ← hy₀] using hx
      have hbind : viewFrom view' (a >>= f) t = viewFrom view' (f b) (t.extend u) := by
        simp only [viewFrom, runFrom_bind, hy]
      rw [hbind, hsame b b₀ hview, hyields', Trail.extend_extend]

theorem Silent.bindView {a : Attempt α} {f : α → Attempt β} (ha : Silent view a)
    (hf : ∀ b, Silent view' (f b))
    (hsame : ∀ b b', view b = view b' → ∀ t, viewFrom view' (f b) t = viewFrom view' (f b') t) :
    Silent view' (a >>= f) := by
  obtain ⟨x, u, hyields, hu⟩ := ha
  obtain ⟨x', w, hw, hadds⟩ := hyields.bindView hf hsame
  refine ⟨x', w, hw, ?_⟩
  rcases hadds with rfl | ⟨v, hv, rfl⟩
  · exact hu
  · simp [hu, hv]

theorem Silent.bind {a : Attempt α} {f : α → Attempt β} (ha : Silent id a)
    (hf : ∀ b, Silent view' (f b)) : Silent view' (a >>= f) :=
  ha.bindView hf fun b b' (h : b = b') _ => by rw [h]

theorem Steady.bind {a : Attempt α} {f : α → Attempt β} (ha : Steady id a)
    (hf : ∀ b, Steady view' (f b)) : Steady view' (a >>= f) := by
  obtain ⟨x, u, hyields, hu⟩ := ha
  obtain ⟨x', w, hw, hadds⟩ :=
    hyields.bindView hf fun b b' (h : b = b') _ => by rw [h]
  refine ⟨x', w, hw, ?_⟩
  rcases hadds with rfl | ⟨v, hv, rfl⟩
  · exact hu
  · simp [hu, hv]

/-! ## Numbers of objects -/

/-- An attempt that looks at nothing in the trail but how many objects were made before. -/
def Numbered (a : Attempt α) : Prop :=
  ∀ n, ∃ x u, ∀ t : Trail, t.made = n → a.runFrom t = (x, t.extend u)

theorem Silent.numbered {a : Attempt α} (h : Silent id a) : Numbered a := by
  intro n
  obtain ⟨x, u, hyields, -⟩ := h
  exact ⟨x, u, fun t _ => hyields.runFrom_eq t⟩

theorem Numbered.bind {a : Attempt α} {f : α → Attempt β} (ha : Numbered a)
    (hf : ∀ b, Numbered (f b)) : Numbered (a >>= f) := by
  intro n
  obtain ⟨x, u, hfirst⟩ := ha n
  cases x with
  | error g =>
    refine ⟨.error g, u, fun t ht => ?_⟩
    rw [runFrom_bind, hfirst t ht]
  | ok b =>
    -- the second stage finds the objects of the first one made as well
    obtain ⟨y, v, hsecond⟩ := hf b (n + u.made)
    refine ⟨y, u.extend v, fun t ht => ?_⟩
    have hmade : (t.extend u).made = n + u.made := congrArg (· + u.made) ht
    rw [runFrom_bind, hfirst t ht]
    show (f b).runFrom (t.extend u) = _
    rw [hsecond _ hmade, Trail.extend_extend]

end Attempt

end ContractBuild
