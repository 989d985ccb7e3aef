import ContractBuild.Proofs.Build.Steady
import ContractBuild.Proofs.Engine.Escapes

/-!
# The default engine and repeated loads

Without a reference the entry point with the least name is loaded, the earliest registered among
those of that name (`defaultEntryPoint_eq_some_iff`), and from there on nothing is different from
loading its reference: no other entry point is looked at, whether the loading succeeds or not. So
the order in which entry points of different names are registered does not count.

What a reference leads to is used or called in the same way on every load. An engine that a module
holds is the same object each time, even if it can be called; a class, and anything else that can be
called and is no engine, makes a new object each time. `default_and_repeated_loads` puts both
together.
-/

namespace ContractBuild

namespace Engine

open Attempt (Numbered)

variable {es es' : List (String × String)} {e x : String × String} {modules : Universe}
variable {name reference moduleName attr : String} {t : Trail}

/-! ## The least name -/

/-- The entry point with the least name, the earliest among those of that name: the names before it
are greater, and none behind it is smaller. -/
def Selected (es : List (String × String)) (e : String × String) : Prop :=
  ∃ before after, es = before ++ e :: after ∧ (∀ x ∈ before, e.1 < x.1) ∧ ∀ x ∈ after, e.1 ≤ x.1

theorem Selected.mem (h : Selected es e) : e ∈ es := by
  obtain ⟨before, after, rfl, -, -⟩ := h
  exact List.mem_append_right before (List.mem_cons_self ..)

theorem Selected.le (h : Selected es e) (hx : x ∈ es) : e.1 ≤ x.1 := by
  obtain ⟨before, after, rfl, hbefore, hafter⟩ := h
  rcases List.mem_append.1 hx with hx | hx
  · exact (String.le_total e.1 x.1).resolve_right (String.not_le.2 (hbefore x hx))
  · rcases List.mem_cons.1 hx with rfl | hx
    · exact String.le_refl _
    · exact hafter x hx

theorem selected_cons_iff :
    Selected (x :: es) e ↔ (e = x ∧ ∀ y ∈ es, x.1 ≤ y.1) ∨ (e.1 < x.1 ∧ Selected es e) := by
  constructor
  · intro ⟨before, after, hsplit, hbefore, hafter⟩
    cases before with
    | nil =>
      obtain ⟨rfl, rfl⟩ := List.cons.inj hsplit
      exact .inl ⟨rfl, hafter⟩
    | cons b before =>
      obtain ⟨rfl, rfl⟩ := List.cons.inj hsplit
      obtain ⟨hfirst, hothers⟩ := List.forall_mem_cons.1 hbefore
      exact .inr ⟨hfirst, before, after, rfl, hothers, hafter⟩
  · intro h
    rcases h with ⟨rfl, hleast⟩ | ⟨hlt, before, after, rfl, hbefore, hafter⟩
    · exact ⟨[], es, rfl, by simp, hleast⟩
    · exact ⟨x :: before, after, rfl, List.forall_mem_cons.2 ⟨hlt, hbefore⟩, hafter⟩

theorem nameLe_trans (a b c : String × String) (hab : decide (a.1 ≤ b.1) = true)
    (hbc : decide (b.1 ≤ c.1) = true) : decide (a.1 ≤ c.1) = true := by
  simp only [decide_eq_true_eq] at hab hbc ⊢
  exact String.le_trans hab hbc

theorem nameLe_total (a b : String × String) :
    (decide (a.1 ≤ b.1) || decide (b.1 ≤ a.1)) = true := by
  simpa using String.le_total a.1 b.1

/-- Sorting by names puts the selected entry point in front. -/
theorem defaultEntryPoint_eq_some_iff : defaultEntryPoint es = some e ↔ Selected es e := by
  induction es with
  | nil =>
    constructor
    · intro h
      exact absurd h (by simp [defaultEntryPoint])
    · intro h
      exact absurd h.mem (by simp)
  | cons x es ih =>
    -- sorting is stable: the first entry point stands in the sorted list before all of its name
    obtain ⟨front, back, hsorted, hrest, hfront⟩ :=
      List.mergeSort_cons nameLe_trans nameLe_total x es
    rw [selected_cons_iff, ← ih, defaultEntryPoint, defaultEntryPoint, hsorted, hrest]
    cases front with
    | nil =>
      have hordered := List.pairwise_mergeSort nameLe_trans nameLe_total (x :: es)
      rw [hsorted] at hordered
      have hleast : ∀ y ∈ es, x.1 ≤ y.1 := by
        intro y hy
        have hback : y ∈ back := by
          have hmem : y ∈ es.mergeSort fun a b => decide (a.1 ≤ b.1) := List.mem_mergeSort.2 hy
          rwa [hrest] at hmem
        simpa using List.rel_of_pairwise_cons hordered hback
      constructor
      · intro h
        exact .inl ⟨(Option.some.inj h).symm, hleast⟩
      · intro h
        rcases h with ⟨rfl, -⟩ | ⟨hlt, hhead⟩
        · rfl
        · have hmem : e ∈ es := by
            have hback : e ∈ [] ++ back := List.mem_of_head? hhead
            rw [← hrest] at hback
            exact List.mem_mergeSort.1 hback
          exact absurd (hleast e hmem) (String.not_le.2 hlt)
    | cons b front =>
      have hlt : b.1 < x.1 := by
        have hle := hfront b (List.mem_cons_self ..)
        exact String.not_le.1 (by simpa using hle)
      constructor
      · intro h
        obtain rfl : b = e := Option.some.inj h
        exact .inr ⟨hlt, rfl⟩
      · intro h
        rcases h with ⟨-, hleast⟩ | ⟨-, hhead⟩
        · have hmem : b ∈ es := by
            have hfirst : b ∈ (b :: front) ++ back := by simp
            rw [← hrest] at hfirst
            exact List.mem_mergeSort.1 hfirst
          exact absurd (hleast b hmem) (String.not_le.2 hlt)
        · exact hhead

/-- Where something is registered, something is selected. -/
theorem exists_selected (h : es ≠ []) : ∃ e, Selected es e := by
  cases hdefault : defaultEntryPoint es with
  | some e => exact ⟨e, defaultEntryPoint_eq_some_iff.1 hdefault⟩
  | none =>
    have hlength : (es.mergeSort fun a b => decide (a.1 ≤ b.1)).length = es.length :=
      List.length_mergeSort ..
    rw [List.head?_eq_none_iff.1 hdefault] at hlength
    exact absurd (List.length_eq_zero_iff.1 hlength.symm) h

/-- Among different names the least one is selected, wherever it stands. -/
theorem selected_of_nodup (hnames : (es.map Prod.fst).Nodup) (he : e ∈ es)
    (hle : ∀ x ∈ es, e.1 ≤ x.1) : Selected es e := by
  obtain ⟨before, after, rfl⟩ := List.append_of_mem he
  obtain ⟨hbefore, hafter⟩ := List.forall_mem_append.1 hle
  refine ⟨before, after, rfl, fun x hx => ?_, (List.forall_mem_cons.1 hafter).2⟩
  have hne : x.1 ≠ e.1 := by
    rw [List.map_append, List.map_cons] at hnames
    have hdisjoint := (List.nodup_append.1 hnames).2.2
    exact hdisjoint x.1 (List.mem_map_of_mem hx) e.1 (List.mem_cons_self ..)
  refine String.not_le.1 fun hge => ?_
  exact hne (String.le_antisymm hge (hbefore x hx))

theorem defaultEntryPoint_of_perm (hperm : es.Perm es') (hnames : (es.map Prod.fst).Nodup) :
    defaultEntryPoint es = defaultEntryPoint es' := by
  by_cases hempty : es = []
  · subst hempty
    rw [List.nil_perm.1 hperm]
  · obtain ⟨e, he⟩ := exists_selected hempty
    have hnames' : (es'.map Prod.fst).Nodup := (hperm.map Prod.fst).nodup hnames
    have he' : Selected es' e := by
      refine selected_of_nodup hnames' (hperm.mem_iff.1 he.mem) fun x hx => ?_
      exact he.le (hperm.mem_iff.2 hx)
    rw [defaultEntryPoint_eq_some_iff.2 he, defaultEntryPoint_eq_some_iff.2 he']

/-! ## Loading the default -/

theorem numbered_obtain (moduleName attr : String) (a : Attribute) :
    Numbered (obtain moduleName attr a) := by
  intro n
  cases a with
  | object o => exact ⟨.ok (o, .held moduleName attr), {}, fun t _ => by simp [obtain]⟩
  | maker call =>
    cases call with
    | error f => exact ⟨.error f, {}, fun t _ => by rw [Trail.extend_blank]; rfl⟩
    | ok o =>
      refine ⟨.ok (o, .made n), { made := 1 }, fun t ht => ?_⟩
      subst ht
      simp [Trail.extend]
      rfl

/-- Loading a reference depends on what happened before only in the number of an object it makes. -/
theorem numbered_loadReference (r : Registry) (reference : String) :
    Numbered (loadReference r reference) := by
  refine (silent_resolveReference r reference).numbered.bind fun ⟨moduleName, attr, a⟩ => ?_
  refine (numbered_obtain moduleName attr a).bind fun ⟨o, identity⟩ => ?_
  cases o with
  | engine e =>
    exact (Attempt.silent_record _).numbered.bind fun _ => (Attempt.silent_pure _).numbered
  | _ => exact (Attempt.silent_refuse _ _).numbered

/-- Loading without a reference is loading the reference of the selected entry point, with a record
of the selection in front. -/
theorem load_of_selected (h : Selected es (name, reference)) (es' : List (String × String))
    (t : Trail) :
    ∃ x u, (load ⟨modules, es'⟩ (some reference)).runFrom t = (x, t.extend u)
      ∧ (load ⟨modules, es⟩ none).runFrom t
        = (x, (t.extend { log := [selectedRecord name reference] }).extend u) := by
  obtain ⟨x, u, hload⟩ := numbered_loadReference ⟨modules, es'⟩ reference t.made
  refine ⟨x, u, hload t rfl, ?_⟩
  have hdefault : load ⟨modules, es⟩ none = (do
      Attempt.record (selectedRecord name reference)
      loadReference ⟨modules, es'⟩ reference) := by
    rw [load, defaultEntryPoint_eq_some_iff.2 h]
    rfl
  have hmade : (t.extend { log := [selectedRecord name reference] }).made = t.made := rfl
  rw [hdefault, Attempt.runFrom_bind, Attempt.runFrom_record, ← hload _ hmade]
  simp [Trail.extend]

theorem load_of_nothing (t : Trail) :
    (load ⟨modules, []⟩ none).runFrom t = (.error (.refused notConfigured), t) := by
  rw [load, defaultEntryPoint, List.mergeSort_nil]
  exact Attempt.runFrom_refuse notConfigured "" t

theorem load_of_perm (hperm : es.Perm es') (hnames : (es.map Prod.fst).Nodup) :
    load ⟨modules, es⟩ none = load ⟨modules, es'⟩ none := by
  rw [load, load, defaultEntryPoint_of_perm hperm hnames]
  rfl

/-! ## What a reference leads to -/

/-- A reference leads to a value that a module holds. What a module's `__getattr__` answers is no
such value: it may be another one each time. -/
structure Finds (modules : Universe) (reference moduleName attr : String) (h : Holding) :
    Prop where
  names : Names reference moduleName attr
  holds : ∃ m imported, Module.load modules [] moduleName = (.ok m, imported)
    ∧ m.find? imported attr = some (.ofHolding h)

variable {h : Holding} {o : Engine} {call : Except Failure Object}

/-- An engine that is no class is used as it is, even if it can be called. -/
theorem ofHolding_of_engine (hobject : h.object = .engine o) (hclass : h.isClass = false) :
    Attribute.ofHolding h = .object (.engine o) := by
  unfold Attribute.ofHolding
  rw [hobject, hclass]
  cases h.call? <;> rfl

/-- A class is called although it passes for an engine, anything else only if it does not. -/
theorem ofHolding_of_called (hcall : h.call? = some call)
    (hkind : h.isClass = true ∨ h.object.isEngine = false) :
    Attribute.ofHolding h = .maker call := by
  unfold Attribute.ofHolding
  rw [hcall]
  cases hkind with
  | inl hclass => simp [hclass]
  | inr hobject => simp [hobject]

theorem Finds.resolve (hfinds : Finds modules reference moduleName attr h)
    (es : List (String × String)) (t : Trail) :
    (resolveReference ⟨modules, es⟩ reference).runFrom t
      = (.ok (moduleName, attr, .ofHolding h), t) := by
  obtain ⟨m, imported, hload, hfind⟩ := hfinds.holds
  refine resolveReference_eq_ok_iff.2 ⟨hfinds.names, rfl, m, imported, hload, ?_⟩
  rw [Module.get, hfind]

/-- What becomes of an object that a reference leads to. -/
def verdict (reference : String) (identity : Identity) : Object → Except Failure Loaded
  | .engine e => .ok ⟨e, identity⟩
  | _ => .error (.refused (notAnEngine reference))

theorem refuses_making_nothing {α : Type} (r : Refusal) (details : String) (t : Trail) :
    ∃ u, (Attempt.refuse r details : Attempt α).runFrom t = (.error (.refused r), t.extend u)
      ∧ u.made = 0 := by
  refine ⟨Attempt.noted {} r details, ?_, Attempt.made_noted {} r details⟩
  rw [Attempt.runFrom_refuse, Attempt.noted_eq_extend]

theorem loadReference_of_obtained {r : Registry} {a : Attribute} {made : Object}
    {identity : Identity} {t' : Trail}
    (hresolve : (resolveReference r reference).runFrom t = (.ok (moduleName, attr, a), t))
    (hobtain : (obtain moduleName attr a).runFrom t = (.ok (made, identity), t')) :
    ∃ u, (loadReference r reference).runFrom t = (verdict reference identity made, t'.extend u)
      ∧ u.made = 0 := by
  rw [loadReference, Attempt.runFrom_bind, hresolve]
  simp only [Attempt.runFrom_bind, hobtain]
  cases made with
  | engine e =>
    refine ⟨{ log := [loadedRecord reference e] }, ?_, rfl⟩
    rw [Attempt.runFrom_bind, Attempt.runFrom_record]
    simp [verdict, Trail.extend]
  | _ => exact refuses_making_nothing (notAnEngine reference) _ t'

/-- An engine in use is the object that the module holds, from whatever trail it is loaded. -/
theorem load_of_engine (hfinds : Finds modules reference moduleName attr h)
    (hobject : h.object = .engine o) (hclass : h.isClass = false) (es : List (String × String))
    (t : Trail) :
    ∃ u, (load ⟨modules, es⟩ (some reference)).runFrom t
        = (.ok ⟨o, .held moduleName attr⟩, t.extend u) ∧ u.made = 0 := by
  have hresolve := hfinds.resolve es t
  rw [ofHolding_of_engine hobject hclass] at hresolve
  exact loadReference_of_obtained hresolve rfl

/-- What is called is called on every load, and an object it gives is a new one. -/
theorem load_of_called (hfinds : Finds modules reference moduleName attr h)
    (hcall : h.call? = some call) (hkind : h.isClass = true ∨ h.object.isEngine = false)
    (es : List (String × String)) (t : Trail) :
    ∃ u, (load ⟨modules, es⟩ (some reference)).runFrom t
        = (call >>= verdict reference (.made t.made), t.extend u)
      ∧ u.made = if call.isOk then 1 else 0 := by
  have hresolve := hfinds.resolve es t
  rw [ofHolding_of_called hcall hkind] at hresolve
  cases call with
  | error f =>
    refine ⟨{}, ?_, rfl⟩
    rw [load, loadReference, Attempt.runFrom_bind, hresolve, Trail.extend_blank]
    rfl
  | ok made =>
    have hobtain : (obtain moduleName attr (.maker (.ok made))).runFrom t
        = (.ok (made, .made t.made), t.extend { made := 1 }) := by
      simp [Trail.extend]
      rfl
    obtain ⟨u, hload, hu⟩ := loadReference_of_obtained hresolve hobtain
    refine ⟨({ made := 1 } : Trail).extend u, ?_, ?_⟩
    · rw [← Trail.extend_extend]
      exact hload
    · show 1 + u.made = 1
      rw [hu]

/-! ## Loading again and again -/

/-- When a stage gives from every trail what the number of objects made so far tells, and makes `k`
more, its repetition gives the results for the numbers `k` apart. -/
theorem runFrom_mapM_replicate {α β : Type} {f : α → Attempt β} {a : α} {g : Nat → β} {k : Nat}
    (hstep : ∀ t, ∃ u, (f a).runFrom t = (.ok (g t.made), t.extend u) ∧ u.made = k) (n : Nat)
    (t : Trail) :
    (((List.replicate n a).mapM f).runFrom t).1
      = .ok ((List.range n).map fun i => g (t.made + i * k)) := by
  induction n generalizing t with
  | zero => rfl
  | succ n ih =>
    obtain ⟨u, hrun, hu⟩ := hstep t
    have hmade : (t.extend u).made = t.made + k := congrArg (t.made + ·) hu
    have hrest := ih (t.extend u)
    rw [List.replicate_succ, List.mapM_cons, Attempt.runFrom_bind, hrun]
    simp only [Attempt.runFrom_bind]
    generalize ((List.replicate n a).mapM f).runFrom (t.extend u) = rest at hrest
    obtain ⟨x, t'⟩ := rest
    obtain rfl : x = _ := hrest
    rw [List.range_succ_eq_map]
    simp [hmade, Nat.add_mul, Nat.add_assoc, Nat.add_comm k]

/-! ## The default, and every load -/

/-- Without a reference, exactly one of the registered entry points is selected, and everything goes
as with its reference, whatever else is registered. The order of different names does not count. An
engine that a module holds is the same object on every load, and what is called is called on every
load: an engine made that way is a new object each time. -/
theorem default_and_repeated_loads (modules : Universe) :
    (∀ t, (load ⟨modules, []⟩ none).runFrom t = (.error (.refused notConfigured), t))
    ∧ (∀ es, es ≠ [] → ∃ e, (∀ x, Selected es x ↔ x = e) ∧
        ∀ es' t, ∃ x u, (load ⟨modules, es'⟩ (some e.2)).runFrom t = (x, t.extend u)
          ∧ (load ⟨modules, es⟩ none).runFrom t
            = (x, (t.extend { log := [selectedRecord e.1 e.2] }).extend u))
    ∧ (∀ es es' : List (String × String), es.Perm es' → (es.map Prod.fst).Nodup →
        load ⟨modules, es⟩ none = load ⟨modules, es'⟩ none)
    ∧ (∀ es reference moduleName attr h, Finds modules reference moduleName attr h →
        (∀ o, h.object = .engine o → h.isClass = false → ∀ n t,
          (((List.replicate n (some reference)).mapM (load ⟨modules, es⟩)).runFrom t).1
            = .ok (List.replicate n ⟨o, .held moduleName attr⟩))
        ∧ (∀ call, h.call? = some call → (h.isClass = true ∨ h.object.isEngine = false) →
          (∀ t, ((load ⟨modules, es⟩ (some reference)).runFrom t).1
            = call >>= verdict reference (.made t.made))
          ∧ (∀ o, call = .ok (.engine o) → ∀ n t,
            (((List.replicate n (some reference)).mapM (load ⟨modules, es⟩)).runFrom t).1
              = .ok ((List.range n).map fun i => ⟨o, .made (t.made + i)⟩)))) := by
  refine ⟨load_of_nothing, ?_, fun es es' => load_of_perm, ?_⟩
  · intro es hes
    obtain ⟨e, he⟩ := exists_selected hes
    refine ⟨e, fun x => ?_, load_of_selected he⟩
    rw [← defaultEntryPoint_eq_some_iff, defaultEntryPoint_eq_some_iff.2 he, Option.some_inj]
    exact eq_comm
  · intro es reference moduleName attr h hfinds
    constructor
    · intro o hobject hclass n t
      have hruns := runFrom_mapM_replicate (g := fun _ => ⟨o, .held moduleName attr⟩)
        (f := load ⟨modules, es⟩) (load_of_engine hfinds hobject hclass es) n t
      rw [hruns, List.map_const', List.length_range]
    · intro call hcall hkind
      constructor
      · intro t
        obtain ⟨u, hload, -⟩ := load_of_called hfinds hcall hkind es t
        rw [hload]
      · intro o ho n t
        subst ho
        have hruns := runFrom_mapM_replicate (g := fun m => ⟨o, .made m⟩) (k := 1)
          (f := load ⟨modules, es⟩) (load_of_called hfinds hcall hkind es) n t
        simpa only [Nat.mul_one] using hruns

/-- A module that holds a callable engine and a class of engines. -/
def workshop (o : Engine) : Module where
  name := "m"
  attributes := [
    ("tool", .ofHolding { object := .engine o, call? := some (.ok (.other "int")) }),
    ("Tool", .ofHolding { object := .engine o, isClass := true, call? := some (.ok (.engine o)) })]

theorem workshop_finds_tool (o : Engine) :
    Finds [workshop o] "m:tool" "m" "tool"
      { object := .engine o, call? := some (.ok (.other "int")) } where
  names := ⟨by decide, by decide, by decide⟩
  holds := ⟨workshop o, ["m"], by rfl, by rfl⟩

theorem workshop_finds_class (o : Engine) :
    Finds [workshop o] "m:Tool" "m" "Tool"
      { object := .engine o, isClass := true, call? := some (.ok (.engine o)) } where
  names := ⟨by decide, by decide, by decide⟩
  holds := ⟨workshop o, ["m"], by rfl, by rfl⟩

/-- Of three entry points the second one is selected, whose engine is not called although it can be;
the class is called on each load. -/
theorem workshop_default_and_repeated_loads :
    let o := Engine.impostor "Tool"
    let registry : Registry := ⟨[workshop o], [("z", "m:Tool"), ("a", "m:tool"), ("b", "m:Tool")]⟩
    ((load registry none).runFrom {}).1 = .ok ⟨o, .held "m" "tool"⟩
      ∧ (((List.replicate 2 (some "m:tool")).mapM (load registry)).runFrom {}).1
        = .ok (List.replicate 2 ⟨o, .held "m" "tool"⟩)
      ∧ (((List.replicate 2 (some "m:Tool")).mapM (load registry)).runFrom {}).1
        = .ok [⟨o, .made 0⟩, ⟨o, .made 1⟩] := by
  intro o registry
  obtain ⟨-, hdefault, -, hloads⟩ := default_and_repeated_loads [workshop o]
  obtain ⟨hheld, -⟩ := hloads registry.entryPoints _ _ _ _ (workshop_finds_tool o)
  obtain ⟨-, hcalled⟩ := hloads registry.entryPoints _ _ _ _ (workshop_finds_class o)
  refine ⟨?_, hheld o rfl rfl 2 {}, (hcalled _ rfl (.inl rfl)).2 o rfl 2 {}⟩
  obtain ⟨e, he, hload⟩ := hdefault registry.entryPoints (by simp [registry])
  have hselected : Selected registry.entryPoints ("a", "m:tool") :=
    ⟨[("z", "m:Tool")], [("b", "m:Tool")], rfl, by decide, by decide⟩
  obtain rfl : ("a", "m:tool") = e := (he _).1 hselected
  obtain ⟨x, u, hreference, hnone⟩ := hload [] {}
  have hsame : ((load registry none).runFrom {}).1
      = ((load ⟨[workshop o], []⟩ (some "m:tool")).runFrom {}).1 := by
    rw [hnone, hreference]
  rw [hsame]
  rfl

end Engine

end ContractBuild
