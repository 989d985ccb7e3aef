import ContractBuild.Engine.Load
import ContractBuild.Proofs.Sources.Failures

/-!
# What gets past the loader of engines

Loading an engine runs foreign code: the modules on the way are imported, a module may be asked
for its search path and then for the attribute, and a class or factory is called. The loader turns
two kinds of errors into the refusal that there is no such engine: errors of importing while it
imports, and errors of missing attributes while it looks for one. `Escapes` lists everything else
that may be raised on the way, and `load_escapes_iff` says that in these cases, and in no others,
loading ends with neither an engine nor that refusal.

The list follows the import: a dotted name is imported package by package, and `Escapes` says at
which of them something is raised and that everything before it went well. One of the ways takes
no foreign code at all: a module name that starts with a point (`relative_module_escapes`).

Looking at a loaded object is assumed to raise nothing (see `Engine.Universe`).
-/

namespace ContractBuild

variable {u : Universe} {f : Failure}

namespace Failure

/-- Whether a failure means that something cannot be imported. -/
def meansNoImport : Failure → Bool
  | foreign x => x.isImport
  | _ => false

/-- Whether a failure is the refusal that there is no engine. -/
def meansNoEngine : Failure → Bool
  | refused (.engine _) => true
  | _ => false

end Failure

namespace Module

variable {imported imported' : Imported} {parent found : Option Module} {name : String}

theorem meansNoImport_notFound (message : String) : (notFound message).meansNoImport = true := rfl

/-! ## Importing -/

/-- What is raised when a module is imported below a parent: by the parent, when it is asked for its
search path, or by the module itself. -/
inductive Raises (u : Universe) (imported : Imported) :
    Option Module → String → Failure → Prop where
  | searching {p : Module} {name : String} {f : Failure}
      (hget : p.get imported "__path__" = .error f) (hf : f.meansNoAttribute = false) :
      Raises u imported (some p) name f
  | importing {parent : Option Module} {m : Module} {name : String} {f : Failure}
      (hparent : ∀ p ∈ parent, p.checkPackage imported name = .ok ())
      (hfind : u.reverse.find? (·.name = name) = some m) (hraise : m.importError = some f) :
      Raises u imported parent name f

theorem checkPackage_fails_iff {p : Module} (hf : f.meansNoImport = false) :
    p.checkPackage imported name = .error f ↔
      p.get imported "__path__" = .error f ∧ f.meansNoAttribute = false := by
  unfold checkPackage
  cases hget : p.get imported "__path__" with
  | ok a => simp
  | error g =>
    cases hg : g.meansNoAttribute with
    | false =>
      simp only [hg, Bool.false_eq_true, if_false, Except.error.injEq]
      constructor
      · intro h
        exact ⟨h, h ▸ hg⟩
      · exact And.left
    | true =>
      simp only [hg, if_true, Except.error.injEq]
      constructor
      · intro h
        rw [← h, meansNoImport_notFound] at hf
        exact absurd hf (by decide)
      · intro ⟨hgf, hlacks⟩
        rw [← hgf, hg] at hlacks
        exact absurd hlacks (by decide)

/-- What follows the check of the parent, which is all there is without a parent. -/
theorem importStep_none_fails_iff (hf : f.meansNoImport = false) :
    importStep u imported none name = .error f ↔
      ∃ m, u.reverse.find? (·.name = name) = some m ∧ m.importError = some f := by
  simp only [importStep]
  cases hfind : u.reverse.find? (·.name = name) with
  | none =>
    constructor
    · intro h
      obtain rfl := Except.error.inj h
      rw [meansNoImport_notFound] at hf
      exact absurd hf (by decide)
    · intro ⟨m, hm, _⟩
      exact absurd hm (by simp)
  | some m =>
    cases hraise : m.importError with
    | none => simp [hraise, pure, Except.pure]
    | some g => simp [hraise, throw, throwThe, MonadExceptOf.throw]

theorem importStep_fails_iff (hf : f.meansNoImport = false) :
    importStep u imported parent name = .error f ↔ Raises u imported parent name f := by
  cases parent with
  | none =>
    rw [importStep_none_fails_iff hf]
    constructor
    · intro ⟨m, hfind, hraise⟩
      exact .importing (by simp) hfind hraise
    · intro h
      cases h with
      | importing _ hfind hraise => exact ⟨_, hfind, hraise⟩
  | some p =>
    have hstep : importStep u imported (some p) name =
        p.checkPackage imported name >>= fun _ => importStep u imported none name := rfl
    rw [hstep, bind_eq_error_iff, checkPackage_fails_iff hf, importStep_none_fails_iff hf]
    constructor
    · intro h
      cases h with
      | inl h => exact .searching h.1 h.2
      | inr h =>
        obtain ⟨_, hcheck, m, hfind, hraise⟩ := h
        exact .importing (by simpa using hcheck) hfind hraise
    · intro h
      cases h with
      | searching hget hlacks => exact .inl ⟨hget, hlacks⟩
      | importing hparent hfind hraise => exact .inr ⟨(), hparent p rfl, _, hfind, hraise⟩

theorem importAll_cons_fails_iff {names : List String} :
    (importAll u imported parent (name :: names)).1 = .error f ↔
      importStep u imported parent name = .error f
        ∨ ∃ m, importStep u imported parent name = .ok m
          ∧ (importAll u (imported ++ [name]) (some m) names).1 = .error f := by
  rw [importAll]
  cases importStep u imported parent name <;> simp

theorem importAll_cons_eq_ok_iff {names : List String} :
    importAll u imported parent (name :: names) = (.ok found, imported') ↔
      ∃ m, importStep u imported parent name = .ok m
        ∧ importAll u (imported ++ [name]) (some m) names = (.ok found, imported') := by
  rw [importAll]
  cases importStep u imported parent name <;> simp

/-- Importing names in order fails at the first that cannot be imported. -/
theorem importAll_fails_iff {names : List String} :
    ∀ {imported : Imported} {parent : Option Module},
      (importAll u imported parent names).1 = .error f ↔
        ∃ before name after p, names = before ++ name :: after
          ∧ importAll u imported parent before = (.ok p, imported ++ before)
          ∧ importStep u (imported ++ before) p name = .error f := by
  induction names with
  | nil => simp [importAll]
  | cons first names ih =>
    intro imported parent
    rw [importAll_cons_fails_iff]
    constructor
    · intro h
      cases h with
      | inl hstep =>
        exact ⟨[], first, names, parent, rfl, by simp [importAll], by simpa using hstep⟩
      | inr h =>
        obtain ⟨m, hstep, hrest⟩ := h
        obtain ⟨before, name, after, p, rfl, hbefore, hname⟩ := ih.1 hrest
        rw [List.append_assoc, List.singleton_append] at hbefore hname
        exact ⟨first :: before, name, after, p, rfl,
          importAll_cons_eq_ok_iff.2 ⟨m, hstep, hbefore⟩, hname⟩
    · intro ⟨before, name, after, p, hsplit, hbefore, hname⟩
      cases before with
      | nil =>
        obtain ⟨rfl, -⟩ := List.cons.inj hsplit
        obtain rfl : parent = p := by simpa [importAll] using hbefore
        exact .inl (by simpa using hname)
      | cons b before =>
        obtain ⟨rfl, hlater⟩ := List.cons.inj hsplit
        obtain ⟨m, hstep, hbefore⟩ := importAll_cons_eq_ok_iff.1 hbefore
        rw [List.append_cons imported _ before] at hbefore hname
        exact .inr ⟨m, hstep, ih.2 ⟨before, name, after, p, hlater, hbefore, hname⟩⟩

/-- A dotted name has at least one name on its way. -/
theorem ancestry_ne_nil (name : String) : ancestry name ≠ [] := by
  unfold ancestry
  rw [← List.dropLast_concat_getLast (List.splitOn_ne_nil '.' name.toList), List.foldl_append,
    List.foldl_cons, List.foldl_nil]
  simp only
  split
  next => simp
  next => simp

/-- With names to import there is a module at the end. -/
theorem importAll_ne_none {names : List String} (h : names ≠ []) :
    (importAll u imported parent names).1 ≠ .ok none := by
  have hsome : ∀ (names : List String) (imported : Imported) (m : Module),
      (importAll u imported (some m) names).1 ≠ .ok none := by
    intro names
    induction names with
    | nil => simp [importAll]
    | cons name names ih =>
      intro imported m
      rw [importAll]
      split
      next => simp
      next next _ => exact ih _ next
  cases names with
  | nil => exact absurd rfl h
  | cons name names =>
    rw [importAll]
    split
    next => simp
    next => exact hsome names _ _

/-- A module on the way of a dotted name: those before it were imported in order, and the last of
them is its parent. -/
structure OnTheWay (u : Universe) (dotted : String) (before : List String)
    (parent : Option Module) (name : String) : Prop where
  split : ∃ after, ancestry dotted = before ++ name :: after
  imported : importAll u [] none before = (.ok parent, before)

/-- Importing a module by its dotted name fails, unless for lack of something to import, if the name
is no absolute one or something on its way raises an error. -/
theorem load_fails_iff {dotted : String} (hname : dotted ≠ "") (hf : f.meansNoImport = false) :
    (load u [] dotted).1 = .error f ↔
      (dotted.toList.head? = some '.' ∧ f = .misuse (.relativeModule dotted))
        ∨ dotted.toList.head? ≠ some '.' ∧ ∃ before parent name,
          OnTheWay u dotted before parent name ∧ Raises u before parent name f := by
  unfold load
  by_cases hdot : dotted.toList.head? = some '.'
  · simp [hdot, eq_comm]
  · rw [if_neg hdot, if_neg hname]
    have hall : (importAll u [] none (ancestry dotted)).1 = .error f ↔ ∃ before parent name,
        OnTheWay u dotted before parent name ∧ Raises u before parent name f := by
      rw [importAll_fails_iff]
      constructor
      · intro ⟨before, name, after, p, hsplit, hbefore, hstep⟩
        rw [List.nil_append] at hbefore hstep
        exact ⟨before, p, name, ⟨⟨after, hsplit⟩, hbefore⟩, (importStep_fails_iff hf).1 hstep⟩
      · intro ⟨before, p, name, hway, hraises⟩
        obtain ⟨after, hsplit⟩ := hway.split
        exact ⟨before, name, after, p, hsplit, by simpa using hway.imported,
          by simpa using (importStep_fails_iff hf).2 hraises⟩
    have hnone : (importAll u [] none (ancestry dotted)).1 ≠ .ok none :=
      importAll_ne_none (ancestry_ne_nil dotted)
    simp only [hdot, false_and, false_or, not_false_eq_true, true_and, ne_eq]
    rw [← hall]
    split
    next h => simp [h]
    next h => exact absurd (by rw [h]) hnone
    next h => simp [h]

end Module

namespace Engine

variable {r : Registry} {ref : Option String} {reference moduleName attr : String} {t : Trail}

/-! ## References -/

/-- A reference that names a module and an attribute. -/
structure Names (reference moduleName attr : String) : Prop where
  split : splitReference reference = (moduleName, some attr)
  moduleName_ne : moduleName ≠ ""
  attr_ne : attr ≠ ""

/-- How a reference gets past the loader: `Escapes r reference f` says that the error `f` comes up
while the reference is loaded and that nothing on the way handles it. -/
inductive Escapes (r : Registry) (reference : String) : Failure → Prop where
  /-- The module name starts with a point. -/
  | relative {moduleName attr : String} (hnames : Names reference moduleName attr)
      (hdot : moduleName.toList.head? = some '.') :
      Escapes r reference (.misuse (.relativeModule moduleName))
  /-- A module on the way raises an error, or is asked for its search path and raises one. -/
  | importing {moduleName attr name : String} {before : List String} {parent : Option Module}
      {f : Failure} (hnames : Names reference moduleName attr)
      (hdot : moduleName.toList.head? ≠ some '.')
      (hway : Module.OnTheWay r.modules moduleName before parent name)
      (hraises : Module.Raises r.modules before parent name f) (hf : f.meansNoImport = false) :
      Escapes r reference f
  /-- The module is asked for the attribute and raises an error. -/
  | looking {moduleName attr : String} {m : Module} {imported : Imported} {f : Failure}
      (hnames : Names reference moduleName attr)
      (hload : Module.load r.modules [] moduleName = (.ok m, imported))
      (hget : m.get imported attr = .error f) (hf : f.meansNoAttribute = false) :
      Escapes r reference f
  /-- The attribute is a class or factory that raises an error. -/
  | calling {moduleName attr : String} {m : Module} {imported : Imported} {f : Failure}
      (hnames : Names reference moduleName attr)
      (hload : Module.load r.modules [] moduleName = (.ok m, imported))
      (hget : m.get imported attr = .ok (.maker (.error f))) :
      Escapes r reference f

/-- The refusals of the loader itself. -/
theorem refuse_ne_error {α : Type} {x : Refusal} {details : String} {f : Failure}
    (hx : (Failure.refused x).meansNoEngine = true) (hf : f.meansNoEngine = false) :
    (Attempt.runFrom (Attempt.refuse x details : Attempt α) t).1 ≠ .error f := by
  rw [Attempt.runFrom_refuse]
  intro h
  obtain rfl := Except.error.inj h
  rw [hx] at hf
  exact absurd hf (by decide)

/-- What finding an attribute comes to, apart from the refusals of the loader. -/
theorem resolveReference_fails_iff (hf : f.meansNoEngine = false) :
    ((resolveReference r reference).runFrom t).1 = .error f ↔
      ∃ moduleName attr, Names reference moduleName attr
        ∧ (((Module.load r.modules [] moduleName).1 = .error f ∧ f.meansNoImport = false)
          ∨ ∃ m imported, Module.load r.modules [] moduleName = (.ok m, imported)
            ∧ m.get imported attr = .error f ∧ f.meansNoAttribute = false) := by
  constructor
  · intro h
    unfold resolveReference at h
    split at h
    next => exact absurd h (refuse_ne_error rfl hf)
    next moduleName attr hsplit =>
      split at h
      next => exact absurd h (refuse_ne_error rfl hf)
      next hne =>
        simp only [Bool.or_eq_true, decide_eq_true_eq, not_or] at hne
        refine ⟨moduleName, attr, ⟨hsplit, hne.1, hne.2⟩, ?_⟩
        split at h
        next x _ hload =>
          split at h
          next => exact absurd h (refuse_ne_error rfl hf)
          next himport =>
            obtain rfl := Except.error.inj h
            exact .inl ⟨by rw [hload], Bool.eq_false_iff.2 himport⟩
        next g _ hforeign hload =>
          obtain rfl := Except.error.inj h
          refine .inl ⟨by rw [hload], ?_⟩
          cases g with
          | foreign x => exact absurd rfl (hforeign x)
          | _ => rfl
        next m imported hload =>
          split at h
          next => exact absurd h (by simp)
          next g hget =>
            split at h
            next => exact absurd h (refuse_ne_error rfl hf)
            next hlacks =>
              obtain rfl := Except.error.inj h
              exact .inr ⟨m, imported, hload, hget, Bool.eq_false_iff.2 hlacks⟩
  · intro ⟨moduleName, attr, hnames, hfails⟩
    unfold resolveReference
    rw [hnames.split]
    simp only [hnames.moduleName_ne, hnames.attr_ne, decide_false, Bool.or_self, Bool.false_eq_true,
      if_false]
    cases hfails with
    | inl h =>
      obtain ⟨hload, himport⟩ := h
      generalize Module.load r.modules [] moduleName = run at hload
      obtain ⟨x, imported⟩ := run
      obtain rfl : x = .error f := hload
      cases f with
      | foreign x =>
        have hno : x.isImport = false := himport
        simp only [hno, Bool.false_eq_true, if_false, Attempt.runFrom_fail]
      | _ => rfl
    | inr h =>
      obtain ⟨m, imported, hload, hget, hlacks⟩ := h
      rw [hload]
      simp only [hget, hlacks, Bool.false_eq_true, if_false, Attempt.runFrom_fail]

theorem resolveReference_eq_ok_iff {a : Attribute} {t' : Trail} :
    (resolveReference r reference).runFrom t = (.ok (moduleName, attr, a), t') ↔
      Names reference moduleName attr ∧ t' = t ∧ ∃ m imported,
        Module.load r.modules [] moduleName = (.ok m, imported) ∧ m.get imported attr = .ok a := by
  constructor
  · intro h
    unfold resolveReference at h
    split at h
    next => simp at h
    next moduleName' attr' hsplit =>
      split at h
      next => simp at h
      next hne =>
        simp only [Bool.or_eq_true, decide_eq_true_eq, not_or] at hne
        split at h
        next =>
          split at h
          next => simp at h
          next => simp at h
        next => simp at h
        next m imported hload =>
          split at h
          next a' hget =>
            obtain ⟨⟨rfl, rfl, rfl⟩, rfl⟩ := by simpa using h
            exact ⟨⟨hsplit, hne.1, hne.2⟩, rfl, m, imported, hload, hget⟩
          next =>
            split at h
            next => simp at h
            next => simp at h
  · intro ⟨hnames, ht, m, imported, hload, hget⟩
    unfold resolveReference
    rw [hnames.split]
    simp only [hnames.moduleName_ne, hnames.attr_ne, decide_false, Bool.or_self, Bool.false_eq_true,
      if_false, hload, hget, Attempt.runFrom_pure, ht]

/-- Only a class or factory can fail to give an object. -/
theorem obtain_fails_iff {a : Attribute} :
    ((obtain moduleName attr a).runFrom t).1 = .error f ↔ a = .maker (.error f) := by
  cases a with
  | object o => simp [obtain]
  | maker call =>
    cases call with
    | ok o =>
      show Except.ok (o, Identity.made t.made) = Except.error f ↔ _
      simp
    | error g =>
      show Except.error g = Except.error f ↔ _
      simp

/-- A reference that names a module fails with what that module or its attribute raises. -/
theorem loadReference_fails_iff (hf : f.meansNoEngine = false) :
    ((loadReference r reference).runFrom t).1 = .error f ↔ Escapes r reference f := by
  unfold loadReference
  rw [Attempt.fst_runFrom_bind_eq_error_iff]
  constructor
  · intro h
    cases h with
    | inl h =>
      obtain ⟨moduleName, attr, hnames, h⟩ := (resolveReference_fails_iff hf).1 h
      cases h with
      | inl h =>
        obtain ⟨hload, himport⟩ := h
        cases (Module.load_fails_iff hnames.moduleName_ne himport).1 hload with
        | inl h =>
          obtain ⟨hdot, rfl⟩ := h
          exact .relative hnames hdot
        | inr h =>
          obtain ⟨hdot, before, parent, name, hway, hraises⟩ := h
          exact .importing hnames hdot hway hraises himport
      | inr h =>
        obtain ⟨m, imported, hload, hget, hlacks⟩ := h
        exact .looking hnames hload hget hlacks
    | inr h =>
      obtain ⟨⟨moduleName, attr, a⟩, t₁, hresolve, h⟩ := h
      obtain ⟨hnames, -, m, imported, hload, hget⟩ := resolveReference_eq_ok_iff.1 hresolve
      cases Attempt.fst_runFrom_bind_eq_error_iff.1 h with
      | inl h =>
        rw [obtain_fails_iff.1 h] at hget
        exact .calling hnames hload hget
      | inr h =>
        -- what is left is to tell engines from other objects
        obtain ⟨⟨o, identity⟩, t₂, -, h⟩ := h
        cases o with
        | engine e =>
          have hdone : Except.ok (⟨e, identity⟩ : Loaded) = .error f := h
          exact absurd hdone (by simp)
        | _ => exact absurd h (refuse_ne_error rfl hf)
  · intro h
    cases h with
    | relative hnames hdot =>
      exact .inl ((resolveReference_fails_iff hf).2 ⟨_, _, hnames, .inl
        ⟨(Module.load_fails_iff hnames.moduleName_ne rfl).2 (.inl ⟨hdot, rfl⟩), rfl⟩⟩)
    | importing hnames hdot hway hraises himport =>
      exact .inl ((resolveReference_fails_iff hf).2 ⟨_, _, hnames, .inl
        ⟨(Module.load_fails_iff hnames.moduleName_ne himport).2
          (.inr ⟨hdot, _, _, _, hway, hraises⟩), himport⟩⟩)
    | looking hnames hload hget hlacks =>
      exact .inl ((resolveReference_fails_iff hf).2
        ⟨_, _, hnames, .inr ⟨_, _, hload, hget, hlacks⟩⟩)
    | calling hnames hload hget =>
      exact .inr ⟨_, t, resolveReference_eq_ok_iff.2 ⟨hnames, rfl, _, _, hload, hget⟩,
        Attempt.fst_runFrom_bind_eq_error_iff.2 (.inl (obtain_fails_iff.2 rfl))⟩

/-- The reference that is loaded: the given one, or that of the default entry point. -/
def chosen (r : Registry) (ref : Option String) : Option String :=
  ref <|> (defaultEntryPoint r.entryPoints).map Prod.snd

/-- Loading an engine ends with neither an engine nor the refusal that there is none if and only if
the reference that is loaded gets past the loader. -/
theorem load_escapes_iff (r : Registry) (ref : Option String) (t : Trail) (f : Failure) :
    ((load r ref).runFrom t).1 = .error f ∧ f.meansNoEngine = false ↔
      (∃ reference, chosen r ref = some reference ∧ Escapes r reference f)
        ∧ f.meansNoEngine = false := by
  constructor
  · intro ⟨hrun, hf⟩
    refine ⟨?_, hf⟩
    cases ref with
    | some reference => exact ⟨reference, rfl, (loadReference_fails_iff hf).1 hrun⟩
    | none =>
      rw [load] at hrun
      unfold chosen
      cases hdefault : defaultEntryPoint r.entryPoints with
      | none =>
        rw [hdefault] at hrun
        exact absurd hrun (refuse_ne_error rfl hf)
      | some entry =>
        rw [hdefault] at hrun
        exact ⟨entry.2, rfl, (loadReference_fails_iff hf).1 hrun⟩
  · intro ⟨⟨reference, hchosen, hescapes⟩, hf⟩
    refine ⟨?_, hf⟩
    have hrun : ∀ t, ((loadReference r reference).runFrom t).1 = .error f :=
      fun t => (loadReference_fails_iff hf).2 hescapes
    cases ref with
    | some given =>
      obtain rfl := Option.some.inj hchosen
      exact hrun t
    | none =>
      obtain ⟨entry, hdefault, rfl⟩ := Option.map_eq_some_iff.1 hchosen
      rw [load, hdefault]
      exact hrun _

/-- A module name that starts with a point ends loading in an error of another kind. -/
theorem relative_module_escapes :
    ((load {} (some ".x:Engine")).runFrom {}).1 = .error (.misuse (.relativeModule ".x")) := by
  rfl

end Engine

end ContractBuild
