import ContractBuild.Proofs.Build.Steady
import ContractBuild.Proofs.Engine.Escapes
import ContractBuild.Proofs.LogAside
import Mathlib.Data.List.Forall2

/-!
# The wording of errors

Engines and modules raise errors, each with a class and a text. Two registries are reworded forms of
each other if everything that is imported, looked up or called in one is what it is in the other, up
to the texts of errors that the loader or the driver translates: errors that mean that something
cannot be imported, where a module is imported, that something has no attribute, where an attribute
is looked up, and that an engine is gone, where it is called. Loading and calling then come to the
same but for the log (`matches_ofSource`, `Compilation.matches_run`).

Registries whose modules raise errors of other texts while they are imported are an instance
(`Registry.reworded_of_modules`).
-/

namespace ContractBuild

/-- Errors of one class, whatever their texts. -/
structure Foreign.SameClass (x y : Foreign) : Prop where
  kind : x.kind = y.kind
  bases : x.bases = y.bases

theorem Foreign.SameClass.isOf {x y : Foreign} (h : x.SameClass y) (kinds : List String) :
    x.isOf kinds = y.isOf kinds := by
  rw [Foreign.isOf, Foreign.isOf, h.kind, h.bases]

theorem Foreign.SameClass.isUnavailable {x y : Foreign} (h : x.SameClass y) :
    x.isUnavailable = y.isUnavailable := by
  rw [Foreign.isUnavailable, Foreign.isUnavailable, Foreign.isImport, Foreign.isImport, h.isOf,
    h.isOf]

/-- The same failure, or two errors of one class for which `p` holds, whatever their texts. -/
inductive Failure.Reworded (p : Foreign → Bool) : Failure → Failure → Prop
  | refl (f : Failure) : Reworded p f f
  | foreign {x y : Foreign} (hp : p x = true) (h : x.SameClass y) :
    Reworded p (.foreign x) (.foreign y)

/-- Whether an error means that something lacks an attribute. -/
def Foreign.isAttribute (x : Foreign) : Bool := x.isOf attributeKinds

/-- Engines that give the same answers and fail in the same calls. Only the texts of errors that
mean that the engine is gone may differ. -/
structure Engine.Reworded (e e' : Engine) : Prop where
  typeName : e.typeName = e'.typeName
  compile : ∀ c, Related (Failure.Reworded Foreign.isUnavailable) Eq (e.compile c) (e'.compile c)

inductive Object.Reworded : Object → Object → Prop
  | refl (o : Object) : Reworded o o
  | engine {e e' : Engine} (h : e.Reworded e') : Reworded (.engine e) (.engine e')

inductive Attribute.Reworded : Attribute → Attribute → Prop
  | object {o o' : Object} (h : o.Reworded o') : Reworded (.object o) (.object o')
  | maker {call call' : Except Failure Object} (h : Related Eq Object.Reworded call call') :
    Reworded (.maker call) (.maker call')

/-- Looking up an attribute gives the same in two modules, or they lack it. -/
def Attribute.Alike : Except Failure Attribute → Except Failure Attribute → Prop :=
  Related (Failure.Reworded Foreign.isAttribute) Attribute.Reworded

/-- Importing gives modules with the same attributes, or fails with the same error or with import
errors of one class. -/
def Module.ImportedAlike (x y : Except Failure Module × Imported) : Prop :=
  Related (Failure.Reworded Foreign.isImport)
    (fun m m' => ∀ attr, Attribute.Alike (m.get x.2 attr) (m'.get y.2 attr)) x.1 y.1

/-- Registries in which every import and every look-up comes to the same, up to texts of errors. -/
structure Engine.Registry.Reworded (r r' : Engine.Registry) : Prop where
  entryPoints : r.entryPoints = r'.entryPoints
  modules : ∀ name,
    Module.ImportedAlike (Module.load r.modules [] name) (Module.load r'.modules [] name)

/-- The same reference, or engines that are reworded forms of each other. -/
inductive Engine.Source.Reworded : Engine.Source → Engine.Source → Prop
  | given {e e' : Engine} (h : e.Reworded e') : Reworded (.given e) (.given e')
  | reference (ref : Option String) : Reworded (.reference ref) (.reference ref)

theorem Object.Reworded.typeName {o o' : Object} (h : o.Reworded o') :
    o.typeName = o'.typeName := by
  cases h with
  | refl => rfl
  | engine h => exact h.typeName

/-! ## Loading -/

namespace Engine

open Attempt (Matches)

variable {r r' : Registry} {reference : String}

theorem matches_resolveReference (h : r.Reworded r') (reference : String) :
    Matches (fun x y => x.1 = y.1 ∧ x.2.1 = y.2.1 ∧ x.2.2.Reworded y.2.2)
      (resolveReference r reference) (resolveReference r' reference) := by
  unfold resolveReference
  split
  next => exact Attempt.matches_refuse _ _ _
  next moduleName attr _ =>
    split
    next => exact Attempt.matches_refuse _ _ _
    next =>
      have himport := h.modules moduleName
      generalize Module.load r.modules [] moduleName = p at himport
      generalize Module.load r'.modules [] moduleName = q at himport
      obtain ⟨x, imported⟩ := p
      obtain ⟨y, imported'⟩ := q
      cases himport with
      | error hfg =>
        cases hfg with
        | refl =>
          rename_i f
          cases f with
          | foreign z =>
            simp only
            split
            next => exact Attempt.matches_refuse _ _ _
            next => exact Attempt.matches_fail _
          | _ => exact Attempt.matches_fail _
        | @foreign z w hz hclass =>
          -- both errors become the same refusal, each with its own details
          have hw : w.isImport = true := by rw [← hz]; exact (hclass.isOf _).symm
          simp only [hz, hw, if_true]
          exact Attempt.matches_refuse _ _ _
      | @ok m m' hget =>
        have hattr : Attribute.Alike (m.get imported attr) (m'.get imported' attr) := hget attr
        simp only
        generalize m.get imported attr = x at hattr
        generalize m'.get imported' attr = y at hattr
        cases hattr with
        | ok ha => exact Attempt.matches_pure ⟨rfl, rfl, ha⟩
        | error hfg =>
          cases hfg with
          | refl =>
            simp only
            split
            next => exact Attempt.matches_refuse _ _ _
            next => exact Attempt.matches_fail _
          | @foreign z w hz hclass =>
            have hlacks : z.isOf Foreign.attributeKinds = true := hz
            have hw : w.isOf Foreign.attributeKinds = true := by
              rw [← hclass.isOf]
              exact hlacks
            simp only [Failure.meansNoAttribute, hw, hlacks, if_true]
            exact Attempt.matches_refuse _ _ _

theorem matches_obtain (moduleName attr : String) {a a' : Attribute} (h : a.Reworded a') :
    Matches (fun x y => x.1.Reworded y.1 ∧ x.2 = y.2) (obtain moduleName attr a)
      (obtain moduleName attr a') := by
  cases h with
  | object h => exact Attempt.matches_pure ⟨h, rfl⟩
  | maker h =>
    intro t u htu
    cases h with
    | error h => exact ⟨.error h, htu⟩
    | ok h =>
      exact ⟨.ok ⟨h, congrArg Identity.made htu.made⟩, congrArg (· + 1) htu.made, htu.calls,
        htu.produced⟩

theorem matches_loadReference (h : r.Reworded r') (reference : String) :
    Matches (fun x y => x.engine.Reworded y.engine) (loadReference r reference)
      (loadReference r' reference) := by
  refine (matches_resolveReference h reference).bind ?_
  rintro ⟨moduleName, attr, a⟩ ⟨_, _, a'⟩ ⟨rfl, rfl, ha⟩
  refine (matches_obtain moduleName attr ha).bind ?_
  rintro ⟨o, identity⟩ ⟨o', _⟩ ⟨ho, rfl⟩
  cases ho with
  | engine he =>
    exact (Attempt.matches_record _ _).bind fun _ _ _ => Attempt.matches_pure he
  | refl o =>
    cases o with
    | engine e =>
      refine (Attempt.matches_record _ _).bind fun _ _ _ => Attempt.matches_pure ?_
      exact ⟨rfl, fun c => related_refl .refl (fun _ => rfl) _⟩
    | _ => exact Attempt.matches_refuse _ _ _

/-- Reworded registries give reworded engines, or refuse in the same words. -/
theorem matches_ofSource (h : r.Reworded r') {source source' : Source}
    (hsource : source.Reworded source') :
    Matches Reworded (ofSource r source) (ofSource r' source') := by
  cases hsource with
  | given he => exact Attempt.matches_pure he
  | reference ref =>
    have hload : Matches (fun x y => x.engine.Reworded y.engine) (load r ref) (load r' ref) := by
      cases ref with
      | some reference => exact matches_loadReference h reference
      | none =>
        rw [load, load, h.entryPoints]
        split
        next => exact Attempt.matches_refuse _ _ _
        next =>
          exact (Attempt.matches_record _ _).bind fun _ _ _ => matches_loadReference h _
    exact hload.bind fun _ _ he => Attempt.matches_pure he

end Engine

/-! ## Calling -/

namespace Compilation

open Attempt (Matches)

variable {e e' : Engine}

/-- That an engine is gone is told in the same words, whatever it says itself. -/
theorem matches_callEngine (h : e.Reworded e') (c : Engine.Call) :
    Matches Eq (callEngine e c) (callEngine e' c) := by
  intro t u htu
  have hcalled : (calledTrail c t).SameButLog (calledTrail c u) :=
    ⟨htu.made, congrArg (· ++ [c]) htu.calls, htu.produced⟩
  rw [runFrom_callEngine, runFrom_callEngine]
  have hcompile := h.compile c
  generalize e.compile c = x at hcompile
  generalize e'.compile c = y at hcompile
  cases hcompile with
  | ok hr => exact ⟨.ok hr, hcalled⟩
  | error hfg =>
    cases hfg with
    | @foreign z w hz hclass =>
      have hw : w.isUnavailable = true := hclass.isUnavailable ▸ hz
      simp only [hz, hw, if_true]
      exact ⟨.error rfl, hcalled.noted _ _ _⟩
    | refl =>
      rename_i f
      cases f with
      | foreign z =>
        simp only
        split
        next => exact ⟨.error rfl, hcalled.noted _ _ _⟩
        next => exact ⟨.error rfl, hcalled⟩
      | _ => exact ⟨.error rfl, hcalled⟩

theorem matches_run (h : e.Reworded e') (target : Target) (options : Options) :
    Matches Eq (run e (.mode (.target target)) options)
      (run e' (.mode (.target target)) options) := by
  obtain ⟨input, hinput⟩ : ∃ input, (Request.mode (.target target)).input? = .ok input := by
    cases target <;> exact ⟨_, rfl⟩
  rw [run_of_input hinput, run_of_input hinput]
  refine (Attempt.matches_record _ _).bind fun _ _ _ => ?_
  refine (matches_callEngine h _).bind ?_
  rintro r _ rfl
  exact (Attempt.matches_record _ _).bind fun _ _ _ => Attempt.matches_pure rfl

end Compilation

/-! ## Modules with other texts -/

namespace Module

/-- Modules that hold the same and fail in the same way while they are imported. -/
structure Reworded (m m' : Module) : Prop where
  name : m.name = m'.name
  isPackage : m.isPackage = m'.isPackage
  importError : Option.Rel (Failure.Reworded Foreign.isImport) m.importError m'.importError
  attributes : List.Forall₂ (fun a a' => a.1 = a'.1 ∧ a.2.Reworded a'.2) m.attributes m'.attributes

variable {m m' : Module} {u u' : Universe}

theorem lookup_reworded {as as' : List (String × Attribute)}
    (h : List.Forall₂ (fun a a' => a.1 = a'.1 ∧ a.2.Reworded a'.2) as as') (name : String) :
    Option.Rel Attribute.Reworded (as.lookup name) (as'.lookup name) := by
  induction h with
  | nil => exact .none
  | @cons a a' _ _ ha _ ih =>
    obtain ⟨key, a⟩ := a
    obtain ⟨_, a'⟩ := a'
    obtain ⟨rfl, ha⟩ := ha
    simp only [List.lookup_cons]
    cases name == key with
    | true => exact .some ha
    | false => exact ih

theorem find?_reworded (h : m.Reworded m') (imported : Imported) (name : String) :
    Option.Rel Attribute.Reworded (m.find? imported name) (m'.find? imported name) := by
  have hrefl (a : Attribute) : a.Reworded a := by
    cases a with
    | object o => exact .object (.refl o)
    | maker call => exact .maker (related_refl (fun _ => rfl) .refl call)
  rw [find?, find?, h.name, h.isPackage]
  split
  next => exact .some (hrefl _)
  next =>
    have hown := lookup_reworded h.attributes name
    generalize m.attributes.lookup name = x at hown
    generalize m'.attributes.lookup name = y at hown
    cases hown with
    | some ha => exact .some ha
    | none =>
      -- what is left is the same in every module of this name
      show Option.Rel _ (inherited.lookup name <|> _) (inherited.lookup name <|> _)
      generalize (inherited.lookup name <|> _) = found
      cases found with
      | none => exact .none
      | some a => exact .some (hrefl a)

theorem ownName?_reworded (h : m.Reworded m') : m.ownName? = m'.ownName? := by
  have hname := lookup_reworded h.attributes "__name__"
  rw [ownName?, ownName?, h.name]
  generalize m.attributes.lookup "__name__" = x at hname
  generalize m'.attributes.lookup "__name__" = y at hname
  cases hname with
  | none => rfl
  | some ha =>
    cases ha with
    | maker => rfl
    | object ho =>
      cases ho with
      | refl => rfl
      | engine => rfl

theorem get_reworded (h : m.Reworded m') (imported : Imported) (name : String) :
    Attribute.Alike (m.get imported name) (m'.get imported name) := by
  have hfound := find?_reworded h imported name
  have hasked := lookup_reworded h.attributes "__getattr__"
  rw [get, get, ownName?_reworded h]
  generalize m.find? imported name = x at hfound
  generalize m'.find? imported name = y at hfound
  cases hfound with
  | some ha => exact .ok ha
  | none =>
    generalize m.attributes.lookup "__getattr__" = x at hasked
    generalize m'.attributes.lookup "__getattr__" = y at hasked
    cases hasked with
    | none => exact .error (.refl _)
    | some ha =>
      cases ha with
      | object ho =>
        simp only [Attribute.call, ho.typeName]
        exact .error (.refl _)
      | maker hcall =>
        cases hcall with
        | ok ho => exact .ok (.object ho)
        | error hfg => exact .error (hfg ▸ .refl _)

/-- The search path of a package is all that matters of it. -/
theorem checkPackage_reworded (h : m.Reworded m') (imported : Imported) (name : String) :
    m.checkPackage imported name = m'.checkPackage imported name := by
  have hget := get_reworded h imported "__path__"
  rw [checkPackage, checkPackage, h.name]
  generalize m.get imported "__path__" = x at hget
  generalize m'.get imported "__path__" = y at hget
  cases hget with
  | ok => rfl
  | error hfg =>
    cases hfg with
    | refl => rfl
    | foreign hz hclass =>
      have hw := (hclass.isOf Foreign.attributeKinds).symm.trans hz
      simp only [Failure.meansNoAttribute, show Foreign.isOf _ _ = true from hz, hw, if_true]

theorem find?_universe_reworded (h : List.Forall₂ Reworded u u') (name : String) :
    Option.Rel Reworded (u.find? (·.name = name)) (u'.find? (·.name = name)) := by
  induction h with
  | nil => exact .none
  | cons hm _ ih =>
    rw [List.find?_cons, List.find?_cons, hm.name]
    split
    next => exact .some hm
    next => exact ih

theorem importStep_reworded (h : List.Forall₂ Reworded u u') (imported : Imported)
    {parent parent' : Option Module} (hparent : Option.Rel Reworded parent parent')
    (name : String) :
    Related (Failure.Reworded Foreign.isImport) Reworded (importStep u imported parent name)
      (importStep u' imported parent' name) := by
  have hnone : Related (Failure.Reworded Foreign.isImport) Reworded
      (importStep u imported none name) (importStep u' imported none name) := by
    have hfound := find?_universe_reworded (List.forall₂_reverse_iff.2 h) name
    simp only [importStep]
    generalize u.reverse.find? (·.name = name) = x at hfound
    generalize u'.reverse.find? (·.name = name) = y at hfound
    cases hfound with
    | none => exact .error (.refl _)
    | @some m m' hm =>
      have hraised := hm.importError
      simp only
      generalize m.importError = f at hraised
      generalize m'.importError = g at hraised
      cases hraised with
      | none => exact .ok hm
      | some hfg => exact .error hfg
  cases hparent with
  | none => exact hnone
  | @some p p' hp =>
    have hstep (u : Universe) (p : Module) : importStep u imported (some p) name
        = p.checkPackage imported name >>= fun _ => importStep u imported none name := rfl
    rw [hstep, hstep, checkPackage_reworded hp]
    cases p'.checkPackage imported name with
    | error f => exact .error (.refl f)
    | ok => exact hnone

theorem importAll_reworded (h : List.Forall₂ Reworded u u') (names : List String)
    (imported : Imported) {parent parent' : Option Module}
    (hparent : Option.Rel Reworded parent parent') :
    Related (Failure.Reworded Foreign.isImport) (Option.Rel Reworded)
        (importAll u imported parent names).1 (importAll u' imported parent' names).1
      ∧ (importAll u imported parent names).2 = (importAll u' imported parent' names).2 := by
  induction names generalizing imported parent parent' with
  | nil => exact ⟨.ok hparent, rfl⟩
  | cons name names ih =>
    have hstep := importStep_reworded h imported hparent name
    rw [importAll, importAll]
    generalize importStep u imported parent name = x at hstep
    generalize importStep u' imported parent' name = y at hstep
    cases hstep with
    | error hfg => exact ⟨.error hfg, rfl⟩
    | ok hm => exact ih (imported ++ [name]) (.some hm)

theorem load_reworded (h : List.Forall₂ Reworded u u') (name : String) :
    ImportedAlike (load u [] name) (load u' [] name) := by
  rw [load, load]
  split
  next => exact .error (.refl _)
  next =>
    split
    next => exact .error (.refl _)
    next =>
      obtain ⟨hresult, himported⟩ := importAll_reworded h (ancestry name) [] .none
      generalize importAll u [] none (ancestry name) = p at hresult himported
      generalize importAll u' [] none (ancestry name) = q at hresult himported
      obtain ⟨x, imported⟩ := p
      obtain ⟨y, imported'⟩ := q
      obtain rfl : imported = imported' := himported
      cases hresult with
      | error hfg => exact .error hfg
      | ok hm =>
        cases hm with
        | none => exact .error (.refl _)
        | some hm => exact .ok fun attr => get_reworded hm imported attr

end Module

/-- It is enough that the modules are the same up to the texts of the import errors that they raise
while they are imported and of the errors of the engines that they hold. -/
theorem Engine.Registry.reworded_of_modules {r r' : Engine.Registry}
    (hentries : r.entryPoints = r'.entryPoints)
    (hmodules : List.Forall₂ Module.Reworded r.modules r'.modules) : r.Reworded r' :=
  ⟨hentries, Module.load_reworded hmodules⟩

end ContractBuild
