import ContractBuild.Compilation
import ContractBuild.Engine.Canned
import ContractBuild.Engine.Load
import ContractBuild.Proofs.Ends

/-!
# What loading an engine refuses

Engines and modules are foreign code, which raises errors of its own and no refusals of the build:
`NoRefusals` says so of an engine with its producers, of what a module holds, and of a registry.
Then whatever loading an engine refuses is that there is no such engine (`ends_ofSource`), and the
engine that was loaded is one without refusals of its own.
-/

namespace ContractBuild

/-- A compilation whose producers raise no refusals. -/
def Compiled.NoRefusals (r : Compiled) : Prop := ∀ a x, r.produce a ≠ .error (.refused x)

/-- An engine that raises no refusals, neither when it is called nor later when it produces. -/
structure Engine.NoRefusals (e : Engine) : Prop where
  call : ∀ c x, e.compile c ≠ .error (.refused x)
  result : ∀ c r, e.compile c = .ok r → r.NoRefusals

/-- An object that is no engine, or an engine without refusals. -/
def Object.NoRefusals : Object → Prop
  | engine e => e.NoRefusals
  | _ => True

/-- An attribute that gives no refusals when it is called. -/
def Attribute.NoRefusals : Attribute → Prop
  | object o => o.NoRefusals
  | maker call => Ends (fun _ => False) Object.NoRefusals call

/-- A module that raises no refusals when it is imported or used. -/
structure Module.NoRefusals (m : Module) : Prop where
  importError : ∀ x, m.importError ≠ some (.refused x)
  attributes : ∀ a ∈ m.attributes, a.2.NoRefusals

/-- A registry whose modules raise no refusals. -/
def Engine.Registry.NoRefusals (r : Engine.Registry) : Prop := ∀ m ∈ r.modules, m.NoRefusals

/-- An engine source that raises no refusals beyond those of loading. -/
def Engine.Source.NoRefusals : Engine.Source → Prop
  | given e => e.NoRefusals
  | reference _ => True

/-- A script without refusals makes an engine without refusals. -/
theorem Canned.noRefusals_engine {c : Canned} (hfault : ∀ x, c.fault ≠ some (.refused x))
    (hfailure : ∀ x, c.failure ≠ some (.refused x))
    (hfailures : ∀ p ∈ c.failures, ∀ x, p.2 ≠ .refused x) : c.engine.NoRefusals := by
  constructor
  · intro call x h
    simp only [engine] at h
    split at h
    next f hf =>
      obtain rfl := Except.error.inj h
      cases hc : c.fault with
      | some g =>
        obtain rfl : g = .refused x := by simpa [hc] using hf
        exact hfault x hc
      | none => exact hfailure x (by simpa [hc] using hf)
    next => simp at h
  · intro call r h a x hproduce
    simp only [engine] at h
    split at h
    next => simp at h
    next =>
      obtain rfl := Except.ok.inj h
      simp only [answer] at hproduce
      split at hproduce
      next f hf =>
        obtain ⟨l₁, l₂, hlist, -⟩ := List.lookup_eq_some_iff.1 hf
        exact hfailures (a, f) (by simp [hlist]) x (Except.error.inj hproduce)
      next => simp at hproduce

namespace Module

variable {u : Universe} {m : Module} {P : Refusal → Prop}

theorem noRefusals_of_lookup {attributes : List (String × Attribute)} {name : String}
    {a : Attribute} (h : ∀ b ∈ attributes, b.2.NoRefusals)
    (ha : attributes.lookup name = some a) : a.NoRefusals := by
  obtain ⟨l₁, l₂, rfl, -⟩ := List.lookup_eq_some_iff.1 ha
  exact h (name, a) (by simp)

theorem noRefusals_inherited : ∀ a ∈ inherited, a.2.NoRefusals := by
  intro a ha
  simp only [inherited, List.mem_cons, List.not_mem_nil, or_false] at ha
  rcases ha with rfl | rfl | rfl | rfl | rfl | rfl | rfl | rfl | rfl | rfl | rfl | rfl | rfl | rfl
    | rfl | rfl | rfl | rfl | rfl | rfl | rfl | rfl | rfl | rfl | rfl | rfl | rfl | rfl | rfl <;>
    trivial

theorem noRefusals_of_find? (hm : m.NoRefusals) {imported : Imported} {name : String}
    {a : Attribute} (h : m.find? imported name = some a) : a.NoRefusals := by
  unfold find? at h
  split at h
  next =>
    obtain rfl := Option.some.inj h
    trivial
  next =>
    cases hown : m.attributes.lookup name with
    | some b =>
      obtain rfl : b = a := by simpa [hown] using h
      exact noRefusals_of_lookup hm.attributes hown
    | none =>
      cases hinherited : inherited.lookup name with
      | some b =>
        obtain rfl : b = a := by simpa [hown, hinherited] using h
        exact noRefusals_of_lookup noRefusals_inherited hinherited
      | none =>
        obtain ⟨-, rfl⟩ := by simpa [hown, hinherited] using h
        trivial

theorem ends_call {a : Attribute} (ha : a.NoRefusals) : Ends P Attribute.NoRefusals a.call := by
  cases a with
  | object o => trivial
  | maker made =>
    cases made with
    | ok o => exact ha
    | error f =>
      cases f with
      | refused x => exact absurd ha id
      | _ => trivial

theorem ends_get (hm : m.NoRefusals) (imported : Imported) (name : String) :
    Ends P Attribute.NoRefusals (m.get imported name) := by
  unfold get
  split
  next ha => exact noRefusals_of_find? hm ha
  next a _ ha => exact ends_call (noRefusals_of_lookup hm.attributes ha)
  next => trivial

theorem ends_checkPackage (hm : m.NoRefusals) (imported : Imported) (name : String) :
    Ends P (fun _ => True) (m.checkPackage imported name) := by
  have hget := ends_get (P := P) hm imported "__path__"
  unfold checkPackage
  split
  next => trivial
  next f hf =>
    rw [hf] at hget
    split
    next => trivial
    next => exact hget.of_error

theorem ends_importStep (hu : ∀ m ∈ u, m.NoRefusals) (imported : Imported)
    {parent : Option Module} (hparent : ∀ m ∈ parent, m.NoRefusals) (name : String) :
    Ends P NoRefusals (importStep u imported parent name) := by
  -- Without a parent nothing is checked, so this is also what follows the check of a parent.
  have hfound : Ends P NoRefusals (importStep u imported none name) := by
    simp only [importStep]
    split
    next => trivial
    next m hm =>
      have hmod := hu m (List.mem_reverse.1 (List.mem_of_find?_eq_some hm))
      split
      next f hf =>
        cases f with
        | refused x => exact absurd hf (hmod.importError x)
        | _ => trivial
      next => exact hmod
  cases parent with
  | none => exact hfound
  | some p => exact (ends_checkPackage (hparent p rfl) imported name).bind fun _ _ => hfound

theorem ends_importAll (hu : ∀ m ∈ u, m.NoRefusals) (names : List String) :
    ∀ (imported : Imported) (parent : Option Module), (∀ m ∈ parent, m.NoRefusals) →
      Ends P (fun found => ∀ m ∈ found, NoRefusals m) (importAll u imported parent names).1 := by
  induction names with
  | nil => exact fun _ _ hparent => hparent
  | cons name names ih =>
    intro imported parent hparent
    have hstep := ends_importStep (P := P) hu imported hparent name
    unfold importAll
    split
    next f hf =>
      rw [hf] at hstep
      exact hstep.of_error
    next m hm =>
      rw [hm] at hstep
      exact ih _ _ fun _ hn => Option.some.inj hn ▸ hstep

theorem ends_load (hu : ∀ m ∈ u, m.NoRefusals) (imported : Imported) (name : String) :
    Ends P NoRefusals (load u imported name).1 := by
  unfold load
  split
  next => trivial
  next =>
    split
    next => trivial
    next =>
      have hall := ends_importAll (P := P) hu (ancestry name) imported none (by simp)
      split
      next h =>
        rw [h] at hall
        exact hall _ rfl
      next => trivial
      next f _ h =>
        rw [h] at hall
        exact hall.of_error

end Module

namespace Engine

variable {registry : Registry}

/-- The refusals of loading an engine: there is none, for a reason. -/
def Refuses : Refusal → Prop
  | .engine message => message ≠ ""
  | _ => False

theorem refuses_invalidReference (reference : String) : Refuses (invalidReference reference) := by
  simp [invalidReference, Refuses]

theorem refuses_notAvailable (reference : String) : Refuses (notAvailable reference) := by
  simp [notAvailable, Refuses]

theorem refuses_notAnEngine (reference : String) : Refuses (notAnEngine reference) := by
  simp [notAnEngine, Refuses]

theorem refuses_notConfigured : Refuses notConfigured := by
  simp [notConfigured, Refuses]

theorem ends_resolveReference (hr : registry.NoRefusals) (reference : String) :
    Attempt.Ends Refuses (fun found => found.2.2.NoRefusals)
      (resolveReference registry reference) := by
  unfold resolveReference
  split
  next => exact Attempt.ends_refuse (refuses_invalidReference _) _
  next moduleName attr _ =>
    split
    next => exact Attempt.ends_refuse (refuses_invalidReference _) _
    next =>
      have hload := Module.ends_load (P := fun _ => False) hr [] moduleName
      split
      next =>
        split
        next => exact Attempt.ends_refuse (refuses_notAvailable _) _
        next => exact Attempt.ends_fail (by simp)
      next f _ _ h =>
        rw [h] at hload
        exact Attempt.ends_fail fun x hx => by rw [hx] at hload; exact hload
      next m imported h =>
        rw [h] at hload
        have hget := Module.ends_get (P := fun _ => False) hload imported attr
        split
        next a ha =>
          rw [ha] at hget
          exact Attempt.ends_pure hget
        next f hf =>
          rw [hf] at hget
          split
          next => exact Attempt.ends_refuse (refuses_notAvailable _) _
          next => exact Attempt.ends_fail fun x hx => by rw [hx] at hget; exact hget

theorem ends_obtain {a : Attribute} (ha : a.NoRefusals) (moduleName attr : String) :
    Attempt.Ends Refuses (fun found => found.1.NoRefusals) (obtain moduleName attr a) := by
  cases a with
  | object o => exact Attempt.ends_pure ha
  | maker call =>
    intro t
    have hcall : Ends (fun _ => False) Object.NoRefusals call := ha
    cases call with
    | ok o => exact hcall
    | error f =>
      cases f with
      | refused x => exact absurd hcall id
      | _ => trivial

theorem ends_loadReference (hr : registry.NoRefusals) (reference : String) :
    Attempt.Ends Refuses (fun found => found.engine.NoRefusals)
      (loadReference registry reference) := by
  refine (ends_resolveReference hr reference).bind fun found hfound => ?_
  refine (ends_obtain hfound _ _).bind fun made hmade => ?_
  obtain ⟨o, identity⟩ := made
  cases o with
  | engine e => exact (Attempt.ends_record _).bind fun _ _ => Attempt.ends_pure hmade
  | _ => exact Attempt.ends_refuse (refuses_notAnEngine _) _

theorem ends_load (hr : registry.NoRefusals) (reference : Option String) :
    Attempt.Ends Refuses (fun found => found.engine.NoRefusals) (load registry reference) := by
  unfold load
  split
  next => exact ends_loadReference hr _
  next =>
    split
    next => exact Attempt.ends_refuse refuses_notConfigured _
    next => exact (Attempt.ends_record _).bind fun _ _ => ends_loadReference hr _

/-- Whatever loading an engine refuses is that there is none, and a loaded engine raises no refusals
of its own. -/
theorem ends_ofSource (hr : registry.NoRefusals) {source : Source} (hs : source.NoRefusals) :
    Attempt.Ends Refuses NoRefusals (ofSource registry source) := by
  cases source with
  | given e => exact Attempt.ends_pure hs
  | reference ref =>
    exact (ends_load hr ref).bind fun found hfound => Attempt.ends_pure hfound

end Engine

end ContractBuild
