import ContractBuild.Build.InMemory
import ContractBuild.Proofs.Build.Calls

/-!
# Compilations in memory

A compilation of source text makes one call of the engine, the one for the text as it is. Of the
answer it calls the producer of the executable and then, once the executable is bytes, that of the
manifest, and it makes no difference whether the answer is a success (`inMemory_compileSource`). A
manifest whose keys are different texts becomes part of the bundle as it is
(`compileSource_eq_bundle`).
-/

namespace ContractBuild

/-! ## Manifests -/

namespace Document

variable {name : String} {value : Document} {fields done : List (String × Document)}

theorem sameKey_str (a b : String) : sameKey (.str a) (.str b) = decide (a = b) := by
  simp [sameKey, wholeKey?, same, isNaN]

/-- A field with a new name goes to the end. -/
theorem insert_field (h : name ∉ fields.map Prod.fst) :
    insert (fields.map fun f => (.str f.1, f.2)) (.str name) value
      = (fields ++ [(name, value)]).map fun f => (.str f.1, f.2) := by
  induction fields with
  | nil => rfl
  | cons f fields ih =>
    rw [List.map_cons, List.mem_cons, not_or] at h
    rw [List.map_cons, insert, sameKey_str, if_neg (by simpa using Ne.symm h.1), ih h.2]
    rfl

/-- Fields with different names are inserted as they are. -/
theorem foldl_insert_fields (h : ((done ++ fields).map Prod.fst).Nodup) :
    (fields.map fun f => (Document.str f.1, f.2)).foldl (fun d m => insert d m.1 m.2)
        (done.map fun f => (.str f.1, f.2))
      = (done ++ fields).map fun f => (.str f.1, f.2) := by
  induction fields generalizing done with
  | nil => simp
  | cons f fields ih =>
    have hnew : f.1 ∉ done.map Prod.fst := by
      rw [List.map_append, List.nodup_append] at h
      exact fun hm => h.2.2 _ hm _ (by simp) rfl
    rw [List.map_cons, List.foldl_cons, insert_field hnew, ih (by simpa using h)]
    simp

end Document

namespace Bundle

open Validation

theorem manifestMembers_fields (fields : List (String × Document)) :
    manifestMembers (fields.map fun f => (.str f.1, f.2))
      = .valid (fields.map fun f => (.str f.1, f.2)) := by
  induction fields with
  | nil => rfl
  | cons f fields ih =>
    rw [List.map_cons, manifestMembers, ih]
    rfl

/-- A dictionary whose keys are different texts is a manifest as it is. -/
theorem checkManifest_ofFields {fields : List (String × Document)}
    (h : (fields.map Prod.fst).Nodup) :
    checkManifest (.ofFields fields) = .valid (fields.map fun f => (.str f.1, f.2)) := by
  have hinserted := Document.foldl_insert_fields (List.nil_append fields ▸ h)
  rw [Document.ofFields, checkManifest, manifestMembers_fields]
  exact congrArg Checked.valid hinserted

end Bundle

namespace Build

variable {registry : Engine.Registry} {engine : Engine.Source} {e : Engine} {r : Compiled}
variable {source : String} {options : Options} {executable : Bytes} {s : Run} {t : Trail}

/-! ## Bundles -/

/-- The bytes of the executable in an engine's answer. -/
def executableOf (r : Compiled) : Except Failure Bytes := do
  let d ← r.produce .executable
  d.shown.octets.mapError .misuse

/-- The producers that are called for a bundle. -/
def bundleProducers (r : Compiled) : List Artifact :=
  match executableOf r with
  | .ok _ => [.executable, .manifest]
  | .error _ => [.executable]

/-- The manifest of an answer that becomes part of a bundle. -/
def manifestOf (r : Compiled) : Except Failure (List (Document × Document)) := do
  let d ← r.produce .manifest
  match (Bundle.checkManifest d.shown).under (.field "manifest") with
  | .valid manifest => .ok manifest
  | .invalid issues => .error (.invalid issues)

/-- A bundle is made of the executable and the manifest, in this order. -/
theorem runFrom_bundle (r : Compiled) (t : Trail) :
    (bundle r).runFrom t =
      (do return ⟨← executableOf r, ← manifestOf r, r.diagnostics⟩,
        { t with produced := t.produced ++ bundleProducers r }) := by
  unfold bundle bundleProducers executableOf manifestOf
  simp only [Attempt.runFrom_bind, Attempt.runFrom_produce, Attempt.runFrom_ofExcept]
  cases r.produce .executable with
  | error f => rfl
  | ok d =>
    cases hoctets : d.shown.octets with
    | error m => simp [hoctets, bind, Except.bind]
    | ok b =>
      cases r.produce .manifest with
      | error f => simp [hoctets, bind, Except.bind]
      | ok d' =>
        simp only [hoctets, mapError_ok, bind, Except.bind, List.append_assoc]
        cases (Bundle.checkManifest d'.shown).under (.field "manifest") with
        | valid manifest => rfl
        | invalid issues => rfl

theorem manifestOf_eq_ok {fields : List (String × Document)}
    (h : r.produce .manifest = .ok (Document.ofFields fields)) (hnames : (fields.map Prod.fst).Nodup) :
    manifestOf r = .ok (fields.map fun f => (.str f.1, f.2)) := by
  unfold manifestOf
  rw [h]
  simp only [bind, Except.bind, Value.shown, Bundle.checkManifest_ofFields hnames]
  rfl

/-! ## Compilations -/

/-- What a compilation in memory does to a run: it calls the engine once and then, if it answers,
the producers of the bundle. -/
structure InMemory (e : Engine) (c : Engine.Call) (s s' : Run) : Prop where
  disk : s'.disk = s.disk
  lines : s'.lines = s.lines
  calls : s'.trail.calls = s.trail.calls ++ [c]
  answered : ∀ r, e.compile c = .ok r →
    s'.trail.produced = s.trail.produced ++ bundleProducers r
  unanswered : ∀ f, e.compile c = .error f → s'.trail.produced = s.trail.produced

/-- Once an engine is loaded a compilation in memory is a call and a bundle. -/
theorem runFrom_compileSource {t₁ : Trail}
    (h : (Engine.ofSource registry engine).runFrom t = (.ok e, t₁)) :
    (compileSource registry source engine options).runFrom t =
      match (Compilation.run e (.mode (.inline source)) options).runFrom t₁ with
      | (.ok r, t) => (bundle r).runFrom t
      | (.error f, t) => (.error f, t) := by
  simp only [compileSource, Attempt.runFrom_bind, h]
  rcases (Compilation.run e (.mode (.inline source)) options).runFrom t₁ with ⟨f | r, t₂⟩ <;> rfl

theorem inMemory_compileSource
    (h : ((Engine.ofSource registry engine).runFrom s.trail).1 = .ok e) :
    InMemory e ⟨.text source, options⟩ s
      ((Running.attempt (compileSource registry source engine options)).runFrom s).2 := by
  rcases hload : (Engine.ofSource registry engine).runFrom s.trail with ⟨x, t₁⟩
  obtain rfl : x = .ok e := by rwa [hload] at h
  have hsilent := Engine.silent_ofSource registry engine
  have hcalls := hsilent.calls_eq s.trail
  have hproduced := hsilent.steady.produced_eq s.trail
  rw [hload] at hcalls hproduced
  obtain ⟨hcall, hresult⟩ : Compilation.MakesCall e (.mode (.inline source)) options
    ⟨.text source, options⟩ t₁ := Compilation.makesCall_of_input rfl
  have hnone : ((Compilation.run e (.mode (.inline source)) options).runFrom t₁).2.produced
      = t₁.produced := (Compilation.steady_run_of_input rfl e options).produced_eq t₁
  rw [hcalls] at hcall
  rw [hproduced] at hnone
  rw [Running.runFrom_attempt, runFrom_compileSource hload]
  rcases hrun : (Compilation.run e (.mode (.inline source)) options).runFrom t₁ with ⟨f | r, t₂⟩
  · rw [hrun] at hcall hresult hnone
    refine ⟨rfl, rfl, hcall, fun r hr => ?_, fun _ _ => hnone⟩
    simp [hr] at hresult
  · rw [hrun] at hcall hresult hnone
    simp only [runFrom_bundle]
    have hanswer := mapError_eq_ok_iff.1 hresult.symm
    refine ⟨rfl, rfl, hcall, fun r' hr => ?_, fun f hf => ?_⟩
    · obtain rfl := Except.ok.inj (hr.symm.trans hanswer)
      exact congrArg (· ++ bundleProducers r') hnone
    · simp [hf] at hanswer

/-- If the engine answers, the result is the bundle of the answer. -/
theorem compileSource_eq_bundle (h : ((Engine.ofSource registry engine).runFrom t).1 = .ok e)
    (hcall : e.compile ⟨.text source, options⟩ = .ok r) :
    ((compileSource registry source engine options).runFrom t).1
      = (do return ⟨← executableOf r, ← manifestOf r, r.diagnostics⟩) := by
  rcases hload : (Engine.ofSource registry engine).runFrom t with ⟨x, t₁⟩
  obtain rfl : x = .ok e := by rwa [hload] at h
  obtain ⟨-, hresult⟩ : Compilation.MakesCall e (.mode (.inline source)) options
    ⟨.text source, options⟩ t₁ := Compilation.makesCall_of_input rfl
  rw [hcall] at hresult
  rw [runFrom_compileSource hload]
  rcases hrun : (Compilation.run e (.mode (.inline source)) options).runFrom t₁ with ⟨f | r', t₂⟩
  · simp [hrun] at hresult
  · obtain rfl : r' = r := by simpa [hrun] using hresult
    simp only [runFrom_bundle]

end Build

end ContractBuild
