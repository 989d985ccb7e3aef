import ContractBuild.Proofs.Artifact.Kept
import ContractBuild.Proofs.Build.Delivery
import ContractBuild.Proofs.Build.InMemory

/-!
# In memory and on disk

A successful build leaves in its files what a compilation in memory puts into its bundle, if the
engine gives the same answer to both: the executable as it is, the manifest as compact JSON, and the
diagnostics in the outcome (`memory_agrees_with_disk`). Where symbolic links lead the paths of two
artifacts to one file, it holds the later of the two, and a path that leads to a device holds
nothing; every other file has what it should have (`Artifact.Lands`).
-/

namespace ContractBuild

namespace Artifact

variable {host : Host} {r : Compiled} {l : Layout} {a : Artifact} {as : List Artifact}
variable {s s' : Run}

/-- The artifacts behind another one in a list. -/
def behind (a : Artifact) : List Artifact → List Artifact
  | [] => []
  | b :: bs => if b = a then bs else behind a bs

theorem exists_eq_append_behind (h : a ∈ as) : ∃ done, as = done ++ a :: behind a as := by
  induction as with
  | nil => simp at h
  | cons b as ih =>
    by_cases hb : b = a
    · exact ⟨[], by rw [behind, if_pos hb, hb]; rfl⟩
    · obtain ⟨done, hdone⟩ := ih ((List.mem_cons.1 h).resolve_left (Ne.symm hb))
      refine ⟨b :: done, ?_⟩
      rw [behind, if_neg hb, List.cons_append, ← hdone]

/-- What is under the path of an artifact once the artifacts `as` are written, if its file was given
the content `b`. -/
structure Lands (host : Host) (l : Layout) (as : List Artifact) (before after : Disk)
    (a : Artifact) (b : Bytes) : Prop where
  /-- A regular file to which the path of no later artifact leads holds the content. -/
  found : ∀ content, after.content? host.cwd (l.path a) = some content →
    (∀ a' ∈ behind a as, after.locate host.cwd (.ofPath (l.path a'))
      ≠ after.locate host.cwd (.ofPath (l.path a))) → content = b
  /-- Without links there is such a file, unless a device stood there. -/
  linkFree : before.LinkFree →
    (∀ v, before.get? ((l.path a).location host.cwd) ≠ some (.device v)) →
      after.content? host.cwd (l.path a) = some b

/-- Every artifact of a successful writing was produced and went to its file. -/
theorem lands_of_write {options : Options} {fallback : Path} {name : Value}
    (h : (write host r options fallback name).runFrom s = (.ok l, s')) (ha : a ∈ plan options) :
    ∃ d c, r.produce a = .ok d ∧ content l a d = .ok c
      ∧ Lands host l (plan options) s.disk s'.disk a c.bytes := by
  cases write_iff.1 h with
  | @completed chosen l files s₁ s₂ _ _ hfolder _ hall =>
    have hcontent : ∀ d, content { l with files } a d = content l a d := fun d => by
      cases a <;> rfl
    obtain ⟨done, hplan⟩ := exists_eq_append_behind ha
    obtain ⟨d, c, hd, hc, hfound⟩ := content_of_writeAll (hplan ▸ hall)
    refine ⟨d, c, hd, (hcontent d).trans hc, hfound, fun hlinks hdevice => ?_⟩
    obtain ⟨hadded, -⟩ := prepareFolder_spec hlinks hfolder
    obtain ⟨-, hwrote⟩ := writeAll_ok (hadded.linkFree hlinks) (nodup_plan options) hall
    obtain ⟨d', c', hd', hc', -, hholds⟩ :=
      (hwrote.delivered a ha).of_before fun v hv => hadded.get?_device hv
    obtain rfl := Except.ok.inj (hd.symm.trans hd')
    obtain rfl := Except.ok.inj (hc.symm.trans hc')
    exact (hholds hdevice).content?

end Artifact

namespace Build

open Artifact (plan jsonBytes Lands)

variable {host : Host} {registry : Engine.Registry} {job : Job} {s s' : Run}

/-- A bundle and an outcome with its files that tell the same. -/
structure Agrees (host : Host) (options : Options) (before after : Disk) (o : Outcome)
    (b : Bundle) : Prop where
  diagnostics : b.diagnostics = o.diagnostics
  files : ∃ l json, o.layout = some l ∧ jsonBytes (.dict b.manifest) = .ok json
    ∧ Lands host l (plan options) before after .executable b.executable
    ∧ Lands host l (plan options) before after .manifest json

theorem agrees_of_succeeded {o : Outcome} {target : Target} {r : Compiled}
    {fields : List (String × Document)} (h : (run host registry job).runFrom s = (.ok o, s'))
    (ho : o.status = .succeeded)
    (hcompile : ((compile host registry s.disk job).runFrom s.trail).1 = .ok (target, r))
    (hmanifest : r.produce .manifest = .ok (Document.ofFields fields))
    (hnames : (fields.map Prod.fst).Nodup) :
    ∃ b, (do return ⟨← executableOf r, ← manifestOf r, r.diagnostics⟩) = Except.ok b
      ∧ Agrees host job.options s.disk s'.disk o b := by
  obtain ⟨target', r', t, l, s₁, hcompiled, hdeliver, rfl, rfl⟩ := exists_of_succeeded h ho
  obtain ⟨rfl, rfl⟩ : target' = target ∧ r' = r := by simpa [hcompiled] using hcompile
  obtain ⟨-, options, hoptions, hwrite⟩ := deliver_eq_ok_iff.1 hdeliver
  obtain ⟨directory, rfl⟩ := exists_outputDirectory_of_anchorOutput hoptions
  have hexecutable : .executable ∈ plan job.options := by simp [plan]
  have hmanifested : .manifest ∈ plan job.options := by simp [plan]
  obtain ⟨d, c, hd, hc, hlands⟩ := Artifact.lands_of_write hwrite hexecutable
  obtain ⟨d', c', hd', hc', hlands'⟩ := Artifact.lands_of_write hwrite hmanifested
  obtain rfl : Value.document (.ofFields fields) = d' :=
    Except.ok.inj (hmanifest.symm.trans hd')
  have hbytes : executableOf r' = .ok c.bytes := by
    simp [executableOf, hd, Artifact.octets_of_content hc, bind, Except.bind]
  have hjson : jsonBytes (.ofFields fields) = .ok c'.bytes := Artifact.documentBytes_of_content hc'
  refine ⟨⟨c.bytes, fields.map fun f : String × Document => (.str f.1, f.2), r'.diagnostics⟩, ?_,
    rfl, l, c'.bytes, rfl, hjson, hlands, hlands'⟩
  rw [hbytes, manifestOf_eq_ok hmanifest hnames]
  rfl

/-- **In memory and on disk.** A compilation of text calls the engine once, for the text as it is,
and of its answer the producer of the executable and, if that gives bytes, that of the manifest;
disk and channels stay as they are. And whenever the engine gives the answer of a successful build,
with a manifest whose keys are different texts, there is a bundle that agrees with the build. -/
theorem memory_agrees_with_disk :
    (∀ registry engine source options e s,
      ((Engine.ofSource registry engine).runFrom s.trail).1 = .ok e →
        InMemory e ⟨.text source, options⟩ s
          ((Running.attempt (compileSource registry source engine options)).runFrom s).2)
    ∧ ∀ host registry job s s' o target r fields,
      (run host registry job).runFrom s = (.ok o, s') → o.status = .succeeded →
      ((compile host registry s.disk job).runFrom s.trail).1 = .ok (target, r) →
      r.produce .manifest = .ok (Document.ofFields fields) → (fields.map Prod.fst).Nodup →
      ∀ registry' engine source options e t,
        ((Engine.ofSource registry' engine).runFrom t).1 = .ok e →
        e.compile ⟨.text source, options⟩ = .ok r →
        ∃ b, ((compileSource registry' source engine options).runFrom t).1 = .ok b
          ∧ Agrees host job.options s.disk s'.disk o b := by
  constructor
  · intro registry engine source options e s h
    exact inMemory_compileSource h
  · intro host registry job s s' o target r fields h ho hcompile hmanifest hnames registry' engine
      source options e t hload hcall
    obtain ⟨b, hb, hagrees⟩ := agrees_of_succeeded h ho hcompile hmanifest hnames
    exact ⟨b, (compileSource_eq_bundle hload hcall).trans hb, hagrees⟩

/-- A source file and its text, compiled by an engine that answers both alike. -/
theorem canned_answer_agrees :
    let host : Host := { cwd := ["w"], homes := ⟨"/", []⟩ }
    let c : Canned := {}
    let job : Job :=
      { paths := ["Token.cs"], options := { emitAssembly := true }, engine := .given c.engine }
    let s : Run := { disk := (Disk.empty.put ["w"] .folder).put ["w", "Token.cs"] (.file []) }
    let text := "class Token {}"
    InMemory c.engine ⟨.text text, job.options⟩ s
        ((Running.attempt (compileSource {} text job.engine job.options)).runFrom s).2
      ∧ ∃ o s' b, (run host {} job).runFrom s = (.ok o, s') ∧ o.status = .succeeded
        ∧ ((compileSource {} text job.engine job.options).runFrom s.trail).1 = .ok b
        ∧ Agrees host job.options s.disk s'.disk o b := by
  intro host c job s text
  obtain ⟨hmemory, hagree⟩ := memory_agrees_with_disk
  have hload : ((Engine.ofSource {} job.engine).runFrom s.trail).1 = .ok c.engine := rfl
  have hsucceeds : ((run host {} job).runFrom s).1.toOption.any Outcome.succeeded = true := by
    decide +kernel
  obtain ⟨fields, hmanifest, hnames⟩ : ∃ fields,
      (c.answer job.options).produce .manifest = .ok (Document.ofFields fields)
        ∧ (fields.map Prod.fst).Nodup := ⟨_, rfl, by decide⟩
  refine ⟨hmemory _ _ _ _ _ _ hload, ?_⟩
  rcases hrun : (run host {} job).runFrom s with ⟨f | o, s'⟩
  · simp [hrun, Except.toOption] at hsucceeds
  · have ho : o.status = .succeeded := by
      simpa [hrun, Except.toOption, Outcome.succeeded] using hsucceeds
    obtain ⟨target, r, t, l, s₁, hcompile, -, -, -⟩ := exists_of_succeeded hrun ho
    obtain ⟨t₁, e, t₂, -, hloaded, hcompiled⟩ := compile_eq_ok_iff.1 hcompile
    have hgiven : (Except.ok c.engine, t₁) = (Except.ok e, t₂) := hloaded
    obtain ⟨he, rfl⟩ := Prod.mk.inj hgiven
    obtain rfl := Except.ok.inj he
    have hr : r = c.answer job.options := by
      have hcall := (Compilation.run_eq_ok_iff.1 hcompiled).1
      cases target <;> exact (Except.ok.inj hcall).symm
    subst hr
    have hanswer := congrArg Prod.fst hcompile
    obtain ⟨b, hb, hagrees⟩ := hagree host {} job s s' o target _ fields hrun ho hanswer hmanifest
      hnames {} job.engine text job.options _ s.trail hload rfl
    exact ⟨o, s', b, rfl, ho, hb, hagrees⟩

/-- A link under the name of the assembly listing leads to the file of the executable, which then
holds the listing. And an executable that is a text gives no bytes, so that the producer of the
manifest is not called. -/
theorem linked_listing_replaces_executable :
    let host : Host := { cwd := ["w"], homes := ⟨"/", []⟩ }
    let c : Canned := { executable := .bytes [78], assembly := .str "RET" }
    let job : Job :=
      { paths := ["Token.cs"], options := { emitAssembly := true }, engine := .given c.engine }
    let sources : Disk := (Disk.empty.put ["w"] .folder).put ["w", "Token.cs"] (.file [])
    let folders : Disk := (sources.put ["w", "bin"] .folder).put ["w", "bin", "sc"] .folder
    let s : Run := { disk := folders.put ["w", "bin", "sc", "Token.asm"] (.link "Token.nef") }
    let built := (run host {} job).runFrom s
    let inMemory := (compileSource {} "class Token {}" job.engine job.options).runFrom {}
    let textual : Canned := { executable := .str "NEF3" }
    built.1.toOption.any Outcome.succeeded = true
      ∧ (built.1.toOption.bind Outcome.layout).map (fun l => l.path .executable)
        = some (Path.ofText "/w/bin/sc/Token.nef")
      ∧ built.2.disk.content? host.cwd (Path.ofText "/w/bin/sc/Token.nef")
        = some (Text.encode "RET")
      ∧ inMemory.1.toOption.map Bundle.executable = some [78]
      ∧ ((compileSource {} "class Token {}" (.given textual.engine) {}).runFrom {}).2.produced
        = [.executable] := by
  decide +kernel

end Build

end ContractBuild
