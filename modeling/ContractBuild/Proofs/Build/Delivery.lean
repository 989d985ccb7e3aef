import Mathlib.Data.List.TakeWhile
import ContractBuild.Engine.Canned
import ContractBuild.Proofs.Archive.RoundTrip
import ContractBuild.Proofs.Build.Naming
import ContractBuild.Proofs.Build.Stages
import ContractBuild.Proofs.Sources.Direct

/-!
# What a successful build delivers

On a disk without links a successful build leaves the files that its plan asks for, in the order
of the plan and at places of their own, each with the content that its producer gave. Every other
file is as before, and the directories that were added are exactly the missing ones among the
output folder and its ancestors (`Delivery`, `run_succeeded_delivers`).

The right bytes for a file are said without the functions that make them (`Artifact.Encodes`): a
manifest is the JSON of the document, an archive is one that a reader finds one entry in, with the
JSON of its document, and a listing is the UTF-8 form of a text. For the archive this needs that
the name of the contract has no null character, which a path that was opened cannot have.

That the places differ is a fact about names (`Proofs.Artifact.Names`), that they keep what they
got is one about writing (`WroteAll`), and which directories were added is one about creating
folders: those that are new are all on the way to the output folder (`Disk.FoldersAdded`).

A device is no file: where the one that keeps nothing stands in the place of an artifact, the
build succeeds as well, and no file is there afterwards (`null_device_keeps_nothing`).
-/

namespace ContractBuild

/-- The right bytes for the file of an artifact whose producer gave a document. -/
def Artifact.Encodes (l : Layout) : Artifact → Document → Bytes → Prop
  | executable, d, b => d.octets = .ok b
  | manifest, d, b => jsonBytes d = .ok b
  | debugInfo, d, b =>
    ∃ json, jsonBytes d = .ok json
      ∧ Archive.read? b
        = some [⟨l.debugEntryName, .earliest, Archive.deflated, json⟩]
  | assembly, d, b => ∃ text, d = .str text ∧ b = Text.encode text

/-- A name without the null character is stored whole. -/
theorem Archive.storedName_eq {name : String} (h : '\x00' ∉ name.toList) :
    storedName name = name := by
  have hkept : name.toList.takeWhile (· ≠ '\x00') = name.toList := by
    apply List.takeWhile_eq_self_iff.2
    intro c hc
    have hne : c ≠ '\x00' := fun he => h (he ▸ hc)
    simpa using hne
  rw [storedName, hkept, String.ofList_toList]

namespace Artifact

variable {l : Layout} {a : Artifact} {d : Document} {v : Value} {c : Content}

/-- The bytes of the executable's file are those of its value. -/
theorem octets_of_content (h : content l .executable v = .ok c) :
    v.shown.octets = .ok c.bytes := by
  obtain ⟨b, hoctets, rfl⟩ := map_eq_ok_iff.1 h
  exact mapError_eq_ok_iff.1 hoctets

/-- The bytes of the manifest's file are the compact JSON of its value. -/
theorem documentBytes_of_content (h : content l .manifest v = .ok c) :
    documentBytes v = .ok c.bytes := by
  obtain ⟨b, hjson, rfl⟩ := map_eq_ok_iff.1 h
  exact hjson

/-- The content of an artifact has the right bytes, if the name of the contract can be part of a
path. -/
theorem encodes_content (hname : '\x00' ∉ l.contractName.toList) (hfits : c.Fits)
    (h : content l a d = .ok c) : Encodes l a d c.bytes := by
  cases a with
  | executable => exact octets_of_content h
  | manifest => exact documentBytes_of_content h
  | debugInfo =>
    obtain ⟨b, hjson, rfl⟩ := map_eq_ok_iff.1 h
    refine ⟨b, hjson, ?_⟩
    have hentry : '\x00' ∉ l.debugEntryName.toList := by
      rw [Layout.debugEntryName, String.toList_append, List.mem_append, not_or]
      exact ⟨hname, by decide⟩
    have hread := Archive.read?_ofEntry (e := ⟨l.debugEntryName, b⟩) hfits
    rwa [Archive.Entry.member, Archive.storedName_eq hentry] at hread
  | assembly =>
    cases d with
    | str text =>
      obtain rfl := Except.ok.inj h
      exact ⟨text, rfl, rfl⟩
    | _ => simp [content] at h

/-- No file takes a text that cannot be encoded. -/
theorem exists_document_of_content (hfits : c.Fits) (h : content l a v = .ok c) :
    ∃ d : Document, v = d := by
  cases v with
  | document d => exact ⟨d, rfl⟩
  | loose t =>
    cases a with
    | executable => simp [content, Value.shown, Document.octets, Except.map, Except.mapError] at h
    | assembly =>
      obtain rfl := Except.ok.inj h
      exact hfits.elim
    | _ => simp [content, documentBytes, Except.map] at h

/-- The file of a delivered artifact has the right bytes. -/
theorem Delivered.encodes {host : Host} {r : Compiled} {before after : Disk}
    (h : Delivered host r l before after a) (hd : after.LinkFree) :
    ∃ d : Document, r.produce a = .ok d
      ∧ ((∀ v, before.get? ((l.path a).location host.cwd) ≠ some (.device v)) →
        ∃ b, after.Holds host.cwd (l.path a) b ∧ Encodes l a d b) := by
  obtain ⟨v, c, hproduce, hcontent, hfits, hholds⟩ := h
  obtain ⟨d, rfl⟩ := exists_document_of_content hfits hcontent
  refine ⟨d, hproduce, fun hdevice => ?_⟩
  have hholds := hholds hdevice
  have hname := Layout.nul_notMem_of_openable (hholds.openable hd)
  exact ⟨c.bytes, hholds, encodes_content hname hfits hcontent⟩

end Artifact

/-! ## The name and the options -/

/-- The name of a layout is the given one, as a text. -/
theorem Layout.text_of_ofName {folder : Path} {name : Value} {l : Layout}
    (h : Layout.ofName folder name = .valid l) :
    ∃ d : Document, name = d ∧ Validation.text d = .valid l.contractName := by
  cases name with
  | loose t => simp [ofName, checkName, Validation.Checked.broken, Validation.Checked.under,
      Validation.Checked.map] at h
  | document d =>
    refine ⟨d, rfl, ?_⟩
    simp only [ofName, checkName] at h
    unfold Validation.nonemptyText at h
    cases htext : Validation.text d with
    | invalid issues => simp [htext, Validation.Checked.andThen, Validation.Checked.under,
        Validation.Checked.map] at h
    | valid text =>
      rw [htext] at h
      simp only [Validation.Checked.andThen] at h
      split at h
      next =>
        obtain rfl := Validation.Checked.valid.inj h
        rfl
      next =>
        simp [Validation.Checked.broken, Validation.Checked.under, Validation.Checked.map] at h

namespace Build

variable {host : Host} {registry : Engine.Registry} {job : Job} {s s' : Run}

/-- Making the output directory absolute changes nothing else. -/
theorem exists_outputDirectory_of_anchorOutput {disk : Disk} {options options' : Options}
    {cwd : Option String} (h : anchorOutput host disk options cwd = .ok options') :
    ∃ directory, options' = { options with outputDirectory := directory } := by
  unfold anchorOutput at h
  split at h
  next => exact ⟨options.outputDirectory, (Except.ok.inj h).symm⟩
  next =>
    obtain ⟨base, -, h⟩ := bind_eq_ok_iff.1 h
    obtain ⟨absolute, -, h⟩ := bind_eq_ok_iff.1 h
    exact ⟨some absolute, (Except.ok.inj h).symm⟩

/-- An effective name that is empty comes from an engine and options without a name. -/
theorem fileName?_effectiveName {r : Compiled} {options options' : Options} {m : Mode}
    {chosen : Value} (hname : options'.contractName = options.contractName)
    (h : Artifact.fileName? (Compilation.effectiveName r.contractName options m) r options'
      = some chosen) :
    chosen = Compilation.effectiveName r.contractName options m := by
  unfold Artifact.fileName? at h
  by_cases hyes : (Compilation.effectiveName r.contractName options m).isYes = true
  · rw [List.find?_cons_of_pos hyes] at h
    exact (Option.some.inj h).symm
  · have hengine : ¬ r.contractName.isYes = true := by
      intro hengine
      rw [Compilation.effectiveName, if_pos hengine] at hyes
      exact hyes hengine
    rw [Compilation.effectiveName, if_neg hengine] at hyes
    have hconfigured : ¬ (Value.ofOption options'.contractName).isYes = true := by
      rw [hname, Value.isYes_ofOption]
      intro hgiven
      obtain ⟨name, hsome⟩ := Option.isSome_iff_exists.1 hgiven
      have hgiven := (Value.isYes_ofOption (some name)).trans
        (congrArg Option.isSome (Text.Raw.given_some (Text.Raw.ne_empty_of_given hsome)))
      rw [hsome] at hyes
      exact hyes hgiven
    rw [Compilation.effectiveName, if_neg hengine, List.find?_cons_of_neg hyes,
      List.find?_cons_of_neg hengine, List.find?_cons_of_neg hconfigured] at h
    simp at h

/-! ## Postcondition and frame -/

/-- What a successful build leaves behind: the files of a layout, and nothing else that was not
there before. -/
structure Delivery (host : Host) (job : Job) (target : Target) (r : Compiled) (folder : Path)
    (l : Layout) (before after : Disk) : Prop where
  folder_eq : l.folder = folder
  /-- The files go under the effective name. -/
  named : ∃ d : Document,
    Compilation.effectiveName r.contractName job.options (.target target) = d
      ∧ Validation.text d = .valid l.contractName
  /-- The files are those of the plan, in its order. -/
  files : l.files = (Artifact.plan job.options).map l.path
  /-- The files are different ones. -/
  distinct : (Artifact.places host l (Artifact.plan job.options)).Nodup
  /-- Every file holds what its producer gave, unless a device stood in its place. -/
  contents : ∀ a ∈ Artifact.plan job.options, ∃ d : Document, r.produce a = .ok d
    ∧ ((∀ v, before.get? ((l.path a).location host.cwd) ≠ some (.device v)) →
      ∃ b, after.Holds host.cwd (l.path a) b ∧ a.Encodes l d b)
  /-- Every other file is as before. -/
  others : ∀ k, k ∉ Artifact.places host l (Artifact.plan job.options) →
    after.file? k = before.file? k
  /-- No file is gone. -/
  kept : ∀ k, before.file? k ≠ none → after.file? k ≠ none
  /-- The directories are those from before, the output folder and its ancestors. -/
  folders : ∀ k, after.get? k = some .folder
    ↔ before.get? k = some .folder ∨ k <+: folder.location host.cwd

/-- The directories after a direct path was made to lead to one. -/
theorem folder_iff_of_foldersAdded {before after : Disk} {cwd : Location} {folder : Path}
    (hfolder : folder.Direct) (hadded : Disk.FoldersAdded (folder.Passes cwd) before after)
    (hleads : after.LeadsToFolder cwd folder) (k : Location) :
    after.get? k = some .folder ↔ before.get? k = some .folder ∨ k <+: folder.location cwd := by
  constructor
  · intro hk
    rcases hadded k with he | ⟨hpasses, -, -⟩
    · exact .inl (he ▸ hk)
    · exact .inr (hfolder.passes_iff.1 hpasses)
  · rintro (hk | hk)
    · exact hadded.foldersKept k hk
    · exact hleads.get?_of_above hfolder hk

/-- A file of the plan is kept in its place. -/
theorem file?_ne_none_of_content {before after : Disk} {cwd : Location} {p : Path}
    (h : (∀ v, before.get? (p.location cwd) ≠ some (.device v)) → ∃ b, after.Holds cwd p b)
    (hbefore : before.file? (p.location cwd) ≠ none) : after.file? (p.location cwd) ≠ none := by
  have hdevice : ∀ v, before.get? (p.location cwd) ≠ some (.device v) := by
    intro v hv
    simp [Disk.file?, hv] at hbefore
  obtain ⟨b, hb⟩ := h hdevice
  simp [Disk.file?, hb.held]

/-- A writing that succeeds delivers. -/
theorem delivery_of_write {target : Target} {r : Compiled} {directory : Option Path}
    {l : Layout}
    (hd : s.disk.LinkFree)
    (hdirect : (Options.outputFolder { job.options with outputDirectory := directory }
      target.folder).Direct)
    (h : (Artifact.write host r { job.options with outputDirectory := directory } target.folder
      (Compilation.effectiveName r.contractName job.options (.target target))).runFrom s
        = (.ok l, s')) :
    Delivery host job target r
      (Options.outputFolder { job.options with outputDirectory := directory } target.folder) l
      s.disk s'.disk := by
  cases Artifact.write_iff.1 h with
  | @completed chosen l files s₁ s₂ _ hname hfolder hl hall =>
    obtain rfl := fileName?_effectiveName rfl hname
    obtain ⟨hadded, -, -, hleads, -⟩ := Artifact.prepareFolder_spec hd hfolder
    have hd₁ : s₁.disk.LinkFree := hadded.linkFree hd
    obtain ⟨rfl, hwrote⟩ := Artifact.writeAll_ok hd₁ (Artifact.nodup_plan _) hall
    have hd₂ : s₂.disk.LinkFree := hwrote.change.linkFree hd₁
    have hcontents : ∀ a ∈ Artifact.plan job.options, ∃ d : Document, r.produce a = .ok d
        ∧ ((∀ v, s.disk.get? ((l.path a).location host.cwd) ≠ some (.device v)) →
          ∃ b, s₂.disk.Holds host.cwd (l.path a) b ∧ a.Encodes l d b) := by
      intro a ha
      have hdelivered := (hwrote.delivered a ha).of_before fun v hv => hadded.get?_device hv
      exact hdelivered.encodes hd₂
    have hothers : ∀ k, k ∉ Artifact.places host l (Artifact.plan job.options) →
        s₂.disk.file? k = s.disk.file? k := by
      intro k hk
      rw [hwrote.change.file?_eq hk, hadded.file?_eq]
    have hnamed := Layout.text_of_ofName hl
    refine ⟨(Artifact.ofName_eq_valid hl).1, hnamed, rfl, ?_, hcontents, hothers, ?_, ?_⟩
    · exact List.pairwise_map.2
        ((Artifact.nodup_plan _).imp fun hne he => hne (l.location_path_inj he))
    · intro k hk
      by_cases hplace : k ∈ Artifact.places host l (Artifact.plan job.options)
      · obtain ⟨a, ha, rfl⟩ := List.mem_map.1 hplace
        obtain ⟨d, -, hholds⟩ := hcontents a ha
        exact file?_ne_none_of_content (fun hv => (hholds hv).imp fun b hb => hb.1) hk
      · exact (hothers k hplace).symm ▸ hk
    · intro k
      exact (hwrote.change.folders k).trans
        (folder_iff_of_foldersAdded hdirect hadded (hleads rfl) k)

/-- A build that returns a success has delivered: the inputs were resolved and compiled, and the
disk holds what was asked for and is otherwise as before. -/
theorem run_succeeded_delivers {o : Outcome} (hd : s.disk.LinkFree)
    (h : (run host registry job).runFrom s = (.ok o, s')) (ho : o.status = .succeeded) :
    ∃ target r t options l,
      (compile host registry s.disk job).runFrom s.trail = (.ok (target, r), t)
      ∧ r.success = true
      ∧ anchorOutput host s.disk job.options job.cwd = .ok options
      ∧ o = deliveredOutcome l r.diagnostics
      ∧ Delivery host job target r (options.outputFolder target.folder) l s.disk s'.disk := by
  obtain ⟨target, r, t, l, s₁, hcompile, hdeliver, rfl, rfl⟩ := exists_of_succeeded h ho
  obtain ⟨hsuccess, options, hoptions, hwrite⟩ := deliver_eq_ok_iff.1 hdeliver
  obtain ⟨directory, rfl⟩ := exists_outputDirectory_of_anchorOutput hoptions
  obtain ⟨_, _, _, hresolve, -, -⟩ := compile_eq_ok_iff.1 hcompile
  have hdirect := direct_outputFolder hoptions (Sources.direct_folder_of_resolve hresolve)
  have hreported : (reported s t r.diagnostics).disk.LinkFree := hd
  have hdelivery := delivery_of_write hreported hdirect hwrite
  exact ⟨target, r, t, _, l, hcompile, hsuccess, hoptions, rfl, hdelivery⟩

/-- A build of one source file with all four artifacts. -/
theorem full_plan_delivers :
    let host : Host := { cwd := ["w"], homes := ⟨"/", []⟩ }
    let job : Job :=
      { paths := ["Token.cs"]
        options := { emitDebugInfo := true, emitAssembly := true }
        engine := .given ({} : Canned).engine }
    let s : Run := { disk := (Disk.empty.put ["w"] .folder).put ["w", "Token.cs"] (.file []) }
    ∃ o s' target r folder l, (run host {} job).runFrom s = (.ok o, s') ∧ o.status = .succeeded
      ∧ Delivery host job target r folder l s.disk s'.disk := by
  intro host job s
  have hd : s.disk.LinkFree := by decide +kernel
  have hsucceeds : ((run host {} job).runFrom s).1.toOption.any Outcome.succeeded = true := by
    decide +kernel
  rcases hrun : (run host {} job).runFrom s with ⟨f | o, s'⟩
  · simp [hrun, Except.toOption] at hsucceeds
  · have ho : o.status = .succeeded := by
      simpa [hrun, Except.toOption, Outcome.succeeded] using hsucceeds
    obtain ⟨target, r, -, options, l, -, -, -, -, hdelivery⟩ := run_succeeded_delivers hd hrun ho
    exact ⟨o, s', target, r, _, l, rfl, ho, hdelivery⟩

/-- Where the device that keeps nothing stands in the place of the executable, a successful build
lists its file, and there is none. -/
theorem null_device_keeps_nothing :
    let host : Host := { cwd := ["w"], homes := ⟨"/", []⟩ }
    let job : Job := { paths := ["Token.cs"], engine := .given ({} : Canned).engine }
    let disk : Disk := ((((Disk.empty.put ["w"] .folder).put ["w", "Token.cs"] (.file [])).put
      ["w", "bin"] .folder).put ["w", "bin", "sc"] .folder).put
        ["w", "bin", "sc", "Token.nef"] (.device .null)
    let x := (run host {} job).runFrom { disk }
    disk.LinkFree
      ∧ x.1.toOption.any (fun o => o.succeeded
        && (o.layout.bind fun l => l.files.head?) == some (.ofText "/w/bin/sc/Token.nef")) = true
      ∧ x.2.disk.file? ["w", "bin", "sc", "Token.nef"] = none := by
  decide +kernel

end Build

end ContractBuild
