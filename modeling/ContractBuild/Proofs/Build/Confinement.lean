import ContractBuild.Engine.Canned
import ContractBuild.Proofs.Build.Stages

/-!
# Where a build changes files

On a disk without links a writing changes no file but those of its artifacts, whether it succeeds or
not, and a build changes no file but those of its writing (`exists_layout_of_run`). All these files
share one directory, which the name of the contract may lead away from the output folder: they are
in the output folder exactly if the part of the name before its last slash leads back to it
(`Layout.Confined`). `changed_files_confined_iff` says so for every name, whoever gives it, and
`escaping_name_leaves_folder` shows a name that leads away. A name without a slash never does
(`Layout.confined_of_plain`).
-/

namespace ContractBuild

/-- Whether the files of a layout are directly in its output folder. -/
def Layout.Confined (l : Layout) (cwd : Location) : Prop :=
  l.directory.location cwd = l.folder.location cwd

/-- A name without a slash keeps the files in the output folder. -/
theorem Layout.confined_of_plain (l : Layout) (h : '/' ∉ l.contractName.toList) (cwd : Location) :
    l.Confined cwd := by
  rw [Confined, l.directory_of_plain h]

/-- The directory of a file is the output folder exactly if the layout keeps its files there. -/
theorem Layout.dropLast_place_iff {l : Layout} {host : Host} {as : List Artifact} {k : Location}
    (hk : k ∈ Artifact.places host l as) :
    k.dropLast = l.folder.location host.cwd ↔ l.Confined host.cwd := by
  obtain ⟨a, -, rfl⟩ := List.mem_map.1 hk
  rw [location_path, List.dropLast_concat, Confined]

namespace Build

variable {host : Host} {registry : Engine.Registry} {job : Job} {s s' : Run}

/-- Whatever file a delivery changes is the file of an artifact. -/
theorem exists_layout_of_deliver {target : Target} {r : Compiled} {x : Except Failure Layout}
    {k : Location} (hd : s.disk.LinkFree) (h : (deliver host job target r).runFrom s = (x, s'))
    (hk : s'.disk.file? k ≠ s.disk.file? k) :
    ∃ options chosen l, anchorOutput host s.disk job.options job.cwd = .ok options
      ∧ Artifact.fileName?
        (Compilation.effectiveName r.contractName job.options (.target target)) r options
          = some chosen
      ∧ Layout.ofName (options.outputFolder target.folder) chosen = .valid l
      ∧ k ∈ Artifact.places host l (Artifact.plan options) := by
  rw [runFrom_deliver] at h
  split at h
  next =>
    obtain ⟨-, rfl⟩ := Prod.mk.inj h
    exact absurd rfl hk
  next =>
    split at h
    next =>
      obtain ⟨-, rfl⟩ := Prod.mk.inj h
      exact absurd rfl hk
    next options hoptions =>
      obtain ⟨chosen, l, hfound⟩ := Artifact.exists_layout_of_file?_ne hd h hk
      exact ⟨options, chosen, l, hoptions, hfound⟩

/-- Whatever file a build changes is the file of an artifact of what was compiled. -/
theorem exists_layout_of_run {x : Except Failure Outcome} {k : Location}
    (hd : s.disk.LinkFree) (h : (run host registry job).runFrom s = (x, s'))
    (hk : s'.disk.file? k ≠ s.disk.file? k) :
    ∃ target r t options chosen l,
      (compile host registry s.disk job).runFrom s.trail = (.ok (target, r), t)
        ∧ anchorOutput host s.disk job.options job.cwd = .ok options
        ∧ Artifact.fileName?
          (Compilation.effectiveName r.contractName job.options (.target target)) r options
            = some chosen
        ∧ Layout.ofName (options.outputFolder target.folder) chosen = .valid l
        ∧ k ∈ Artifact.places host l (Artifact.plan options) := by
  -- what the engine had to say leaves the disk as it is
  have hreported : ∀ t ds, (reported s t ds).disk.LinkFree := fun _ _ => hd
  cases run_iff.1 h with
  | refused _ hend => exact absurd (congrArg (·.file? k) (disk_of_conclude hend)) hk
  | broken => exact absurd rfl hk
  | @refusedLate target r t _ _ _ _ hcompile hdeliver hend =>
    rw [disk_of_conclude hend] at hk
    obtain ⟨options, chosen, l, hfound⟩ := exists_layout_of_deliver (hreported t _) hdeliver hk
    exact ⟨target, r, t, options, chosen, l, hcompile, hfound⟩
  | @brokenLate target r t _ _ hcompile hdeliver =>
    obtain ⟨options, chosen, l, hfound⟩ := exists_layout_of_deliver (hreported t _) hdeliver hk
    exact ⟨target, r, t, options, chosen, l, hcompile, hfound⟩
  | @delivered target r t _ _ hcompile hdeliver =>
    obtain ⟨options, chosen, l, hfound⟩ := exists_layout_of_deliver (hreported t _) hdeliver hk
    exact ⟨target, r, t, options, chosen, l, hcompile, hfound⟩

end Build

/-- Every file that a writing or a build creates, overwrites or removes is the file of an artifact,
and it is directly in the output folder exactly if the name of the contract leads there. -/
theorem changed_files_confined_iff (host : Host) {s : Run} (hd : s.disk.LinkFree) (k : Location) :
    (∀ r options fallback name x s',
      (Artifact.write host r options fallback name).runFrom s = (x, s') →
      s'.disk.file? k ≠ s.disk.file? k →
        ∃ chosen l, Artifact.fileName? name r options = some chosen
          ∧ Layout.ofName (options.outputFolder fallback) chosen = .valid l
          ∧ k ∈ Artifact.places host l (Artifact.plan options)
          ∧ (k.dropLast = (options.outputFolder fallback).location host.cwd
            ↔ l.Confined host.cwd))
    ∧ ∀ registry job x s', (Build.run host registry job).runFrom s = (x, s') →
      s'.disk.file? k ≠ s.disk.file? k →
        ∃ target r t options chosen l,
          (Build.compile host registry s.disk job).runFrom s.trail = (.ok (target, r), t)
            ∧ Build.anchorOutput host s.disk job.options job.cwd = .ok options
            ∧ Artifact.fileName?
              (Compilation.effectiveName r.contractName job.options (.target target)) r options
                = some chosen
            ∧ Layout.ofName (options.outputFolder target.folder) chosen = .valid l
            ∧ k ∈ Artifact.places host l (Artifact.plan options)
            ∧ (k.dropLast = (options.outputFolder target.folder).location host.cwd
              ↔ l.Confined host.cwd) := by
  constructor
  · intro r options fallback name x s' h hk
    obtain ⟨chosen, l, hchosen, hl, hplace⟩ := Artifact.exists_layout_of_file?_ne hd h hk
    have hfolder := (Artifact.ofName_eq_valid hl).1
    exact ⟨chosen, l, hchosen, hl, hplace, hfolder ▸ Layout.dropLast_place_iff hplace⟩
  · intro registry job x s' h hk
    obtain ⟨target, r, t, options, chosen, l, hcompile, hoptions, hchosen, hl, hplace⟩ :=
      Build.exists_layout_of_run hd h hk
    have hfolder := (Artifact.ofName_eq_valid hl).1
    exact ⟨target, r, t, options, chosen, l, hcompile, hoptions, hchosen, hl, hplace,
      hfolder ▸ Layout.dropLast_place_iff hplace⟩

/-- A name with `..` leads out of the output folder: the executable is created beside it. -/
theorem escaping_name_leaves_folder :
    let host : Host := { cwd := [], homes := ⟨"/", []⟩ }
    let options : Options := { outputDirectory := some (.ofText "/out") }
    let r := ({ contractName := .str "../Token" } : Canned).answer options
    let s : Run := { disk := .empty }
    let s' := ((Artifact.write host r options (.ofText "/") .null).runFrom s).2
    s.disk.LinkFree ∧ s.disk.file? ["Token.nef"] = none ∧ s'.disk.file? ["Token.nef"] ≠ none
      ∧ ["Token.nef"].dropLast ≠ (options.outputFolder (.ofText "/")).location host.cwd := by
  decide +kernel

/-- The layout of an escaping name keeps no files in the output folder, that of a build without one
does. -/
theorem escaping_name_not_confined :
    let host : Host := { cwd := ["w"], homes := ⟨"/", []⟩ }
    let options : Options := { outputDirectory := some (.ofText "/out") }
    let disk : Disk := (Disk.empty.put ["w"] .folder).put ["w", "Token.cs"] (.file [])
    (∃ l, Layout.ofName (options.outputFolder (.ofText "/")) (.str "../Token") = .valid l
        ∧ ¬ l.Confined host.cwd)
      ∧ ∃ target options chosen l, Build.anchorOutput host disk {} none = .ok options
        ∧ Layout.ofName (options.outputFolder (Target.folder target)) chosen = .valid l
        ∧ (["w", "bin", "sc"] = (options.outputFolder target.folder).location host.cwd
          ↔ l.Confined host.cwd) := by
  intro host options disk
  have hd : disk.LinkFree := by decide +kernel
  obtain ⟨hwrite, -⟩ := changed_files_confined_iff host (s := { disk }) hd ["Token.nef"]
  constructor
  · obtain ⟨chosen, l, hchosen, hl, -, hiff⟩ := hwrite
      (({ contractName := .str "../Token" } : Canned).answer options) options (.ofText "/") .null
      _ _ rfl (by decide +kernel)
    have hname : chosen = .str "../Token" := Option.some.inj (hchosen.symm.trans (by rfl))
    refine ⟨l, hname ▸ hl, fun hconfined => ?_⟩
    exact absurd (hiff.2 hconfined) (by decide +kernel)
  · obtain ⟨-, hbuild⟩ := changed_files_confined_iff host (s := { disk }) hd
      ["w", "bin", "sc", "Token.nef"]
    obtain ⟨target, r, t, options, chosen, l, -, hoptions, -, hl, -, hiff⟩ := hbuild {}
      { paths := ["Token.cs"], engine := .given ({} : Canned).engine } _ _ rfl (by decide +kernel)
    exact ⟨target, options, chosen, l, hoptions, hl, hiff⟩

end ContractBuild
