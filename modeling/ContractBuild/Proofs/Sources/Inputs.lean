import ContractBuild.Proofs.Artifact.Writing
import ContractBuild.Proofs.Path.Length
import ContractBuild.Proofs.Sources.Direct

/-!
# Inputs and artifacts

What resolving takes from a disk are directories, and files whose names end like sources or project
descriptors. No artifact has such a name (`not_isInput_path`), so a writing leaves the inputs alone:
`InputsKept d e` says that from `d` to `e` no directory went, no input changed or was added but as
a directory, and everything new has a path that is not too long. Every step of a writing is of this
kind, and so is a whole writing (`inputsKept_write`).
-/

namespace ContractBuild

namespace Path

/-- A last point with something on either side starts the suffix. -/
theorem splitName_append_point (s t : List Char) (ht : '.' ∉ t) (hne : t ≠ []) :
    (splitName (s ++ '.' :: t)).2 = if s = [] then [] else '.' :: t := by
  have hafter : ((s ++ '.' :: t).reverse.takeWhile (· != '.')).reverse = t := by
    have hall : ∀ c ∈ t.reverse, (c != '.') = true := by
      intro c hc
      have : c ≠ '.' := fun h => ht (h ▸ List.mem_reverse.1 hc)
      simpa using this
    rw [List.reverse_append, List.reverse_cons, List.append_assoc,
      List.takeWhile_append_of_pos hall]
    simp
  have hbefore : (s ++ '.' :: t).take ((s ++ '.' :: t).length - t.length - 1) = s := by
    have hlength : (s ++ '.' :: t).length - t.length - 1 = s.length := by simp; omega
    rw [hlength, List.take_left]
  simp only [splitName, hafter, hbefore]
  by_cases hs : s = []
  · simp [hs]
  · rw [if_neg hs, if_pos ⟨by simp; omega, hne, hs⟩]

end Path

/-- Whether the last name on the way to a location has the given suffix in any letter case. -/
def Location.hasSuffix (k : Location) (suffix : String) : Bool :=
  Text.lowerCase (Path.splitName (k.getLast?.getD "").toList).2 = suffix.toList

/-- A location whose name is one of a source or of a project descriptor. -/
def Location.IsInput (k : Location) : Prop :=
  k.hasSuffix Sources.sourceSuffix = true ∨ k.hasSuffix Sources.projectSuffix = true

/-- A direct path has the suffix of its place. -/
theorem Path.Direct.hasSuffix_location {p : Path} (hp : p.Direct) (cwd : Location)
    (suffix : String) : (p.location cwd).hasSuffix suffix = p.hasSuffix suffix := by
  rw [hp.location_eq]
  rfl

/-- The last point in the suffix of an artifact starts neither of the suffixes of inputs. -/
theorem Artifact.exists_point_suffix (a : Artifact) :
    ∃ s t, a.suffix.toList = s ++ '.' :: t ∧ '.' ∉ t ∧ t ≠ []
      ∧ Text.lowerCase ('.' :: t) ≠ Sources.sourceSuffix.toList
      ∧ Text.lowerCase ('.' :: t) ≠ Sources.projectSuffix.toList := by
  cases a with
  | executable => exact ⟨[], "nef".toList, by decide⟩
  | manifest => exact ⟨".manifest".toList, "json".toList, by decide⟩
  | debugInfo => exact ⟨[], "nefdbgnfo".toList, by decide⟩
  | assembly => exact ⟨[], "asm".toList, by decide⟩

/-- No artifact is named like an input. -/
theorem Layout.not_isInput_path (l : Layout) (a : Artifact) (cwd : Location) :
    ¬ ((l.path a).location cwd).IsInput := by
  obtain ⟨s, t, hsuffix, hpoint, hne, hsource, hproject⟩ := a.exists_point_suffix
  have hsplit := Path.splitName_append_point (l.stem.toList ++ s) t hpoint hne
  rw [Location.IsInput, Location.hasSuffix, Location.hasSuffix, location_path,
    List.getLast?_concat, Option.getD_some, String.toList_append, hsuffix, ← List.append_assoc,
    hsplit]
  have hnil : Text.lowerCase [] = [] := rfl
  split
  next => rw [hnil]; decide
  next => simp [hsource, hproject]

namespace Sources

/-- From `d` to `e` every directory stays, no input changes or is added but as a directory, and
whatever is added has a path that is not too long. -/
structure InputsKept (d e : Disk) : Prop where
  folders : Disk.FoldersKept d e
  linkFree : d.LinkFree → e.LinkFree
  inputs : ∀ k, k.IsInput → e.get? k = d.get? k ∨ d.get? k = none ∧ e.get? k = some .folder
  short : ∀ k, d.get? k = none → e.get? k ≠ none → k.Short

namespace InputsKept

variable {d e f : Disk} {cwd : Location} {p : Path}

theorem refl (d : Disk) : InputsKept d d :=
  ⟨fun _ h => h, fun h => h, fun _ _ => .inl rfl, fun _ h h' => absurd h h'⟩

theorem trans (h : InputsKept d e) (h' : InputsKept e f) : InputsKept d f where
  folders k hk := h'.folders k (h.folders k hk)
  linkFree hd := h'.linkFree (h.linkFree hd)
  inputs k hk := by
    rcases h'.inputs k hk with hf | ⟨he, hf⟩
    · rw [hf]
      exact h.inputs k hk
    · rcases h.inputs k hk with hd | ⟨-, hd⟩
      · exact .inr ⟨hd ▸ he, hf⟩
      · simp [hd] at he
  short k hd hf := by
    by_cases he : e.get? k = none
    · exact h'.short k he hf
    · exact h.short k hd he

/-- Writing what is no input. -/
theorem of_written {content : Bytes} (habsolute : p.isAbsolute = true)
    (hp : ¬ (p.location cwd).IsInput) (h : d.Written cwd p content e) : InputsKept d e where
  folders := h.change.foldersKept
  linkFree := h.change.linkFree
  inputs k hk := by
    have hne : k ≠ p.location cwd := fun he => hp (he ▸ hk)
    exact .inl (h.change.elsewhere k (by simpa using hne))
  short k hdk hek := by
    obtain ⟨a, hleads⟩ := h.leads
    have hplace : a.place = p.location cwd := hleads.place_eq
    obtain rfl : k = p.location cwd := by
      refine Decidable.byContradiction fun hne => hek ?_
      rw [h.change.elsewhere k (by simpa using hne), hdk]
    -- only the last name was missing, so it is what was added
    cases a with
    | missing parent name => exact hplace ▸ Disk.short_of_missing habsolute h.openable hleads
    | reached l =>
      have hexists := hleads.exists_of_reached (by simp [Path.origin, habsolute])
      exact absurd hdk (by rwa [← hplace])

/-- Removing what is no input, or leaving it. -/
theorem of_cleared (hp : ¬ (p.location cwd).IsInput)
    (h : Artifact.Cleared d cwd p e) : InputsKept d e where
  folders := h.change.foldersKept
  linkFree := h.change.linkFree
  inputs k hk := by
    have hne : k ≠ p.location cwd := fun he => hp (he ▸ hk)
    exact .inl (h.change.elsewhere k (by simpa using hne))
  short k hdk hek := by
    by_cases hne : k = p.location cwd
    · subst hne
      rcases h.cleared with he | he
      · exact absurd (he.trans hdk) hek
      · exact absurd he hek
    · exact absurd ((h.change.elsewhere k (by simpa using hne)).trans hdk) hek

/-- Adding directories whose paths are not too long. -/
theorem of_foldersAdded (h : Disk.FoldersAdded Location.Short d e) : InputsKept d e where
  folders := h.foldersKept
  linkFree := h.linkFree
  inputs k _ := (h k).imp_right fun hk => hk.2
  short k hdk hek := by
    rcases h k with he | ⟨hshort, -⟩
    · exact absurd (he.trans hdk) hek
    · exact hshort

end InputsKept

end Sources

/-- Creating a directory from the root adds directories whose paths are not too long. -/
theorem Disk.short_of_ensureFolders {d : Disk} {p : Path} (hd : d.LinkFree) (cwd : Location)
    (habsolute : p.isAbsolute = true) :
    FoldersAdded Location.Short d (d.ensureFolders cwd p).2 := by
  apply ensureFolders_related (R := FoldersAdded Location.Short) (.refl _) .trans ?_ hd
  intro d e q hd hanchor _ h
  unfold makeFolder at h
  split at h
  next => simp at h
  next => simp at h
  next parent name hwalk =>
    obtain ⟨hq, hleads⟩ := (walk_eq_ok_iff hd).1 hwalk
    have hshort := short_of_missing (by rwa [Path.isAbsolute, hanchor]) hq hleads
    obtain rfl := Except.ok.inj h
    exact (FoldersAdded.of_put (accepts_of_missing hq hleads) hleads.of_missing.2.1).mono
      fun k hk => hk ▸ hshort

namespace Artifact

variable {host : Host} {r : Compiled} {l : Layout} {a : Artifact} {s s' : Run}

theorem inputsKept_store {d e : Disk} {cwd : Location} {c : Content}
    {cut? : Option Disk.Cutoff} {x : Except Failure Unit} (hd : d.LinkFree)
    (hl : l.folder.isAbsolute = true) (h : store d cwd (l.path a) c cut? = (x, e)) :
    Sources.InputsKept d e := by
  have hplace := l.not_isInput_path a cwd
  have habsolute : (l.path a).isAbsolute = true := Path.isAbsolute_join hl
  cases x with
  | ok _ => exact .of_written habsolute hplace (store_ok hd h)
  | error f =>
    rcases store_error hd h with hcleared | hempty
    · exact .of_cleared hplace hcleared
    · exact .of_written habsolute hplace hempty.written

/-- A writing into a folder that starts at the root leaves the inputs alone, however it ends. -/
theorem inputsKept_write {options : Options} {fallback : Path} {name : Value}
    {x : Except Failure Layout} (hd : s.disk.LinkFree)
    (habsolute : (options.outputFolder fallback).isAbsolute = true)
    (h : (write host r options fallback name).runFrom s = (x, s')) :
    Sources.InputsKept s.disk s'.disk := by
  refine write_related .refl .trans (fun hd => ?_) (fun hl hd hstored => ?_) hd h
  · exact .of_foldersAdded (Disk.short_of_ensureFolders hd host.cwd habsolute)
  · exact inputsKept_store hd (hl ▸ habsolute) hstored

end Artifact

end ContractBuild
