import ContractBuild.Build.Basic
import ContractBuild.Proofs.Artifact.Names
import ContractBuild.Proofs.Disk.Folders

/-!
# Resolved folders are direct

Resolving makes every path absolute and normalises it, and what a scan adds to a path are names that
the disk holds. So the folder of a resolved target starts at the root and has no `..`
(`direct_folder_of_resolve`), and so has the folder into which a build writes
(`direct_outputFolder`).
-/

namespace ContractBuild

namespace Path

variable {p q base : Path}

/-- Behind an anchor normalisation leaves no `..`. -/
theorem up_notMem_foldl_pushPart {parts stack : List String} (h : ".." ∉ stack) :
    ".." ∉ parts.foldl (pushPart true) stack := by
  induction parts generalizing stack with
  | nil => exact h
  | cons part parts ih =>
    rw [List.foldl_cons]
    apply ih
    unfold pushPart
    split
    next =>
      -- a `..` takes the last part away, and at the root nothing
      cases stack with
      | nil => simp
      | cons last rest =>
        rw [List.mem_cons, not_or] at h
        simp only [if_neg (Ne.symm h.1)]
        exact h.2
    next hpart =>
      rw [List.mem_cons, not_or]
      exact ⟨Ne.symm hpart, h⟩

theorem direct_normalize (h : p.isAbsolute = true) : p.normalize.Direct where
  absolute := h
  down := by
    rw [normalize, List.mem_reverse, h]
    exact up_notMem_foldl_pushPart (by simp)

theorem isAbsolute_join (h : p.isAbsolute = true) : (p.join q).isAbsolute = true := by
  unfold join
  split
  next hq => exact hq
  next => exact h

theorem direct_of_absolute {homes : Homes} (hbase : base.isAbsolute = true)
    (h : p.absolute homes base = .ok q) : q.Direct := by
  unfold absolute at h
  cases he : expandHome homes p with
  | error e => simp [he, Except.map] at h
  | ok expanded =>
    rw [he] at h
    obtain rfl := Except.ok.inj h
    exact direct_normalize (isAbsolute_join hbase)

theorem Direct.parent (h : p.Direct) : p.parent.Direct where
  absolute := h.absolute
  down hm := h.down (List.dropLast_subset _ hm)

theorem Direct.join (h : p.Direct) (hq : ".." ∉ q.parts) : (p.join q).Direct where
  absolute := isAbsolute_join h.absolute
  down := by
    unfold Path.join
    split
    next => exact hq
    next => exact fun hm => (List.mem_append.1 hm).elim h.down hq

/-- A name without slashes is one part. -/
theorem parts_joinText {name : String} (hname : IsPart name) (p : Path) :
    (p.joinText name).parts = p.parts ++ [name] ∧ (p.joinText name).anchor = p.anchor := by
  have hcomponents : components name = [name] := by
    simp [components, List.splitOn_eq_singleton hname.2.2]
  have hanchor : anchorOf name = .relative := by
    unfold anchorOf
    split
    next hs => exact absurd hname.2.2 (by simp [hs])
    next hs => exact absurd hname.2.2 (by simp [hs])
    next hs => exact absurd hname.2.2 (by simp [hs])
    next => rfl
  rw [joinText, ofText, hcomponents, hanchor]
  simp [Path.join, isAbsolute, ofComponents, hname]

/-- Names that are parts are those by which a path goes on. -/
theorem parts_join_ofComponents {names : List String} (h : ∀ name ∈ names, IsPart name) (p : Path) :
    (p.join (.ofComponents .relative names)).parts = p.parts ++ names
      ∧ (p.join (.ofComponents .relative names)).anchor = p.anchor := by
  have hkept : names.filter (fun s => decide (IsPart s)) = names :=
    List.filter_eq_self.2 fun name hname => by simpa using h name hname
  rw [Path.join, if_neg (by simp [Path.isAbsolute, Path.ofComponents])]
  simp only [Path.ofComponents, hkept, and_self]

theorem name_join_concat {names : List String} {last : String}
    (h : ∀ name ∈ names ++ [last], IsPart name) (p : Path) :
    (p.join (.ofComponents .relative (names ++ [last]))).name = last := by
  rw [name, (parts_join_ofComponents h p).1, ← List.append_assoc, List.getLast?_concat,
    Option.getD_some]

theorem Direct.joinText {name : String} (h : p.Direct) (hname : Disk.IsName name) :
    (p.joinText name).Direct := by
  refine ⟨isAbsolute_join h.absolute, fun hup => ?_⟩
  rw [(parts_joinText hname.1 p).1] at hup
  rcases List.mem_append.1 hup with hup | hup
  · exact h.down hup
  · exact hname.2.1 (List.mem_singleton.1 hup).symm

theorem parent_joinText {name : String} (hname : IsPart name) (p : Path) :
    (p.joinText name).parent = p := by
  obtain ⟨hparts, hanchor⟩ := parts_joinText hname p
  apply Path.ext
  · exact hanchor
  · simp [Path.parent, hparts]

end Path

namespace Host

variable {host : Host} {disk : Disk} {cwd : Option String} {p q base : Path}

theorem direct_of_absolute (hbase : base.isAbsolute = true)
    (h : host.absolute p base = .ok q) : q.Direct :=
  Path.direct_of_absolute hbase (mapError_eq_ok_iff.1 h)

/-- The names of an existing working directory are names that a disk holds. -/
theorem direct_of_directory (h : host.directory disk = .ok p) : p.Direct := by
  unfold directory at h
  split at h
  next hfolder =>
    obtain rfl := Except.ok.inj h
    refine ⟨rfl, fun hm => ?_⟩
    exact (Disk.isName_of_get? hfolder ".." (List.mem_filter.1 hm).1).2.1 rfl
  next => simp at h

theorem direct_of_base (h : host.base disk cwd = .ok p) : p.Direct := by
  unfold base at h
  split at h
  next => simp at h
  next hdirectory =>
    obtain rfl := Except.ok.inj h
    exact direct_of_directory hdirectory
  next hdirectory => exact direct_of_absolute (direct_of_directory hdirectory).absolute h

end Host

/-- What an effectful filter keeps was there before. -/
theorem mem_of_filterM {α : Type} {keep : α → Except Failure Bool} {as kept : List α}
    (h : as.filterM keep = .ok kept) {a : α} (ha : a ∈ kept) : a ∈ as := by
  -- what is kept is gathered in front of what was kept before
  have haux : ∀ (as acc kept : List α), List.filterAuxM keep as acc = .ok kept →
      a ∈ kept → a ∈ as ∨ a ∈ acc := by
    intro as
    induction as with
    | nil =>
      intro acc kept h ha
      obtain rfl := Except.ok.inj h
      exact .inr ha
    | cons b as ih =>
      intro acc kept h ha
      rw [List.filterAuxM] at h
      obtain ⟨keeps, -, h⟩ := bind_eq_ok_iff.1 h
      rcases ih _ _ h ha with hm | hm
      · exact .inl (List.mem_cons_of_mem _ hm)
      · cases keeps with
        | false => exact .inr hm
        | true =>
          rcases List.mem_cons.1 hm with rfl | hm
          · exact .inl (List.mem_cons_self ..)
          · exact .inr hm
  obtain ⟨reversed, hkept, h⟩ := bind_eq_ok_iff.1 h
  obtain rfl := Except.ok.inj h
  exact (haux as [] reversed hkept (List.mem_reverse.1 ha)).resolve_right (by simp)

namespace Sources

variable {host : Host} {disk : Disk} {directory p : Path} {paths : List String}
variable {cwd : Option String} {t t' : Trail} {target : Target}

theorem isName_of_mem_namesIn {l : Location} {name : String} (h : name ∈ disk.namesIn l) :
    Disk.IsName name := by
  obtain ⟨e, he, hname⟩ := List.mem_filterMap.1 h
  split at hname
  next => exact (disk.named e he).2 name (List.mem_of_getLast? hname)
  next => simp at hname

theorem exists_namesIn_of_list {names : List String}
    (h : disk.list host.cwd directory = .ok names) : ∃ l, names = disk.namesIn l := by
  unfold Disk.list at h
  split at h
  next => simp at h
  next l _ =>
    split at h
    next => exact ⟨l, (Except.ok.inj h).symm⟩
    next => simp at h

/-- A project that a scan finds stands directly in the directory. -/
theorem parent_of_mem_projectsIn {ps : List Path} (h : projectsIn host disk directory = .ok ps)
    (hp : p ∈ ps) : p.parent = directory := by
  obtain ⟨names, hlist, h⟩ := bind_eq_ok_iff.1 h
  obtain ⟨files, hfiles, h⟩ := bind_eq_ok_iff.1 h
  obtain rfl := Except.ok.inj h
  have hfile := (List.mem_filter.1 ((List.mergeSort_perm ..).mem_iff.1 hp)).1
  obtain ⟨name, hname, rfl⟩ := List.mem_map.1 (mem_of_filterM hfiles hfile)
  obtain ⟨l, rfl⟩ := exists_namesIn_of_list (mapError_eq_ok_iff.1 hlist)
  exact Path.parent_joinText (isName_of_mem_namesIn hname).1 directory

theorem folder_of_scan (h : (scan host disk directory).runFrom t = (.ok target, t')) :
    target.folder = directory := by
  obtain ⟨ps, t₁, hps, h⟩ := Attempt.runFrom_bind_eq_ok_iff.1 h
  cases ps with
  | nil =>
    simp only at h
    split at h
    next => simp at h
    next =>
      obtain rfl := Except.ok.inj (congrArg Prod.fst h)
      rfl
  | cons p ps =>
    have hprojects : projectsIn host disk directory = .ok (p :: ps) := congrArg Prod.fst hps
    have hp := parent_of_mem_projectsIn hprojects (List.mem_cons_self ..)
    have htarget : target = .project p := by
      simp only at h
      split at h <;> exact (Except.ok.inj (congrArg Prod.fst h)).symm
    rw [htarget]
    exact hp

/-- A request whose folder is direct. -/
def Request.Direct : Request → Prop
  | .directory p => p.Direct
  | .target t => t.folder.Direct

theorem direct_of_fileList {rest : List Path} {request : Request} (hp : p.Direct)
    (h : fileList host disk p rest = .ok request) : request.Direct := by
  obtain ⟨-, -, h⟩ := bind_eq_ok_iff.1 h
  obtain rfl := Except.ok.inj h
  exact hp.parent

theorem direct_of_single? {request : Request} (hp : p.Direct)
    (h : single? host disk p = .ok (some request)) : request.Direct := by
  obtain ⟨folder, -, h⟩ := bind_eq_ok_iff.1 h
  cases folder with
  | true =>
    obtain rfl := Option.some.inj (Except.ok.inj h)
    exact hp
  | false =>
    obtain ⟨file, -, h⟩ := bind_eq_ok_iff.1 h
    split at h
    next =>
      obtain rfl := Option.some.inj (Except.ok.inj h)
      exact hp.parent
    next => exact absurd (Except.ok.inj h) (by simp)

theorem direct_of_classifyAbsolute {base : Path} {ps : List Path} {request : Request}
    (hbase : base.Direct) (hps : ∀ p ∈ ps, p.Direct)
    (h : classifyAbsolute host disk base ps = .ok request) : request.Direct := by
  unfold classifyAbsolute at h
  split at h
  next =>
    obtain rfl := Except.ok.inj h
    exact hbase
  next p =>
    have hp := hps p (List.mem_cons_self ..)
    obtain ⟨found, hsingle, h⟩ := bind_eq_ok_iff.1 h
    cases found with
    | some r =>
      obtain rfl := Except.ok.inj h
      exact direct_of_single? hp hsingle
    | none => exact direct_of_fileList hp h
  next p ps _ => exact direct_of_fileList (hps p (List.mem_cons_self ..)) h

theorem direct_of_classify {request : Request} (h : classify host disk paths cwd = .ok request) :
    request.Direct := by
  obtain ⟨base, hbase, h⟩ := bind_eq_ok_iff.1 h
  obtain ⟨absolutes, habsolutes, h⟩ := bind_eq_ok_iff.1 h
  have hdirect := Host.direct_of_base hbase
  refine direct_of_classifyAbsolute hdirect (fun p hp => ?_) h
  obtain ⟨text, -, habsolute⟩ := (mapM_matches habsolutes).1 p hp
  exact Host.direct_of_absolute hdirect.absolute habsolute

/-- The folder of whatever inputs resolve to is direct. -/
theorem direct_folder_of_resolve
    (h : (resolve host disk paths cwd).runFrom t = (.ok target, t')) : target.folder.Direct := by
  obtain ⟨request, t₁, hclassify, h⟩ := Attempt.runFrom_bind_eq_ok_iff.1 h
  have hdirect := direct_of_classify (congrArg Prod.fst hclassify)
  cases request with
  | directory p =>
    obtain ⟨found, t₂, hscan, h⟩ := Attempt.runFrom_bind_eq_ok_iff.1 h
    obtain rfl : found = target := Except.ok.inj (congrArg Prod.fst h)
    rw [folder_of_scan hscan]
    exact hdirect
  | target found =>
    obtain rfl : found = target := Except.ok.inj (congrArg Prod.fst h)
    exact hdirect

end Sources

namespace Build

variable {host : Host} {disk : Disk} {options options' : Options} {cwd : Option String}
variable {fallback : Path}

theorem direct_outputDirectory {p : Path} (h : anchorOutput host disk options cwd = .ok options')
    (hp : options'.outputDirectory = some p) : p.Direct := by
  unfold anchorOutput at h
  split at h
  next hnone =>
    obtain rfl := Except.ok.inj h
    simp [hnone] at hp
  next given _ =>
    obtain ⟨base, hbase, h⟩ := bind_eq_ok_iff.1 h
    obtain ⟨absolute, habsolute, h⟩ := bind_eq_ok_iff.1 h
    obtain rfl := Except.ok.inj h
    obtain rfl := Option.some.inj hp
    exact Host.direct_of_absolute (Host.direct_of_base hbase).absolute habsolute

/-- The folder into which a build writes is direct. -/
theorem direct_outputFolder (h : anchorOutput host disk options cwd = .ok options')
    (hfallback : fallback.Direct) : (options'.outputFolder fallback).Direct := by
  unfold Options.outputFolder
  cases hp : options'.outputDirectory with
  | none => exact hfallback.join (by decide)
  | some p => exact direct_outputDirectory h hp

end Build

end ContractBuild
