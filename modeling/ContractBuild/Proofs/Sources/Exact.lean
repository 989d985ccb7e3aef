import ContractBuild.Proofs.Build.Deep
import ContractBuild.Proofs.Sources.Stable

/-!
# Scans are exact

A scan of a directory below which stand only regular files and directories ends in one of five
ways (`Scanned`), told by what stands where. Something whose name or path is too long ends it at
once. Otherwise descriptors directly in the directory come first, and a warning tells of all of
them if there are several; then come the sources, which are the files of that suffix at any depth,
except below a folder `obj` directly in the directory and in folders whose path is too long to be
listed; and where there are neither, nothing is found.

`Scanned` speaks of `get?` and of paths and of nothing that a scan computes. The five ways exclude
each other and one of them always holds, so it is enough to show that the scan ends in each where
it holds (`runFrom_scan_of_scanned`); that it ends in no other follows (`runFrom_scan_iff`). The
listing order of the disk does not occur in `Scanned`, which is why it does not matter.

Links may lead to the directory. Below it there are none, since what a link leads to need not
stand below the directory, and the statement would have to follow it.

The two ways in which a long path counts are seen on one disk (`long_paths_are_lost`).
-/

namespace ContractBuild

namespace Sources

/-! ## What a scan looks for -/

section Nodes

variable (node : Location → Option Node) (directory : Path) (top : Location)

/-- A regular file directly in the directory at `top` that is named like a project descriptor. -/
def IsDescriptor (p : Path) : Prop :=
  ∃ name content, p = directory.joinText name ∧ node (top ++ [name]) = some (.file content)
    ∧ p.hasSuffix projectSuffix = true

/-- A regular file below the directory at `top` that is named like a source. The first name on the
way is not that of a folder that holds no sources, and the walk to the folder of the file does not
take a path that is too long. -/
def IsSource (p : Path) : Prop :=
  ∃ names content, p = directory.join (.ofComponents .relative names)
    ∧ node (top ++ names) = some (.file content) ∧ p.hasSuffix sourceSuffix = true
    ∧ (∀ first ∈ names.head?, first ∈ skippedFolders → node (top ++ [first]) ≠ some .folder)
    ∧ ((Route.ofPath directory).descend names.dropLast).size < Disk.maxPath

/-- Everything directly in the directory at `top` has a name and a path that are not too long. -/
def AllFit : Prop := ∀ name, node (top ++ [name]) ≠ none → (directory.joinText name).Fits

/-- The ways in which a scan ends, and the trail that it leaves. -/
inductive Scanned (t : Trail) : Except Failure Target → Trail → Prop
  /-- The name or the path of something in the directory is too long. -/
  | overlong (hlong : ¬ AllFit node directory top) : Scanned t (.error (.system .nameTooLong)) t
  /-- There is one descriptor. -/
  | single {p : Path} (hfits : AllFit node directory top)
    (hprojects : InOrder (IsDescriptor node directory top) [p]) : Scanned t (.ok (.project p)) t
  /-- There are several descriptors. The first is chosen, and all of them are recorded. -/
  | several {p q : Path} {ps : List Path} (hfits : AllFit node directory top)
    (hprojects : InOrder (IsDescriptor node directory top) (p :: q :: ps)) :
    Scanned t (.ok (.project p))
      { t with log := t.log ++ [severalProjects directory p (p :: q :: ps)] }
  /-- There are sources but no descriptor. -/
  | sources {files : List Path} (hfits : AllFit node directory top)
    (hnone : ∀ p, ¬ IsDescriptor node directory top p)
    (hsources : InOrder (IsSource node directory top) files) (hsome : files ≠ []) :
    Scanned t (.ok (.sources ⟨files, hsome, directory⟩)) t
  /-- There is neither a descriptor nor a source. -/
  | nothing (hfits : AllFit node directory top)
    (hnone : ∀ p, ¬ IsDescriptor node directory top p)
    (hempty : ∀ p, ¬ IsSource node directory top p) :
    Scanned t (.error (.refused (.noSource directory.toText))) t

end Nodes

variable {host : Host} {disk : Disk} {directory : Path} {top : Location} {names : List String}
variable {Q : Path → Prop} {ps : List Path} {t : Trail}

theorem InOrder.eq_nil_iff (h : InOrder Q ps) : ps = [] ↔ ∀ p, ¬ Q p := by
  rw [List.eq_nil_iff_forall_not_mem]
  exact forall_congr' fun p => not_congr (h.mem_iff p)

/-! ## What a scan finds -/

/-- Below a plain directory the walk follows every way but those through a folder that it skips. -/
theorem followed_iff {n : Node} (htop : disk.get? top = some .folder)
    (hn : disk.get? (top ++ names) = some n) (hfile : n ≠ .folder) :
    Disk.Followed skippedFolders names ↔
      ∀ first ∈ names.head?, first ∈ skippedFolders →
        disk.get? (top ++ [first]) ≠ some .folder := by
  match names, hn with
  | [], hn =>
    rw [List.append_nil] at hn
    exact absurd (Option.some.inj (hn.symm.trans htop)) hfile
  | [name], hn => simpa [Disk.Followed, hn] using fun _ => hfile
  | first :: second :: rest, hn =>
    have hfolder : disk.get? (top ++ [first]) = some .folder :=
      Disk.get?_of_above hn (by simp) (by simp)
    simp [Disk.Followed, hfolder]

theorem inOrder_projectsListed (disk : Disk) (directory : Path) (top : Location) :
    InOrder (IsDescriptor disk.get? directory top) (sorted (projectsListed disk directory top)) :=
  inOrder_sorted (nodup_projectsListed ..) fun _ => mem_projectsListed

theorem inOrder_sourcesBelow (h : disk.Opens host.cwd directory top) (hplain : disk.Plain top) :
    InOrder (IsSource disk.get? directory top) (sorted (sourcesBelow host disk directory)) := by
  refine inOrder_sorted (nodup_sourcesBelow ..) fun p => ?_
  rw [mem_sourcesBelow h hplain.noLinksBelow]
  refine exists_congr fun names => ⟨?_, ?_⟩
  · rintro ⟨hp, hfollowed, ⟨n, hn, hnode⟩, hshort, hsuffix⟩
    obtain ⟨content, rfl⟩ := Node.exists_file (hplain names n hn) hnode
    exact ⟨content, hp, hn, hsuffix, (followed_iff h.folder hn hnode).1 hfollowed, hshort⟩
  · rintro ⟨content, hp, hn, hsuffix, hskipped, hshort⟩
    have hnode : Node.file content ≠ .folder := by simp
    exact ⟨hp, (followed_iff h.folder hn hnode).2 hskipped, ⟨_, hn, hnode⟩, hshort, hsuffix⟩

theorem allFit_iff :
    AllFit disk.get? directory top ↔ ∀ name ∈ disk.namesIn top, (directory.joinText name).Fits :=
  forall_congr' fun _ => imp_congr_left Disk.mem_namesIn.symm

/-! ## How a scan ends -/

/-- A scan that finds a descriptor chooses it, and records all of them if there are others. -/
theorem runFrom_scan_of_projects {p : Path} (h : projectsIn host disk directory = .ok (p :: ps))
    (t : Trail) :
    (scan host disk directory).runFrom t =
      (.ok (.project p),
        if ps.isEmpty then t
        else { t with log := t.log ++ [severalProjects directory p (p :: ps)] }) := by
  rw [scan, Attempt.runFrom_bind, Attempt.runFrom_ofExcept, h]
  cases ps <;> rfl

/-- A scan that finds nothing is refused. -/
theorem runFrom_scan_of_nothing (h : projectsIn host disk directory = .ok [])
    (hsources : sorted (sourcesBelow host disk directory) = []) (t : Trail) :
    (scan host disk directory).runFrom t
      = (.error (.refused (.noSource directory.toText)), t) := by
  rw [scan, Attempt.runFrom_bind, Attempt.runFrom_ofExcept, h]
  simp only [hsources]
  rfl

/-- Each of the ways to end is the way in which the scan ends. -/
theorem runFrom_scan_of_scanned {x : Except Failure Target} {t' : Trail}
    (h : disk.Opens host.cwd directory top) (hplain : disk.Plain top)
    (hx : Scanned disk.get? directory top t x t') :
    (scan host disk directory).runFrom t = (x, t') := by
  have hprojects := projectsIn_eq h hplain.noLinksBelow
  have hlisted := inOrder_projectsListed disk directory top
  have hfound := inOrder_sourcesBelow h hplain
  cases hx with
  | overlong hlong =>
    rw [if_neg (mt allFit_iff.2 hlong)] at hprojects
    exact runFrom_scan_of_error hprojects t
  | single hfits hp =>
    rw [if_pos (allFit_iff.1 hfits), hlisted.unique hp] at hprojects
    exact runFrom_scan_of_projects hprojects t
  | several hfits hps =>
    rw [if_pos (allFit_iff.1 hfits), hlisted.unique hps] at hprojects
    exact runFrom_scan_of_projects hprojects t
  | @sources files hfits hnone hsources hsome =>
    rw [if_pos (allFit_iff.1 hfits), hlisted.eq_nil_iff.2 hnone] at hprojects
    cases files with
    | nil => exact absurd rfl hsome
    | cons p ps => exact runFrom_scan_of_sources hprojects (hfound.unique hsources) t
  | nothing hfits hnone hempty =>
    rw [if_pos (allFit_iff.1 hfits), hlisted.eq_nil_iff.2 hnone] at hprojects
    exact runFrom_scan_of_nothing hprojects (hfound.eq_nil_iff.2 hempty) t

/-- One of the ways to end always holds. -/
theorem exists_scanned (h : disk.Opens host.cwd directory top) (hplain : disk.Plain top)
    (t : Trail) : ∃ x t', Scanned disk.get? directory top t x t' := by
  have hlisted := inOrder_projectsListed disk directory top
  have hfound := inOrder_sourcesBelow h hplain
  by_cases hfits : AllFit disk.get? directory top
  case neg => exact ⟨_, _, .overlong hfits⟩
  match hps : sorted (projectsListed disk directory top), hlisted with
  | [p], hlisted => exact ⟨_, _, .single hfits hlisted⟩
  | p :: q :: ps, hlisted => exact ⟨_, _, .several hfits hlisted⟩
  | [], hlisted =>
    have hnone := hlisted.eq_nil_iff.1 rfl
    by_cases hsome : sorted (sourcesBelow host disk directory) = []
    · exact ⟨_, _, .nothing hfits hnone (hfound.eq_nil_iff.1 hsome)⟩
    · exact ⟨_, _, .sources hfits hnone hfound hsome⟩

/-- A scan ends in exactly the way that holds. -/
theorem runFrom_scan_iff {x : Except Failure Target} {t' : Trail}
    (h : disk.Opens host.cwd directory top) (hplain : disk.Plain top) :
    (scan host disk directory).runFrom t = (x, t') ↔ Scanned disk.get? directory top t x t' := by
  refine ⟨fun hx => ?_, runFrom_scan_of_scanned h hplain⟩
  obtain ⟨y, u, hscanned⟩ := exists_scanned h hplain t
  obtain ⟨rfl, rfl⟩ := Prod.mk.inj ((runFrom_scan_of_scanned h hplain hscanned).symm.trans hx)
  exact hscanned

/-- Scans are exact. A scan of a directory below which stand only regular files and directories ends
in the one way that holds, and on a disk that lists the same nodes in another order it ends in the
same way. -/
theorem scan_exact {x : Except Failure Target} {t' : Trail}
    (h : disk.Opens host.cwd directory top) (hplain : disk.Plain top) :
    ((scan host disk directory).runFrom t = (x, t') ↔ Scanned disk.get? directory top t x t')
      ∧ ∀ e : Disk, (∀ k, e.get? k = disk.get? k) →
        (scan host e directory).runFrom t = (scan host disk directory).runFrom t := by
  refine ⟨runFrom_scan_iff h hplain, fun e he => ?_⟩
  have hsame : e.get? = disk.get? := funext he
  have hscanned := (runFrom_scan_iff (t := t) h hplain).1 rfl
  rw [← hsame] at hscanned
  exact runFrom_scan_of_scanned (h.congr he) (hplain.congr he) hscanned

/-- A directory behind a link. In it are a folder and a hidden file that are named like sources, and
one of two folders `obj`. -/
def linkedTree : Disk where
  entries :=
    [(["link"], .link "work"), (["work"], .folder), (["work", ".cs"], .file []),
      (["work", "Token.cs"], .file []), (["work", "Base.cs"], .file []), (["work", "obj"], .folder),
      (["work", "obj", "Old.cs"], .file []), (["work", "part.cs"], .folder),
      (["work", "part.cs", "obj"], .folder), (["work", "part.cs", "obj", "Deep.CS"], .file [])]
  distinct := by decide
  named := by decide
  closed := by decide

/-- The scan of the directory through the link finds the three sources that count. -/
theorem linked_tree_scanned :
    let directory : Path := .ofComponents .root ["link"]
    let files : List Path := [.ofComponents .root ["link", "Base.cs"],
      .ofComponents .root ["link", "Token.cs"],
      .ofComponents .root ["link", "part.cs", "obj", "Deep.CS"]]
    linkedTree.Opens [] directory ["work"] ∧ linkedTree.Plain ["work"]
      ∧ Scanned linkedTree.get? directory ["work"] {}
        (.ok (.sources ⟨files, List.cons_ne_nil _ _, directory⟩)) {} := by
  intro directory files
  let host : Host := { cwd := [], homes := ⟨"/", []⟩ }
  have hopens : linkedTree.Opens [] directory ["work"] := ⟨by decide +kernel, by decide +kernel⟩
  have hplain : linkedTree.Plain ["work"] := by decide +kernel
  have hprojects : projectsIn host linkedTree directory = .ok [] := by decide +kernel
  have hlisted : ∀ p, p ∈ sourcesBelow host linkedTree directory ↔ p ∈ files := by
    have hwalk : sourcesBelow host linkedTree directory
        = [.ofComponents .root ["link", "Token.cs"], .ofComponents .root ["link", "Base.cs"],
          .ofComponents .root ["link", "part.cs", "obj", "Deep.CS"]] := by decide +kernel
    intro p
    rw [hwalk]
    simp only [files, List.mem_cons, or_left_comm]
  have hsources : sorted (sourcesBelow host linkedTree directory) = files :=
    (inOrder_sorted (nodup_sourcesBelow ..) hlisted).unique ⟨by decide +kernel, fun _ => Iff.rfl⟩
  have hscan : (scan host linkedTree directory).runFrom {}
      = (.ok (.sources ⟨files, List.cons_ne_nil _ _, directory⟩), {}) :=
    runFrom_scan_of_sources hprojects hsources {}
  exact ⟨hopens, hplain, (scan_exact hopens hplain).1.1 hscan⟩

/-! ## Paths that are too long -/

section Lost

open Build

/-- The folder whose path is too long if it starts with two slashes. -/
def lostFolder : Location := deepFolder ++ [freshName]

/-- The deep directory with a source in a folder whose path is too long. -/
def lostDisk : Disk :=
  (deepDisk.put lostFolder .folder).put (lostFolder ++ ["Lost.cs"]) (.file [])

/-- The root, spelled with two slashes. -/
def doubleRoot : Path := .ofComponents .doubleRoot []

/-- The path of the source in the folder. -/
def lostPath : Path := doubleRoot.join (.ofComponents .relative (lostFolder ++ ["Lost.cs"]))

theorem get?_lost : deepDisk.get? (lostFolder ++ ["Lost.cs"]) = none := by
  have hlong : ¬ lostFolder ++ ["Lost.cs"] <+: deepFolder := fun h =>
    absurd h.length_le (by simp [lostFolder])
  have hother : lostFolder ++ ["Lost.cs"] ≠ deepFolder ++ ["Token.cs"] := fun h =>
    absurd (congrArg List.length h) (by simp [lostFolder])
  rw [get?_deepDisk, if_neg hother, if_neg hlong]

theorem isPart_lost : ∀ name ∈ lostFolder ++ ["Lost.cs"], Path.IsPart name := by
  intro name hname
  rcases List.mem_append.1 hname with hname | hname
  · rcases List.mem_append.1 hname with hname | hname
    · exact List.eq_of_mem_replicate hname ▸ isName_longName.1.1
    · exact List.mem_singleton.1 hname ▸ isName_freshName.1.1
  · exact List.mem_singleton.1 hname ▸ by decide

theorem get?_lostDisk (k : Location) :
    lostDisk.get? k =
      if k = lostFolder ++ ["Lost.cs"] then some (.file [])
      else if k = lostFolder then some .folder
      else deepDisk.get? k := by
  have hdeep : deepDisk.get? deepFolder = some .folder := by
    rw [get?_deepDisk, if_neg (by simp), if_pos (List.prefix_refl _)]
  have hfolder : deepDisk.Accepts lostFolder :=
    Disk.accepts_concat hdeep isName_freshName.1 (by simp [get?_freshName])
  have hlost : (deepDisk.put lostFolder .folder).get? lostFolder = some .folder := by
    rw [Disk.get?_put hfolder, if_pos rfl]
  have hfile : (deepDisk.put lostFolder .folder).Accepts (lostFolder ++ ["Lost.cs"]) := by
    refine Disk.accepts_concat hlost (by decide) ?_
    rw [Disk.get?_put hfolder, if_neg (by simp), get?_lost]
    simp
  rw [lostDisk, Disk.get?_put hfile, Disk.get?_put hfolder]

theorem plain_lostDisk (top : Location) : lostDisk.Plain top :=
  ((plain_deepDisk top).put rfl _).put rfl _

/-- The deep directory is still there. -/
theorem opens_lostDisk : lostDisk.Opens rootHost.cwd (deepPath .doubleRoot) deepFolder := by
  obtain ⟨-, hdirect, hleads⟩ := deepPath_spec .doubleRoot (by simp)
  have hkept : Disk.FoldersKept deepDisk lostDisk := by
    intro l hl
    rw [get?_lostDisk]
    split
    next hlost => simp [hlost, get?_lost] at hl
    next => split <;> simp [hl]
  have hlinks : lostDisk.LinkFree := (plain_lostDisk []).noLinksBelow
  exact location_deepPath ▸ ((hleads rootHost.cwd).mono hdirect hkept).opens hlinks hdirect

/-- The one entry of the root. -/
theorem get?_lostDisk_root {name : String} (h : lostDisk.get? [name] ≠ none) :
    name = longName ∧ lostDisk.get? [name] = some .folder := by
  have hshort : ∀ k, ([name] : Location) ≠ deepFolder ++ k := fun k hk =>
    absurd (congrArg List.length hk) (by simp [deepFolder])
  have hprefix : [name] <+: deepFolder ↔ name = longName := by
    simp [deepFolder, List.replicate_succ]
  have hget : lostDisk.get? [name] = if name = longName then some .folder else none := by
    rw [get?_lostDisk, get?_deepDisk, lostFolder, List.append_assoc, if_neg (hshort _),
      if_neg (hshort _), if_neg (hshort _), if_congr hprefix rfl rfl]
  rw [hget] at h ⊢
  split at h
  next hname => exact ⟨hname, if_pos hname⟩
  next => exact absurd rfl h

theorem not_isDescriptor_lostDisk (directory p : Path) :
    ¬ IsDescriptor lostDisk.get? directory [] p := by
  rintro ⟨name, content, -, hfile, -⟩
  have hentry : lostDisk.get? [name] = some (.file content) := hfile
  have hexists : lostDisk.get? [name] ≠ none := by simp [hentry]
  simp [(get?_lostDisk_root hexists).2] at hentry

/-- The walk to a folder from the root is as long as the names on its way, with their slashes. -/
theorem size_descend_root {anchor : Path.Anchor} (hanchor : anchor ≠ .relative)
    {names : List String} (hnames : ∀ name ∈ names, Path.IsPart name) (hsome : names ≠ []) :
    ((Route.ofPath (.ofComponents anchor [])).descend names).size
      = Location.weight names + (if anchor = .doubleRoot then 1 else 0) := by
  obtain ⟨hparts, hkept⟩ := Path.parts_join_ofComponents hnames (.ofComponents anchor [])
  have hroot : (Path.ofComponents anchor []).isAbsolute = true := decide_eq_true hanchor
  have habsolute := Path.isAbsolute_join (q := .ofComponents .relative names) hroot
  have hnil : (Path.ofComponents anchor []).parts = [] := rfl
  have hsame : (Path.ofComponents anchor []).anchor = anchor := rfl
  rw [Route.descend_ofPath hroot hnames, Path.size_ofPath habsolute (by simp [hparts, hsome]),
    hparts, hkept, hnil, hsame, List.nil_append]

theorem size_descend_doubleRoot {names : List String} (hnames : ∀ name ∈ names, Path.IsPart name)
    (hsome : names ≠ []) :
    ((Route.ofPath doubleRoot).descend names).size = Location.weight names + 1 :=
  size_descend_root (by simp) hnames hsome

/-- The source in the deep directory is found from the root. -/
theorem isSource_token : IsSource lostDisk.get? doubleRoot []
    (doubleRoot.join (.ofComponents .relative (deepFolder ++ ["Token.cs"]))) := by
  have hdeep : ∀ name ∈ deepFolder, Path.IsPart name := fun name hname =>
    List.eq_of_mem_replicate hname ▸ isName_longName.1.1
  have hnames : ∀ name ∈ deepFolder ++ ["Token.cs"], Path.IsPart name := by
    intro name hname
    rcases List.mem_append.1 hname with hname | hname
    · exact hdeep name hname
    · exact List.mem_singleton.1 hname ▸ by decide
  have hlong : deepFolder ++ ["Token.cs"] ≠ lostFolder ++ ["Lost.cs"] := fun h =>
    absurd (congrArg List.length h) (by simp [lostFolder])
  have hother : deepFolder ++ ["Token.cs"] ≠ lostFolder := by
    simpa [lostFolder] using freshName_ne_source.symm
  refine ⟨deepFolder ++ ["Token.cs"], [], rfl, ?_, ?_, ?_, ?_⟩
  · rw [List.nil_append, get?_lostDisk, if_neg hlong, if_neg hother, get?_deepDisk, if_pos rfl]
  · rw [Path.hasSuffix, Path.name_join_concat hnames]
    decide
  · intro first hfirst hskipped
    have hname : longName = first := by simpa [deepFolder, List.replicate_succ] using hfirst
    have hlength := isName_longName.2
    rw [hname, List.mem_singleton.1 hskipped] at hlength
    exact absurd hlength (by decide)
  · rw [List.dropLast_concat, size_descend_doubleRoot hdeep (by simp [deepFolder]),
      weight_deepFolder]
    decide

/-- The source in the folder is not. -/
theorem not_isSource_lost : ¬ IsSource lostDisk.get? doubleRoot [] lostPath := by
  rintro ⟨names, content, hp, hn, -, -, hshort⟩
  have hnames : ∀ name ∈ names, Path.IsPart name := fun name hname =>
    (Disk.isName_of_get? hn name hname).1
  have hparts := congrArg Path.parts hp
  rw [lostPath, (Path.parts_join_ofComponents isPart_lost _).1,
    (Path.parts_join_ofComponents hnames _).1] at hparts
  obtain rfl : names = lostFolder ++ ["Lost.cs"] := (List.append_cancel_left hparts).symm
  have hfolder : ∀ name ∈ lostFolder, Path.IsPart name := fun name hname =>
    isPart_lost name (List.mem_append_left _ hname)
  rw [List.dropLast_concat, size_descend_doubleRoot hfolder (by simp [lostFolder]), lostFolder,
    Location.weight_append, weight_deepFolder, Location.weight_cons, isName_freshName.2] at hshort
  exact absurd hshort (by decide)

/-- The one entry of the root has a path that is not too long. -/
theorem allFit_root {anchor : Path.Anchor} (hanchor : anchor ≠ .relative) :
    AllFit lostDisk.get? (.ofComponents anchor []) [] := by
  intro name hname
  obtain ⟨rfl, -⟩ := get?_lostDisk_root hname
  obtain ⟨hpart, hlength⟩ := isName_longName
  obtain ⟨hparts, hkept⟩ := Path.parts_joinText hpart.1 (.ofComponents anchor [])
  have hroot : (Path.ofComponents anchor []).isAbsolute = true := decide_eq_true hanchor
  have habsolute : ((Path.ofComponents anchor []).joinText longName).isAbsolute = true :=
    Path.isAbsolute_join hroot
  have hsize := Path.size_ofPath habsolute (by simp [hparts])
  rw [Path.Fits, Path.name_joinText hpart.1, hsize, hparts, hkept, Location.weight_append,
    Location.weight_cons, hlength]
  cases anchor <;> decide

theorem allFit_doubleRoot : AllFit lostDisk.get? doubleRoot [] := allFit_root (by simp)

/-- The folder in the deep directory has one that is. -/
theorem not_allFit_deepPath : ¬ AllFit lostDisk.get? (deepPath .doubleRoot) deepFolder := by
  intro hall
  have hpresent : lostDisk.get? (deepFolder ++ [freshName]) ≠ none := by
    show lostDisk.get? lostFolder ≠ none
    rw [get?_lostDisk, if_neg (by simp), if_pos rfl]
    simp
  have hsize := (hall freshName hpresent).1
  rw [size_joinText_deepPath isName_freshName.1.1 (by simp), isName_freshName.2] at hsize
  exact absurd hsize (by decide)

/-- Where paths are too long a scan is not exact: an entry ends the scan of its directory, and the
scan of the root leaves out a source. -/
theorem long_paths_are_lost :
    lostDisk.Plain [] ∧ lostDisk.get? (lostFolder ++ ["Lost.cs"]) = some (.file [])
      ∧ lostPath.hasSuffix sourceSuffix = true
      ∧ lostDisk.Opens rootHost.cwd (deepPath .doubleRoot) deepFolder
      ∧ (scan rootHost lostDisk (deepPath .doubleRoot)).runFrom {}
        = (.error (.system .nameTooLong), {})
      ∧ lostDisk.Opens rootHost.cwd doubleRoot []
      ∧ ∃ files hsome, (scan rootHost lostDisk doubleRoot).runFrom {}
          = (.ok (.sources ⟨files, hsome, doubleRoot⟩), {}) ∧ lostPath ∉ files := by
  have hplain := plain_lostDisk []
  have hroot : lostDisk.Opens rootHost.cwd doubleRoot [] := ⟨rfl, rfl⟩
  have hsuffix : lostPath.hasSuffix sourceSuffix = true := by
    rw [lostPath, Path.hasSuffix, Path.name_join_concat isPart_lost]
    decide
  have hnone := not_isDescriptor_lostDisk doubleRoot
  have hfound := inOrder_sourcesBelow hroot hplain
  have hsome := List.ne_nil_of_mem ((hfound.mem_iff _).2 isSource_token)
  refine ⟨hplain, by rw [get?_lostDisk, if_pos rfl], hsuffix, opens_lostDisk, ?_, hroot, _, hsome,
    ?_, ?_⟩
  · exact runFrom_scan_of_scanned opens_lostDisk (plain_lostDisk _) (.overlong not_allFit_deepPath)
  · exact runFrom_scan_of_scanned hroot hplain (.sources allFit_doubleRoot hnone hfound hsome)
  · exact fun hmem => not_isSource_lost ((hfound.mem_iff _).1 hmem)

end Lost

end Sources

end ContractBuild
