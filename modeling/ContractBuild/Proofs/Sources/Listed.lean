import ContractBuild.Proofs.Disk.Below
import ContractBuild.Proofs.Path.Homes
import ContractBuild.Proofs.Path.Text
import ContractBuild.Proofs.Sources.Exact
import ContractBuild.Proofs.Sources.Rules

/-!
# Listed sources as inputs

The files that inputs resolve to can be given as inputs themselves, whatever the base directory
is: they resolve to the same files in the same order (`listing_resolves_again`). Every listed path
starts at the root and has no `..`, so reading its text gives it again and no base counts; it
leads to a file, so it is no directory, and has the suffix of sources, so it is no descriptor.

Two things can be in the way (`listing_is_not_found_again`): the base directory may be told by a
tilde that names no home directory, and a scan may list a file whose path is too long to be
tested, while that of its folder was not. What was given as a file has been tested already, so the
second can happen to a scan only.
-/

namespace ContractBuild

variable {host : Host} {disk : Disk} {cwd : Option String} {base : Path}

/-- The base directory is found unless it is told by a tilde. -/
theorem Host.exists_base {directory : Path} (hdirectory : host.directory disk = .ok directory)
    (h : ∀ text, cwd = some text → ¬ Path.NamesHome text) :
    ∃ base, host.base disk cwd = .ok base := by
  unfold Host.base
  rw [hdirectory]
  cases cwd with
  | none => exact ⟨directory, rfl⟩
  | some text =>
    refine ⟨(directory.join (Path.ofText text)).normalize, ?_⟩
    show ((Path.ofText text).absolute host.homes directory).mapError homeFailure = _
    rw [Path.absolute_ofText (h text rfl), mapError_ok]

theorem Host.exists_directory_of_base (h : host.base disk cwd = .ok base) :
    ∃ directory, host.directory disk = .ok directory := by
  unfold Host.base at h
  cases hdirectory : host.directory disk with
  | error f => simp [hdirectory] at h
  | ok directory => exact ⟨directory, rfl⟩

/-- What leads to a file is not too long. -/
theorem Disk.FileAt.passable {location : Location} {p : Path} (h : disk.FileAt location p) :
    Passable p := by
  obtain ⟨content, h⟩ := h
  obtain ⟨l, hlocate, -⟩ := map_eq_ok_iff.1 h
  exact passable_of_locate hlocate

namespace Sources

variable {p directory : Path} {ps : List Path} {top : Location} {t t' : Trail}
variable {paths : List String} {s : SourceFiles}

/-- A path in a list of sources. It leads to a file, unless it is too long to be tested. -/
structure Listed (host : Host) (disk : Disk) (p : Path) : Prop where
  direct : p.Direct
  source : p.suffix.toLower = sourceSuffix
  found : Disk.Passable p → disk.FileAt host.cwd p
  lost : ¬ Disk.Passable p → disk.TooLong host.cwd p

/-! ## Where listed paths come from -/

theorem listed_of_source (hp : p.Direct) (h : SourceAt disk host.cwd p) : Listed host disk p where
  direct := hp
  source := h.1
  found _ := h.2
  lost hlong := absurd h.2.passable hlong

/-- What a scan finds is listed. -/
theorem listed_of_scan (h : disk.Opens host.cwd directory top) (hplain : disk.Plain top)
    (hdirect : directory.Direct)
    (hscan : (scan host disk directory).runFrom t = (.ok (.sources s), t')) :
    ∀ p ∈ s.files, Listed host disk p := by
  intro p hp
  cases (runFrom_scan_iff h hplain).1 hscan with
  | sources hfits hnone hsources hsome =>
    obtain ⟨names, content, rfl, hn, hsuffix, -, -⟩ := (hsources.mem_iff p).1 hp
    have hstatus := Disk.status_below h hn rfl hplain.noLinksBelow
    -- names on the disk lead down only
    have hnames : ".." ∉ (Path.ofComponents .relative names).parts := fun hup =>
      (Disk.isName_of_get? hn ".." (List.mem_append_right _ (List.mem_of_mem_filter hup))).2.1 rfl
    refine ⟨hdirect.join hnames, hasSuffix_source_iff.1 hsuffix, fun hpass => ?_, fun hlong => ?_⟩
    · exact ⟨content, by rw [hstatus, if_pos hpass]⟩
    · exact hstatus.trans (if_neg hlong)

/-- Files that are not looked for are the inputs themselves. -/
theorem listed_of_classify (h : classify host disk paths cwd = .ok (.target (.sources s))) :
    ∀ p ∈ s.files, Listed host disk p ∧ Disk.Passable p := by
  obtain ⟨base, hbase, h⟩ := bind_eq_ok_iff.1 h
  obtain ⟨ps, hps, h⟩ := bind_eq_ok_iff.1 h
  obtain ⟨hfiles, hall, -⟩ := sources_of_classifyAbsolute h
  rw [hfiles]
  intro p hp
  obtain ⟨text, -, habsolute⟩ := (mapM_matches hps).1 p hp
  have hdirect := Host.direct_of_absolute (Host.direct_of_base hbase).absolute habsolute
  exact ⟨listed_of_source hdirect (hall p hp), (hall p hp).2.passable⟩

/-- Below the directory that is scanned, if one is, stand only regular files and directories. -/
def ScansPlain (host : Host) (disk : Disk) (paths : List String) (cwd : Option String) : Prop :=
  ∀ directory top, classify host disk paths cwd = .ok (.directory directory) →
    disk.Opens host.cwd directory top → disk.Plain top

/-- Whatever inputs resolve to was asked for, or was found in the directory that was. -/
theorem asked_or_found (h : (resolve host disk paths cwd).runFrom t = (.ok (.sources s), t')) :
    classify host disk paths cwd = .ok (.target (.sources s))
      ∨ ∃ directory t₁, classify host disk paths cwd = .ok (.directory directory)
        ∧ (scan host disk directory).runFrom t = (.ok (.sources s), t₁) := by
  obtain ⟨request, t₁, hrequest, h⟩ := Attempt.runFrom_bind_eq_ok_iff.1 h
  obtain rfl : t = t₁ := congrArg Prod.snd hrequest
  have hclassify : classify host disk paths cwd = .ok request := congrArg Prod.fst hrequest
  cases request with
  | directory directory =>
    obtain ⟨found, t₂, hscan, h⟩ := Attempt.runFrom_bind_eq_ok_iff.1 h
    obtain rfl : found = .sources s := Except.ok.inj (congrArg Prod.fst h)
    exact .inr ⟨directory, t₂, hclassify, hscan⟩
  | target found =>
    obtain rfl : found = .sources s := Except.ok.inj (congrArg Prod.fst h)
    exact .inl hclassify

/-- Whatever inputs resolve to is listed. -/
theorem listed_of_resolve (h : (resolve host disk paths cwd).runFrom t = (.ok (.sources s), t'))
    (hplain : ScansPlain host disk paths cwd) : ∀ p ∈ s.files, Listed host disk p := by
  rcases asked_or_found h with hclassify | ⟨directory, t₁, hclassify, hscan⟩
  · exact fun p hp => (listed_of_classify hclassify p hp).1
  · have hdirect : directory.Direct := direct_of_classify hclassify
    obtain ⟨top, hopens⟩ : ∃ top, disk.Opens host.cwd directory top := by
      obtain ⟨ps, t₂, hprojects, -⟩ := Attempt.runFrom_bind_eq_ok_iff.1 hscan
      obtain ⟨names, hlist, -⟩ := bind_eq_ok_iff.1 (congrArg Prod.fst hprojects)
      exact Disk.opens_of_list hdirect.absolute (mapError_eq_ok_iff.1 hlist)
    exact listed_of_scan hopens (hplain directory top hclassify hopens) hdirect hscan

/-! ## Listed paths as inputs -/

theorem mapM_absolute_toText (h : ∀ p ∈ ps, p.Direct) (base : Path) :
    (ps.map Path.toText).mapM (fun text => host.absolute (.ofText text) base) = .ok ps := by
  induction ps with
  | nil => rfl
  | cons p ps ih =>
    obtain ⟨hp, hps⟩ := List.forall_mem_cons.1 h
    rw [List.map_cons, List.mapM_cons, Path.ofText_toText hp.absolute, Host.absolute_of_direct hp,
      ih hps]
    rfl

theorem classify_toTexts (hbase : host.base disk cwd = .ok base) (h : ∀ p ∈ ps, p.Direct) :
    classify host disk (ps.map Path.toText) cwd = classifyAbsolute host disk base ps :=
  classify_eq hbase (mapM_absolute_toText h base)

/-- The files of a list as they are listed when they are given themselves. -/
def again (s : SourceFiles) : SourceFiles :=
  ⟨s.files, s.nonempty, (s.files.head s.nonempty).parent⟩

/-- Listed paths that are not too long ask for themselves. -/
theorem classify_of_passable (hbase : host.base disk cwd = .ok base)
    (h : ∀ p ∈ s.files, Listed host disk p) (hpass : ∀ p ∈ s.files, Disk.Passable p) :
    classify host disk (s.files.map Path.toText) cwd = .ok (.target (.sources (again s))) := by
  have hsource : ∀ p ∈ s.files, SourceAt disk host.cwd p := fun p hp =>
    ⟨(h p hp).source, (h p hp).found (hpass p hp)⟩
  have hshort : ∀ p ∈ s.files, ¬ disk.TooLong host.cwd p := by
    intro p hp hlong
    obtain ⟨content, hfile⟩ := (hsource p hp).2
    simp [Disk.TooLong, hfile] at hlong
  rw [classify_toTexts hbase fun p hp => (h p hp).direct, classifyAbsolute_eq_sources_iff hshort]
  refine ⟨rfl, hsource, s.files.head s.nonempty, s.files.tail, ?_, rfl⟩
  exact (List.cons_head_tail s.nonempty).symm

/-- The first path that is too long ends the tests. -/
theorem classify_of_not_passable (hbase : host.base disk cwd = .ok base)
    (h : ∀ p ∈ ps, Listed host disk p) (hlong : ∃ p ∈ ps, ¬ Disk.Passable p) :
    classify host disk (ps.map Path.toText) cwd = .error (.system .nameTooLong) := by
  rw [classify_toTexts hbase fun p hp => (h p hp).direct, classifyAbsolute_fails_iff (by simp)]
  obtain ⟨p, hp, hfails⟩ := hlong
  obtain ⟨first, hfirst⟩ : ∃ first, ps.find? (fun p => ¬ Disk.Passable p) = some first :=
    Option.isSome_iff_exists.1 (List.find?_isSome.2 ⟨p, hp, by simpa using hfails⟩)
  obtain ⟨hover, before, after, rfl, hbefore⟩ := List.find?_eq_some_iff_append.1 hfirst
  have hlisted := h first (by simp)
  -- the tests get as far, as all paths before are found
  have htested : Tested host disk (before ++ first :: after) first := by
    refine .inr ⟨before, after, rfl, hasSuffix_source_iff.2 hlisted.source, fun q hq => ?_⟩
    have hq' := h q (List.mem_append_left _ hq)
    exact sourceAt_iff.1 ⟨hq'.source, hq'.found (by simpa using hbefore q hq)⟩
  exact ⟨rfl, first, htested, hlisted.lost (by simpa using hover)⟩

/-- **Listed sources resolve to themselves.** Given as inputs, the files that inputs resolved to
resolve to the same files in the same order, in the folder of the first, from whatever base. If one
of their paths is too long, resolving fails for it. It also fails if the base cannot be found, for
which it takes a tilde. What was found by no scan is never too long. -/
theorem listing_resolves_again
    (h : (resolve host disk paths cwd).runFrom t = (.ok (.sources s), t'))
    (hplain : ScansPlain host disk paths cwd) (given : Option String) (t₂ : Trail) :
    (∀ base, host.base disk given = .ok base → (∀ p ∈ s.files, Disk.Passable p) →
        (resolve host disk (s.files.map Path.toText) given).runFrom t₂
          = (.ok (.sources (again s)),
            { t₂ with log := t₂.log ++ [resolvedRecord (.sources (again s))] }))
      ∧ (∀ base, host.base disk given = .ok base → (∃ p ∈ s.files, ¬ Disk.Passable p) →
        (resolve host disk (s.files.map Path.toText) given).runFrom t₂
          = (.error (.system .nameTooLong), t₂))
      ∧ (∀ f, host.base disk given = .error f →
        (resolve host disk (s.files.map Path.toText) given).runFrom t₂ = (.error f, t₂))
      ∧ ((∀ text, given = some text → ¬ Path.NamesHome text) →
        ∃ base, host.base disk given = .ok base)
      ∧ ((∀ directory, classify host disk paths cwd ≠ .ok (.directory directory)) →
        ∀ p ∈ s.files, Disk.Passable p) := by
  have hlisted := listed_of_resolve h hplain
  refine ⟨fun base hbase hpass => ?_, fun base hbase hlong => ?_, fun f hbase => ?_,
    fun htilde => ?_, fun hgiven => ?_⟩
  · rw [runFrom_resolve, classify_of_passable hbase hlisted hpass]
  · rw [runFrom_resolve, classify_of_not_passable hbase hlisted hlong]
  · rw [runFrom_resolve, classify, hbase]
    rfl
  · obtain ⟨request, hclassify⟩ : ∃ request, classify host disk paths cwd = .ok request := by
      rcases asked_or_found h with hclassify | ⟨_, _, hclassify, -⟩ <;> exact ⟨_, hclassify⟩
    obtain ⟨_, hbase, -⟩ := bind_eq_ok_iff.1 hclassify
    obtain ⟨directory, hdirectory⟩ := Host.exists_directory_of_base hbase
    exact Host.exists_base hdirectory htilde
  · rcases asked_or_found h with hclassify | ⟨directory, -, hclassify, -⟩
    · exact fun p hp => (listed_of_classify hclassify p hp).2
    · exact absurd hclassify (hgiven directory)

/-! ## A source that is found again -/

section Token

/-- A directory with one source. -/
def tokenDisk : Disk := (Disk.empty.put ["w"] .folder).put ["w", "Token.cs"] (.file [])

/-- A host in the directory. -/
def tokenHost : Host where
  cwd := ["w"]
  homes := ⟨"/", []⟩

/-- The one source of the directory. -/
def tokenFiles : SourceFiles := ⟨[.ofText "/w/Token.cs"], List.cons_ne_nil _ _, .ofText "/w"⟩

theorem resolve_token : (resolve tokenHost tokenDisk [] none).runFrom {}
    = (.ok (.sources tokenFiles), { log := [resolvedRecord (.sources tokenFiles)] }) := by
  have hclassify : classify tokenHost tokenDisk [] none = .ok (.directory (.ofText "/w")) := by
    decide +kernel
  have hprojects : projectsIn tokenHost tokenDisk (.ofText "/w") = .ok [] := by decide +kernel
  have hwalk : sourcesBelow tokenHost tokenDisk (.ofText "/w") = [.ofText "/w/Token.cs"] := by
    decide +kernel
  have hsources : sorted (sourcesBelow tokenHost tokenDisk (.ofText "/w"))
      = [.ofText "/w/Token.cs"] := by
    rw [hwalk, sorted, List.mergeSort_singleton]
  exact runFrom_resolve_of_scan hclassify (runFrom_scan_of_sources hprojects hsources {})

/-- The source that the scan finds is found by its path, from any base. -/
theorem token_resolves_again :
    (resolve tokenHost tokenDisk [] none).runFrom {}
        = (.ok (.sources tokenFiles), { log := [resolvedRecord (.sources tokenFiles)] })
      ∧ ScansPlain tokenHost tokenDisk [] none
      ∧ ((resolve tokenHost tokenDisk ["/w/Token.cs"] (some "/")).runFrom {}).1
        = .ok (.sources tokenFiles) := by
  have hplain : ScansPlain tokenHost tokenDisk [] none := fun _ top _ _ =>
    ((Disk.plain_empty top).put rfl _).put rfl _
  have hbase : tokenHost.base tokenDisk (some "/") = .ok (.ofText "/") := by decide +kernel
  have htexts : tokenFiles.files.map Path.toText = ["/w/Token.cs"] := by decide +kernel
  have hagain := (listing_resolves_again resolve_token hplain (some "/") {}).1 _ hbase
    (by decide +kernel)
  rw [htexts] at hagain
  exact ⟨resolve_token, hplain, congrArg Prod.fst hagain⟩

end Token

/-! ## Sources that are not -/

section Beyond

open Build

/-- The root, spelled with one slash. -/
def singleRoot : Path := .ofComponents .root []

/-- The path of the source in the folder whose path is just short enough. -/
def beyondPath : Path := singleRoot.join (.ofComponents .relative (lostFolder ++ ["Lost.cs"]))

theorem isSource_beyond : IsSource lostDisk.get? singleRoot [] beyondPath := by
  have hfolder : ∀ name ∈ lostFolder, Path.IsPart name := fun name hname =>
    isPart_lost name (List.mem_append_left _ hname)
  refine ⟨lostFolder ++ ["Lost.cs"], [], rfl, by rw [List.nil_append, get?_lostDisk, if_pos rfl],
    ?_, ?_, ?_⟩
  · rw [beyondPath, Path.hasSuffix, Path.name_join_concat isPart_lost]
    decide
  · intro first hfirst hskipped
    have hname : longName = first := by
      simpa [lostFolder, deepFolder, List.replicate_succ] using hfirst
    have hlength := isName_longName.2
    rw [hname, List.mem_singleton.1 hskipped] at hlength
    exact absurd hlength (by decide)
  · rw [List.dropLast_concat]
    show ((Route.ofPath (.ofComponents .root [])).descend lostFolder).size < Disk.maxPath
    rw [size_descend_root (by simp) hfolder (by simp [lostFolder]), lostFolder,
      Location.weight_append, weight_deepFolder, Location.weight_cons, isName_freshName.2]
    decide

theorem not_passable_beyond : ¬ Disk.Passable beyondPath := by
  rintro ⟨hsize, -⟩
  obtain ⟨hparts, -⟩ := Path.parts_join_ofComponents isPart_lost singleRoot
  have habsolute : beyondPath.isAbsolute = true := Path.isAbsolute_join rfl
  have hnil : singleRoot.parts = [] := rfl
  rw [Path.size_ofPath habsolute (by simp [beyondPath, hparts]), beyondPath, hparts, hnil,
    List.nil_append, Location.weight_append, lostFolder, Location.weight_append, weight_deepFolder,
    Location.weight_cons, isName_freshName.2] at hsize
  exact absurd (Nat.lt_of_le_of_lt (Nat.le_add_right _ _) hsize) (by decide)

/-- A scan finds a source that is too long to be tested, and a base may name no home directory. -/
theorem listing_is_not_found_again :
    (lostDisk.Plain [] ∧ ∃ s t,
        (resolve rootHost lostDisk ["/"] none).runFrom {} = (.ok (.sources s), t)
        ∧ (resolve rootHost lostDisk (s.files.map Path.toText) none).runFrom {}
          = (.error (.system .nameTooLong), {}))
      ∧ tokenDisk.Plain []
      ∧ (resolve tokenHost tokenDisk [] none).runFrom {}
        = (.ok (.sources tokenFiles), { log := [resolvedRecord (.sources tokenFiles)] })
      ∧ (resolve tokenHost tokenDisk (tokenFiles.files.map Path.toText) (some "~nobody")).runFrom {}
        = (.error .homeless, {}) := by
  have hplain := plain_lostDisk []
  have hroot : lostDisk.Opens rootHost.cwd singleRoot [] := ⟨rfl, rfl⟩
  have hbase : rootHost.base lostDisk none = .ok singleRoot := rfl
  have hdirect : singleRoot.Direct := ⟨rfl, by decide⟩
  have hfolder : lostDisk.FolderAt rootHost.cwd singleRoot := by
    rw [Disk.FolderAt, Disk.status, hroot.located, Except.map, Disk.nodeAt, hroot.folder]
    rfl
  have hclassify : classify rootHost lostDisk ["/"] none = .ok (.directory singleRoot) :=
    classify_toText hdirect hbase (isFolder_eq_true hfolder)
  have hfound := inOrder_sourcesBelow hroot hplain
  have hmem := (hfound.mem_iff _).2 isSource_beyond
  have hscan := runFrom_scan_of_scanned (t := {}) hroot hplain
    (.sources (allFit_root (by simp)) (not_isDescriptor_lostDisk singleRoot) hfound
      (List.ne_nil_of_mem hmem))
  have hagain := classify_of_not_passable hbase
    (listed_of_scan hroot hplain hdirect hscan) ⟨_, hmem, not_passable_beyond⟩
  refine ⟨⟨hplain, _, _, runFrom_resolve_of_scan hclassify hscan, ?_⟩, ?_, resolve_token, ?_⟩
  · rw [runFrom_resolve, hagain]
  · exact ((Disk.plain_empty []).put rfl _).put rfl _
  · rw [runFrom_resolve, classify]
    rfl

end Beyond

end Sources

end ContractBuild
