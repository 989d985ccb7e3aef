import ContractBuild.Proofs.Disk.Tree
import ContractBuild.Proofs.Path.Order
import ContractBuild.Proofs.Sources.Inputs

/-!
# What a scan finds

A scan of a directory tests every name in it and fails only where a name or its path is too long
(`projectsIn_eq`). The descriptors that it finds are the files directly in the directory that are
named like one (`mem_projectsListed`), and the sources are what stands below it and is no directory,
as far as the walk of the tree gets (`mem_sourcesBelow`). Both lists have no repetitions, so that
sorting them forgets the order in which the disk holds its nodes.
-/

namespace ContractBuild

/-! ## Filters that may fail -/

section Filter

variable {α : Type} {keep : α → Except Failure Bool} {as : List α} {f : Failure}

theorem filterAuxM_eq_ok {test : α → Bool} (h : ∀ a ∈ as, keep a = .ok (test a)) (acc : List α) :
    List.filterAuxM keep as acc = .ok ((as.filter test).reverse ++ acc) := by
  induction as generalizing acc with
  | nil => rfl
  | cons a as ih =>
    have hrest : ∀ b ∈ as, keep b = .ok (test b) := fun b hb => h b (List.mem_cons_of_mem _ hb)
    rw [List.filterAuxM, h a (List.mem_cons_self ..)]
    cases ht : test a with
    | false =>
      rw [List.filter_cons_of_neg (by simp [ht])]
      exact ih hrest acc
    | true =>
      rw [List.filter_cons_of_pos ht, List.reverse_cons, List.append_assoc]
      exact ih hrest (a :: acc)

/-- A filter whose tests all succeed. -/
theorem filterM_eq_ok {test : α → Bool} (h : ∀ a ∈ as, keep a = .ok (test a)) :
    as.filterM keep = .ok (as.filter test) := by
  rw [List.filterM, filterAuxM_eq_ok h]
  show Except.ok _ = _
  rw [List.append_nil, List.reverse_reverse]

/-- A filter whose tests fail in one way only. -/
theorem filterM_eq_error (h : ∀ a ∈ as, (∃ b, keep a = .ok b) ∨ keep a = .error f)
    (hfails : ∃ a ∈ as, keep a = .error f) : as.filterM keep = .error f := by
  have haux : ∀ acc, List.filterAuxM keep as acc = .error f := by
    induction as with
    | nil => simp at hfails
    | cons a as ih =>
      intro acc
      rw [List.filterAuxM]
      rcases h a (List.mem_cons_self ..) with ⟨b, hb⟩ | hfail
      · rw [hb]
        refine ih (fun c hc => h c (List.mem_cons_of_mem _ hc)) ?_ _
        obtain ⟨c, hc, hfail⟩ := hfails
        rcases List.mem_cons.1 hc with rfl | hc
        · simp [hb] at hfail
        · exact ⟨c, hc, hfail⟩
      · rw [hfail]
        rfl
  rw [List.filterM, haux]
  rfl

end Filter

namespace Sources

variable {host : Host} {disk : Disk} {directory : Path} {top : Location} {names : List String}

/-! ## Project descriptors -/

/-- The descriptors directly in the directory at `top`, in the order of the disk. -/
def projectsListed (disk : Disk) (directory : Path) (top : Location) : List Path :=
  ((disk.namesIn top).map directory.joinText).filter fun p =>
    (disk.file? (top ++ [p.name])).isSome && p.hasSuffix projectSuffix

/-- The search for descriptors in a directory tests every name in it. -/
theorem projectsIn_eq (h : disk.Opens host.cwd directory top) (hlinks : disk.NoLinksBelow top) :
    projectsIn host disk directory =
      if ∀ name ∈ disk.namesIn top, (directory.joinText name).Fits then
        .ok (sorted (projectsListed disk directory top))
      else .error (.system .nameTooLong) := by
  have htest : ∀ name ∈ disk.namesIn top, isFile host disk (directory.joinText name) =
      if (directory.joinText name).Fits then .ok (disk.file? (top ++ [name])).isSome
      else .error (.system .nameTooLong) := by
    intro name hname
    rw [isFile, Disk.isFile_joinText h hlinks (Disk.mem_namesIn.1 hname)]
    split <;> rfl
  have hlist : (disk.list host.cwd directory).mapError Disk.Fault.toFailure
      = .ok (disk.namesIn top) := mapError_eq_ok_iff.2 (Disk.list_eq_of_opens h)
  by_cases hfits : ∀ name ∈ disk.namesIn top, (directory.joinText name).Fits
  · have hfiles : ((disk.namesIn top).map directory.joinText).filterM (isFile host disk)
        = .ok (((disk.namesIn top).map directory.joinText).filter fun p =>
          (disk.file? (top ++ [p.name])).isSome) := by
      refine filterM_eq_ok fun p hp => ?_
      obtain ⟨name, hname, rfl⟩ := List.mem_map.1 hp
      rw [htest name hname, if_pos (hfits name hname),
        Path.name_joinText (isName_of_mem_namesIn hname).1]
    rw [if_pos hfits, projectsIn]
    refine bind_eq_ok_iff.2 ⟨_, hlist, bind_eq_ok_iff.2 ⟨_, hfiles, ?_⟩⟩
    rw [projectsListed, List.filter_filter]
    simp only [Bool.and_comm]
    rfl
  · -- one entry that cannot be tested is enough
    have hfiles : ((disk.namesIn top).map directory.joinText).filterM (isFile host disk)
        = .error (.system .nameTooLong) := by
      refine filterM_eq_error (fun p hp => ?_) ?_
      · obtain ⟨name, hname, rfl⟩ := List.mem_map.1 hp
        rw [htest name hname]
        split
        next => exact .inl ⟨_, rfl⟩
        next => exact .inr rfl
      · obtain ⟨name, hname⟩ := Classical.not_forall.1 hfits
        obtain ⟨hname, hlong⟩ := Classical.not_imp.1 hname
        exact ⟨_, List.mem_map_of_mem hname, by rw [htest name hname, if_neg hlong]⟩
    rw [if_neg hfits, projectsIn, hlist]
    simp only [bind, Except.bind, hfiles]

/-- The search for descriptors succeeds in an existing directory only. -/
theorem leadsToFolder_of_projectsIn {ps : List Path} (hd : disk.LinkFree)
    (h : projectsIn host disk directory = .ok ps) : disk.LeadsToFolder host.cwd directory := by
  obtain ⟨names, hlist, -⟩ := bind_eq_ok_iff.1 h
  exact ((Disk.list_eq_ok_iff hd).1 (mapError_eq_ok_iff.1 hlist)).1

theorem nodup_projectsListed (disk : Disk) (directory : Path) (top : Location) :
    (projectsListed disk directory top).Nodup := by
  refine List.Pairwise.filter _ (List.pairwise_map.2 ?_)
  refine (disk.nodup_namesIn _).imp_of_mem fun hname hname' hne he => hne ?_
  have hvalid := (isName_of_mem_namesIn hname).1
  have hvalid' := (isName_of_mem_namesIn hname').1
  rw [← Path.name_joinText hvalid directory, ← Path.name_joinText hvalid' directory, he]

/-- The descriptors are the files in the directory that are named like one. -/
theorem mem_projectsListed {p : Path} :
    p ∈ projectsListed disk directory top ↔
      ∃ name content, p = directory.joinText name
        ∧ disk.get? (top ++ [name]) = some (.file content) ∧ p.hasSuffix projectSuffix = true := by
  simp only [projectsListed, List.mem_filter, List.mem_map, Bool.and_eq_true,
    Option.isSome_iff_exists, Disk.file?_eq_some_iff]
  constructor
  · rintro ⟨⟨name, hname, rfl⟩, ⟨content, hfile⟩, hsuffix⟩
    rw [Path.name_joinText (isName_of_mem_namesIn hname).1] at hfile
    exact ⟨name, content, rfl, hfile, hsuffix⟩
  · rintro ⟨name, content, rfl, hfile, hsuffix⟩
    have hname : name ∈ disk.namesIn top := Disk.mem_namesIn.2 (by simp [hfile])
    refine ⟨⟨name, hname, rfl⟩, ⟨content, ?_⟩, hsuffix⟩
    rw [Path.name_joinText (isName_of_mem_namesIn hname).1]
    exact hfile

/-! ## Sources -/

/-- The sources below a directory. -/
theorem mem_sourcesBelow {p : Path} (h : disk.Opens host.cwd directory top)
    (hlinks : disk.NoLinksBelow top) :
    p ∈ sourcesBelow host disk directory ↔
      ∃ names, p = directory.join (.ofComponents .relative names)
        ∧ Disk.Followed skippedFolders names
        ∧ (∃ n, disk.get? (top ++ names) = some n ∧ n ≠ .folder)
        ∧ ((Route.ofPath directory).descend names.dropLast).size < Disk.maxPath
        ∧ p.hasSuffix sourceSuffix = true := by
  rw [sourcesBelow, h.located]
  simp only [List.mem_filter, List.mem_map, Disk.mem_filesBelow hlinks]
  constructor
  · rintro ⟨⟨names, ⟨hfollowed, hn, hshort⟩, rfl⟩, hsuffix⟩
    exact ⟨names, rfl, hfollowed, hn, hshort, hsuffix⟩
  · rintro ⟨names, rfl, hfollowed, hn, hshort, hsuffix⟩
    exact ⟨⟨names, ⟨hfollowed, hn, hshort⟩, rfl⟩, hsuffix⟩

theorem nodup_sourcesBelow (host : Host) (disk : Disk) (directory : Path) :
    (sourcesBelow host disk directory).Nodup := by
  unfold sourcesBelow
  split
  next => exact List.nodup_nil
  next top _ =>
    refine List.Pairwise.filter _ (List.pairwise_map.2 ?_)
    refine (Disk.nodup_filesBelow ..).imp_of_mem fun hnames hnames' hne he => hne ?_
    have hvalid : ∀ name ∈ _, Path.IsPart name := fun name hname =>
      (Disk.isName_of_mem_filesBelow hnames name hname).1
    have hvalid' : ∀ name ∈ _, Path.IsPart name := fun name hname =>
      (Disk.isName_of_mem_filesBelow hnames' name hname).1
    have hparts := congrArg Path.parts he
    rw [(Path.parts_join_ofComponents hvalid directory).1,
      (Path.parts_join_ofComponents hvalid' directory).1] at hparts
    exact List.append_cancel_left hparts

end Sources

end ContractBuild
