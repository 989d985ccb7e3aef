import ContractBuild.Proofs.Disk.Opens

/-!
# What tests and listings show

On a disk without links a path tests as a file exactly if it holds something, and as a directory
exactly if it leads to one. A listing shows the names in the directory at the place of its path,
each once.
-/

namespace ContractBuild

namespace Disk

variable {d e : Disk} {cwd start l : Location} {last : LastLink} {p directory : Path}
variable {names : List String} {xs ys : List String} {name : String}

/-- A walk that is refused on its way is refused. -/
theorem walk_of_refused {n : Errno} (hp : p.Openable)
    (h : d.advance last (p.origin cwd) p.parts = .refused n) :
    d.walk last cwd (.ofPath p) = .error (.errno n) := by
  rw [walk_of_openable hp, follow_of_refused h, mapError_error]

/-! ## Tests -/

theorem isFile_eq_true_iff (hd : d.LinkFree) :
    d.isFile cwd p = .ok true ↔ ∃ content, d.Holds cwd p content := by
  constructor
  · intro h
    obtain ⟨n, hstatus, hkind⟩ := leadsTo_eq_true_iff.1 h
    obtain ⟨l, hlocate, hnode⟩ := map_eq_ok_iff.1 hstatus
    obtain rfl : l = p.location cwd := walk_place hd (located_iff.1 hlocate)
    cases n with
    | file content => exact ⟨content, hlocate, (nodeAt_eq (by simp)).1 hnode⟩
    | _ => cases hkind
  · rintro ⟨content, h⟩
    simp only [isFile, leadsTo, status, h.located, Except.map, (nodeAt_eq (by simp)).2 h.held]

/-- What holds something is no directory. -/
theorem Holds.isFolder {content : Bytes} (h : d.Holds cwd p content) :
    d.isFolder cwd p = .ok false := by
  simp only [Disk.isFolder, leadsTo, status, h.located, Except.map, (nodeAt_eq (by simp)).2 h.held]

theorem isFolder_eq_true_iff (hd : d.LinkFree) :
    d.isFolder cwd p = .ok true ↔ d.LeadsToFolder cwd p := by
  refine ⟨leadsToFolder_of_isFolder hd, fun h => ?_⟩
  obtain ⟨l, hleads, hnode⟩ := h.leads
  simp only [isFolder, leadsTo, status, locate, (walk_eq_ok_iff hd).2 ⟨h.openable, hleads⟩,
    Except.map, hnode]

/-- A direct path that leads to a directory leads to it as long as directories are kept. -/
theorem LeadsToFolder.mono (h : d.LeadsToFolder cwd p) (hp : p.Direct) (hkept : FoldersKept d e) :
    e.LeadsToFolder cwd p := by
  obtain ⟨l, hleads, -⟩ := h.leads
  obtain ⟨a, ha⟩ := hleads.mono hkept
  have hfolder : e.get? (p.location cwd) = some .folder :=
    hkept _ (h.get?_of_above hp (List.prefix_refl _))
  have hplace : a.place = p.location cwd := ha.place_eq
  have hreached := ha.reached_of_exists (by simp [hplace, hfolder])
  exact ⟨h.openable, a.place, hreached, by simp [nodeAt, hplace, hfolder]⟩

/-- The names on the way to something lead there, if the operating system takes them. -/
theorem leads_of_get? {above below : Location} {n : Node} (h : d.get? (above ++ below) = some n)
    (hnames : ∀ name ∈ below, IsStep name) : Leads d above below (.reached (above ++ below)) := by
  induction below generalizing above with
  | nil =>
    rw [List.append_nil]
    exact .here above
  | cons name below ih =>
    have hstep : IsStep name := hnames name (List.mem_cons_self ..)
    have hfolder : d.get? above = some .folder := get?_of_above h (List.prefix_append ..) (by simp)
    rw [List.append_cons] at h ⊢
    cases below with
    | nil =>
      rw [List.append_nil] at h ⊢
      by_cases hn : n = .folder
      · exact .down hstep hfolder (hn ▸ h) (.here _)
      · exact .leaf hstep hfolder h hn
    | cons next below =>
      have hnext : d.get? (above ++ [name]) = some .folder :=
        get?_of_above h (List.prefix_append ..) (by simp)
      exact .down hstep hfolder hnext (ih h fun s hs => hnames s (List.mem_cons_of_mem _ hs))

/-- A direct path leads to the directory at its place, if the operating system takes its names. -/
theorem leadsToFolder_of_get? (hp : p.Direct) (hopenable : p.Openable)
    (hnames : ∀ name ∈ p.parts, name.utf8ByteSize ≤ maxName)
    (h : d.get? (p.location cwd) = some .folder) : d.LeadsToFolder cwd p := by
  rw [hp.location_eq] at h
  have hsteps : ∀ name ∈ p.parts, IsStep name :=
    fun name hname => ⟨fun he => hp.down (he ▸ hname), hnames name hname⟩
  have hleads : Leads d [] p.parts (.reached ([] ++ p.parts)) := leads_of_get? h hsteps
  exact ⟨hopenable, p.parts, hp.origin_eq ▸ hleads, by simp [nodeAt, h]⟩

/-- Without links the directory that a path opens is at its place. -/
theorem LeadsToFolder.opens (hd : d.LinkFree) (hp : p.Direct) (h : d.LeadsToFolder cwd p) :
    d.Opens cwd p (p.location cwd) := by
  obtain ⟨l, hleads, -⟩ := h.leads
  obtain rfl : l = p.location cwd := hleads.place_eq
  refine ⟨?_, h.get?_of_above hp (List.prefix_refl _)⟩
  rw [locate, (walk_eq_ok_iff hd).2 ⟨h.openable, hleads⟩]

/-! ## Listings -/

theorem mem_namesIn : name ∈ d.namesIn l ↔ d.get? (l ++ [name]) ≠ none := by
  have hroot : l ++ [name] ≠ [] := by simp
  constructor
  · intro h
    obtain ⟨⟨k, n⟩, he, hname⟩ := List.mem_filterMap.1 h
    split at hname
    next hl =>
      obtain ⟨above, rfl⟩ := List.getLast?_eq_some_iff.1 hname
      obtain rfl : above = l := by simpa using hl
      simp [(get?_eq_some_iff hroot).2 he]
    next => simp at hname
  · intro h
    obtain ⟨n, hn⟩ := Option.ne_none_iff_exists'.1 h
    refine List.mem_filterMap.2 ⟨_, (get?_eq_some_iff hroot).1 hn, ?_⟩
    simp

/-- No name is listed twice. -/
theorem nodup_namesIn (d : Disk) (l : Location) : (d.namesIn l).Nodup := by
  have hdistinct : d.entries.Pairwise fun e e' => e.1 ≠ e'.1 := List.pairwise_map.1 d.distinct
  refine List.Pairwise.filterMap _ ?_ hdistinct
  rintro ⟨k, n⟩ ⟨k', n'⟩ hne name hname name' hname' rfl
  -- two entries of one directory with the same name would have the same location
  split at hname
  next hl =>
    split at hname'
    next hl' =>
      obtain ⟨above, rfl⟩ := List.getLast?_eq_some_iff.1 hname
      obtain ⟨above', rfl⟩ := List.getLast?_eq_some_iff.1 hname'
      exact hne (by simpa using (List.dropLast_concat.symm.trans hl).trans hl'.symm)
    next => simp at hname'
  next => simp at hname

theorem list_eq_ok_iff (hd : d.LinkFree) :
    d.list cwd directory = .ok names ↔
      d.LeadsToFolder cwd directory ∧ names = d.namesIn (directory.location cwd) := by
  constructor
  · intro h
    unfold list locate at h
    cases hwalk : d.walk .follow cwd (.ofPath directory) with
    | error fault =>
      rw [hwalk] at h
      simp at h
    | ok a =>
      obtain ⟨hopenable, hleads⟩ := (walk_eq_ok_iff hd).1 hwalk
      rw [hwalk] at h
      cases a with
      | missing parent name => simp at h
      | reached l =>
        obtain rfl : l = directory.location cwd := hleads.place_eq
        simp only at h
        split at h
        next hnode => exact ⟨⟨hopenable, _, hleads, hnode⟩, (Except.ok.inj h).symm⟩
        next => simp at h
  · rintro ⟨h, rfl⟩
    obtain ⟨l, hleads, hnode⟩ := h.leads
    obtain rfl : l = directory.location cwd := hleads.place_eq
    simp only [list, locate, (walk_eq_ok_iff hd).2 ⟨h.openable, hleads⟩, hnode, if_true]

/-- The walk to something listed in a directory is one step from there. -/
theorem advance_joinText (hd : d.LinkFree) (hp : directory.Direct)
    (h : d.LeadsToFolder cwd directory) (hname : Path.IsPart name) :
    d.advance last ((directory.joinText name).origin cwd) (directory.joinText name).parts
      = d.advance last (directory.location cwd) [name] := by
  obtain ⟨hparts, hanchor⟩ := Path.parts_joinText hname directory
  have horigin : (directory.joinText name).origin cwd = directory.origin cwd := by
    rw [Path.origin, Path.origin, Path.isAbsolute, Path.isAbsolute, hanchor]
  obtain ⟨l, hleads, -⟩ := h.leads
  obtain rfl : l = directory.location cwd := hleads.place_eq
  rw [horigin, hparts]
  exact advance_append_of_reached (advance_of_leads hd hleads directory.dot_notMem_parts)
    (h.get?_of_above hp (List.prefix_refl _)) [name]

/-- A directory is made where nothing has its name. -/
theorem makeFolder_joinText (hd : d.LinkFree) (hp : directory.Direct)
    (h : d.LeadsToFolder cwd directory) (hname : IsName name)
    (hfits : (directory.joinText name).Fits)
    (hnone : d.get? (directory.location cwd ++ [name]) = none) :
    d.makeFolder cwd (directory.joinText name)
      = .ok (d.put (directory.location cwd ++ [name]) .folder) := by
  have hsize := hfits.2
  rw [Path.name_joinText hname.1] at hsize
  have habsent : Leads d (directory.location cwd) [name]
      (.missing (directory.location cwd) name) :=
    .absent ⟨hname.2.1, hsize⟩ (h.get?_of_above hp (List.prefix_refl _)) hnone
  have harrived : d.advance .keep ((directory.joinText name).origin cwd)
      (directory.joinText name).parts = .arrived (.missing (directory.location cwd) name) := by
    rw [advance_joinText hd hp h hname.1]
    exact advance_of_leads hd habsent (by simpa using Ne.symm hname.1.2.1)
  have hleads := leads_of_advance harrived (directory.joinText name).dot_notMem_parts
  rw [makeFolder, (walk_eq_ok_iff hd).2 ⟨openable_joinText h.openable hname hfits.1, hleads⟩]

theorem advance_joinText_of_long (last : LastLink) (hd : d.LinkFree) (hp : directory.Direct)
    (h : d.LeadsToFolder cwd directory) (hname : IsName name)
    (hlong : maxName < name.utf8ByteSize) :
    d.advance last ((directory.joinText name).origin cwd) (directory.joinText name).parts
      = .refused .nameTooLong := by
  have hfolder : d.get? (directory.location cwd) = some .folder :=
    h.get?_of_above hp (List.prefix_refl _)
  rw [advance_joinText hd hp h hname.1, advance, if_neg hname.1.2.1, if_neg hname.2.1,
    if_neg (not_not_intro hfolder), if_pos hlong]

end Disk

end ContractBuild
