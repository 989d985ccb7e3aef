import ContractBuild.Proofs.Disk.Change

/-!
# Creating directories

Creating a directory with its missing ancestors adds directories at places of the path and of its
ancestors, where nothing was before, and changes nothing else; this holds whether it succeeds or
not. If it succeeds the path leads to a directory (`ensureFolders_spec`).

When the path starts at the root and has no `..`, the places are the beginnings of its own place
(`Path.Direct.passes_iff`), and after a success each of them is a directory
(`LeadsToFolder.get?_of_above`).
-/

namespace ContractBuild

/-- Whether a location is the place of a path or of one of its ancestors. -/
def Path.Passes (p : Path) (cwd k : Location) : Prop :=
  ∃ ps, ps <+: p.parts ∧ k = ps.foldl Location.step (p.origin cwd)

/-- A path that starts at the root and goes down only. -/
structure Path.Direct (p : Path) : Prop where
  absolute : p.isAbsolute = true
  down : ".." ∉ p.parts

namespace Path

variable {p : Path} {cwd k : Location}

theorem passes_location (p : Path) (cwd : Location) : p.Passes cwd (p.location cwd) :=
  ⟨p.parts, List.prefix_refl _, rfl⟩

theorem Passes.of_parent (h : p.parent.Passes cwd k) : p.Passes cwd k := by
  obtain ⟨ps, hps, rfl⟩ := h
  exact ⟨ps, hps.trans (List.dropLast_prefix _), rfl⟩

/-- Steps that only go down append their names. -/
theorem foldl_step_of_notMem {steps : List String} (h : ".." ∉ steps) (start : Location) :
    steps.foldl Location.step start = start ++ steps := by
  induction steps generalizing start with
  | nil => simp
  | cons name rest ih =>
    rw [List.mem_cons, not_or] at h
    rw [List.foldl_cons, Location.step_of_ne (Ne.symm h.1), ih h.2, List.append_assoc]
    rfl

theorem Direct.origin_eq (h : p.Direct) : p.origin cwd = [] := if_pos h.absolute

theorem Direct.location_eq (h : p.Direct) : p.location cwd = p.parts := by
  rw [Path.location, foldl_step_of_notMem h.down, h.origin_eq, List.nil_append]

theorem Direct.passes_iff (h : p.Direct) : p.Passes cwd k ↔ k <+: p.location cwd := by
  have hfold : ∀ ps, ps <+: p.parts → ps.foldl Location.step (p.origin cwd) = ps := by
    intro ps hps
    rw [foldl_step_of_notMem (fun hm => h.down (hps.subset hm)), h.origin_eq, List.nil_append]
  rw [h.location_eq]
  constructor
  · rintro ⟨ps, hps, rfl⟩
    rwa [hfold ps hps]
  · intro hk
    exact ⟨k, hk, (hfold k hk).symm⟩

end Path

namespace Disk

variable {d e f : Disk} {cwd : Location} {p : Path} {P Q : Location → Prop}

/-- Nothing differs between two disks but that directories were added at some locations. -/
def FoldersAdded (P : Location → Prop) (d e : Disk) : Prop :=
  ∀ k, e.get? k = d.get? k ∨ P k ∧ d.get? k = none ∧ e.get? k = some .folder

namespace FoldersAdded

theorem refl (P : Location → Prop) (d : Disk) : FoldersAdded P d d := fun _ => .inl rfl

theorem trans (h : FoldersAdded P d e) (h' : FoldersAdded P e f) : FoldersAdded P d f := by
  intro k
  rcases h' k with hk' | ⟨hP, hnone, hfolder⟩
  · rw [hk']
    exact h k
  · rcases h k with hk | ⟨-, -, hk⟩
    · exact .inr ⟨hP, hk ▸ hnone, hfolder⟩
    · simp [hk] at hnone

theorem mono (h : FoldersAdded P d e) (hPQ : ∀ k, P k → Q k) : FoldersAdded Q d e :=
  fun k => (h k).imp_right fun hk => ⟨hPQ k hk.1, hk.2⟩

theorem foldersKept (h : FoldersAdded P d e) : FoldersKept d e := by
  intro k hk
  rcases h k with he | ⟨-, -, he⟩
  · exact he.trans hk
  · exact he

theorem linkFree (h : FoldersAdded P d e) (hd : d.LinkFree) : e.LinkFree := by
  intro k target hk
  rcases h k with he | ⟨-, -, he⟩
  · exact hd k target (he ▸ hk)
  · simp [he] at hk

/-- A directory that was added is no device. -/
theorem get?_device (h : FoldersAdded P d e) {k : Location} {v : Device}
    (hv : e.get? k = some (.device v)) : d.get? k = some (.device v) := by
  rcases h k with hk | ⟨-, -, hk⟩
  · exact hk ▸ hv
  · simp [hk] at hv

/-- A directory where nothing was. -/
theorem of_put {l : Location} (h : d.Accepts l) (hnone : d.get? l = none) :
    FoldersAdded (· = l) d (d.put l .folder) := by
  intro k
  rw [get?_put h]
  split
  next hk => exact .inr ⟨hk, hk ▸ hnone, rfl⟩
  next => exact .inl rfl

/-- No regular file is touched. -/
theorem file?_eq (h : FoldersAdded P d e) (k : Location) : e.file? k = d.file? k := by
  rcases h k with hk | ⟨-, hnone, hfolder⟩
  · exact file?_eq_of_get?_eq hk
  · rw [file?_eq_none_of_get?_eq_none hnone, file?, hfolder]

end FoldersAdded

/-- Whether a path leads to a directory, if only to the removed one in which the walk stays. -/
structure LeadsToFolder (d : Disk) (cwd : Location) (p : Path) : Prop where
  openable : p.Openable
  leads : ∃ l, Leads d (p.origin cwd) p.parts (.reached l) ∧ d.nodeAt l = .folder

theorem leadsToFolder_of_isFolder (hd : d.LinkFree) (h : d.isFolder cwd p = .ok true) :
    LeadsToFolder d cwd p := by
  obtain ⟨n, hstatus, hkind⟩ := leadsTo_eq_true_iff.1 h
  obtain ⟨l, hlocate, hnode⟩ := map_eq_ok_iff.1 hstatus
  obtain ⟨hp, hleads⟩ := (walk_eq_ok_iff hd).1 (located_iff.1 hlocate)
  cases n with
  | folder => exact ⟨hp, l, hleads, hnode⟩
  | _ => cases hkind

/-- Creating a directory adds it and nothing else. -/
theorem makeFolder_ok (hd : d.LinkFree) (h : d.makeFolder cwd p = .ok e) :
    FoldersAdded (p.Passes cwd) d e ∧ LeadsToFolder e cwd p := by
  unfold makeFolder at h
  split at h
  next => simp at h
  next => simp at h
  next parent name hwalk =>
    obtain ⟨hp, hleads⟩ := (walk_eq_ok_iff hd).1 hwalk
    have hplace : parent ++ [name] = p.location cwd := hleads.place_eq
    have haccepts := accepts_of_missing hp hleads
    have hnone := hleads.of_missing.2.1
    obtain rfl := Except.ok.inj h
    rw [hplace] at haccepts hnone ⊢
    have hadded : FoldersAdded (p.Passes cwd) d (d.put (p.location cwd) .folder) :=
      (FoldersAdded.of_put haccepts hnone).mono fun k hk => hk ▸ p.passes_location cwd
    have hfolder : (d.put (p.location cwd) .folder).get? (p.location cwd) = some .folder := by
      rw [get?_put haccepts, if_pos rfl]
    obtain ⟨b, hb⟩ := hleads.mono hadded.foldersKept
    have hbplace : b.place = p.location cwd := hb.place_eq
    have hreached := hb.reached_of_exists (by simp [hbplace, hfolder])
    rw [hbplace] at hreached
    exact ⟨hadded, hp, _, hreached, by simp [nodeAt, hfolder]⟩

theorem ensureFolder_ok (hd : d.LinkFree) (h : d.ensureFolder cwd p = .ok e) :
    FoldersAdded (p.Passes cwd) d e ∧ LeadsToFolder e cwd p := by
  unfold ensureFolder at h
  split at h
  next hmade =>
    obtain rfl := Except.ok.inj h
    exact makeFolder_ok hd hmade
  next => simp at h
  next => simp at h
  next =>
    split at h
    next hfolder =>
      obtain rfl := Except.ok.inj h
      exact ⟨.refl _ _, leadsToFolder_of_isFolder hd hfolder⟩
    next => simp at h
    next => simp at h

/-- Creating a directory with its ancestors adds directories on the way to it and nothing else, and
after a success the path leads to a directory. -/
theorem ensureFolders_spec (hd : d.LinkFree) (cwd : Location) (p : Path) :
    FoldersAdded (p.Passes cwd) d (d.ensureFolders cwd p).2
      ∧ ((d.ensureFolders cwd p).1 = .ok () → LeadsToFolder (d.ensureFolders cwd p).2 cwd p) := by
  fun_induction ensureFolders d cwd p with
  | case1 p e hmade =>
    -- nothing is missing above
    obtain ⟨hadded, hleads⟩ := makeFolder_ok hd hmade
    exact ⟨hadded, fun _ => hleads⟩
  | case2 => exact ⟨.refl _ _, fun h => by simp at h⟩
  | case3 p _ _ _ e hrest ih =>
    -- what was added above stays, although the ancestors could not all be made
    rw [hrest] at ih
    exact ⟨ih.1.mono fun _ => Path.Passes.of_parent, fun h => by simp at h⟩
  | case4 p _ _ d' hrest e hlast ih =>
    -- the ancestors were made, then the directory itself
    rw [hrest] at ih
    have habove := ih.1.mono fun _ => Path.Passes.of_parent
    obtain ⟨hadded, hleads⟩ := ensureFolder_ok (habove.linkFree hd) hlast
    exact ⟨habove.trans hadded, fun _ => hleads⟩
  | case5 p _ _ d' hrest e hlast ih =>
    rw [hrest] at ih
    exact ⟨ih.1.mono fun _ => Path.Passes.of_parent, fun h => by simp at h⟩
  | case6 p _ _ _ e hlast =>
    -- any other refusal is forgiven where a directory stands already
    obtain ⟨hadded, hleads⟩ := ensureFolder_ok hd hlast
    exact ⟨hadded, fun _ => hleads⟩
  | case7 => exact ⟨.refl _ _, fun h => by simp at h⟩

/-- What creating a directory does, whether it succeeds or not, is a sequence of creations of its
ancestors or of itself. -/
theorem ensureFolders_related {R : Disk → Disk → Prop} (hrefl : ∀ d, R d d)
    (htrans : ∀ {d e f}, R d e → R e f → R d f)
    (hmake : ∀ {d e q}, d.LinkFree → q.anchor = p.anchor → q.parts <+: p.parts →
      d.makeFolder cwd q = .ok e → R d e)
    (hd : d.LinkFree) : R d (d.ensureFolders cwd p).2 := by
  have hensure : ∀ {d e q}, d.LinkFree → q.anchor = p.anchor → q.parts <+: p.parts →
      d.ensureFolder cwd q = .ok e → R d e := by
    intro d e q hd hanchor hparts h
    unfold ensureFolder at h
    split at h
    next hmade =>
      obtain rfl := Except.ok.inj h
      exact hmake hd hanchor hparts hmade
    next => simp at h
    next => simp at h
    next =>
      split at h
      next =>
        obtain rfl := Except.ok.inj h
        exact hrefl d
      next => simp at h
      next => simp at h
  -- the recursion goes up the missing ancestors, each of which is a beginning of `p`
  have haux : ∀ q, q.anchor = p.anchor → q.parts <+: p.parts → R d (d.ensureFolders cwd q).2 := by
    intro q
    fun_induction ensureFolders d cwd q with
    | case1 q e hmade => exact fun hanchor hparts => hmake hd hanchor hparts hmade
    | case2 => exact fun _ _ => hrefl d
    | case3 q _ _ _ e hrest ih =>
      intro hanchor hparts
      rw [hrest] at ih
      exact ih hanchor ((List.dropLast_prefix _).trans hparts)
    | case4 q _ _ d' hrest e hlast ih =>
      intro hanchor hparts
      rw [hrest] at ih
      have hd' : d'.LinkFree := by
        have hadded := (ensureFolders_spec hd cwd q.parent).1
        rw [hrest] at hadded
        exact hadded.linkFree hd
      exact htrans (ih hanchor ((List.dropLast_prefix _).trans hparts))
        (hensure hd' hanchor hparts hlast)
    | case5 q _ _ d' hrest e hlast ih =>
      intro hanchor hparts
      rw [hrest] at ih
      exact ih hanchor ((List.dropLast_prefix _).trans hparts)
    | case6 q _ _ _ e hlast => exact fun hanchor hparts => hensure hd hanchor hparts hlast
    | case7 => exact fun _ _ => hrefl d
  exact haux p rfl (List.prefix_refl _)

/-- Where a direct path leads to a directory, so does every beginning of it. -/
theorem LeadsToFolder.get?_of_above (h : LeadsToFolder d cwd p) (hp : p.Direct) {k : Location}
    (hk : k <+: p.location cwd) : d.get? k = some .folder := by
  obtain ⟨l, hleads, hnode⟩ := h.leads
  have hl : l = p.location cwd := hleads.place_eq
  have hexists : d.get? l ≠ none := hleads.exists_of_reached (by simp [hp.origin_eq])
  have hfolder : d.get? l = some .folder := by
    obtain ⟨n, hn⟩ := Option.ne_none_iff_exists'.1 hexists
    rw [hn]
    simpa [nodeAt, hn] using hnode
  rw [hl] at hfolder
  by_cases hne : k = p.location cwd
  · exact hne ▸ hfolder
  · exact Disk.get?_of_above hfolder hk hne

end Disk

end ContractBuild
