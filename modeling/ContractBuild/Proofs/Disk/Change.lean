import ContractBuild.Disk.Access
import ContractBuild.Proofs.Disk.Walk

/-!
# What an operation changes

`FilesChange ls d e` says what an operation leaves alone: from `d` to `e` nothing changed but files
at the locations `ls`. The relation composes and keeps every directory, so that walks that arrived
before still arrive (`Leads.mono`).

On a disk without links, writing and removing change nothing but what stands at the place of their
path, and `write_ok` and `unlink_ok` tell what stands there afterwards.
-/

namespace ContractBuild.Disk

variable {d e f : Disk} {cwd l k : Location} {p : Path}

/-- What stands above something is a directory. -/
theorem get?_of_above {n : Node} (h : d.get? k = some n) (hl : l <+: k) (hne : l ≠ k) :
    d.get? l = some .folder := by
  obtain ⟨below, rfl⟩ := hl
  induction below generalizing l with
  | nil => simp at hne
  | cons x below ih =>
    have hnext : ∃ m, d.get? (l ++ [x]) = some m := by
      cases below with
      | nil => exact ⟨n, h⟩
      | cons y below => exact ⟨.folder, ih (by simpa using h) (by simp)⟩
    obtain ⟨m, hm⟩ := hnext
    simpa using get?_dropLast hm

/-! ## Changes of files -/

/-- Nothing differs between two disks but files at some locations. -/
structure FilesChange (ls : List Location) (d e : Disk) : Prop where
  elsewhere : ∀ k, k ∉ ls → e.get? k = d.get? k
  folders : ∀ k, e.get? k = some .folder ↔ d.get? k = some .folder
  noLinks : ∀ k target, e.get? k = some (.link target) → d.get? k = some (.link target)

namespace FilesChange

variable {ls ms : List Location}

theorem refl (ls : List Location) (d : Disk) : FilesChange ls d d :=
  ⟨fun _ _ => rfl, fun _ => Iff.rfl, fun _ _ h => h⟩

theorem trans (h : FilesChange ls d e) (h' : FilesChange ls e f) : FilesChange ls d f where
  elsewhere k hk := (h'.elsewhere k hk).trans (h.elsewhere k hk)
  folders k := (h'.folders k).trans (h.folders k)
  noLinks k target hk := h.noLinks k target (h'.noLinks k target hk)

theorem mono (h : FilesChange ls d e) (hls : ls ⊆ ms) : FilesChange ms d e :=
  { h with elsewhere := fun k hk => h.elsewhere k fun hm => hk (hls hm) }

theorem foldersKept (h : FilesChange ls d e) : FoldersKept d e := fun k => (h.folders k).2

theorem linkFree (h : FilesChange ls d e) (hd : d.LinkFree) : e.LinkFree :=
  fun k target hk => hd k target (h.noLinks k target hk)

/-- A file in the place of a file, or where nothing was. -/
theorem of_put (h : d.Accepts l) (content : Bytes) :
    FilesChange [l] d (d.put l (.file content)) where
  elsewhere k hk := by rw [get?_put h, if_neg (by simpa using hk)]
  folders k := by
    rw [get?_put h]
    split
    next hk =>
      subst hk
      exact ⟨fun hf => by simp at hf, fun hf => absurd hf h.2.2.2⟩
    next => exact Iff.rfl
  noLinks k target hk := by
    rw [get?_put h] at hk
    split at hk
    next => simp at hk
    next => exact hk

/-- Where no directory stands, a removal takes away nothing else. -/
theorem of_remove (hl : d.get? l ≠ some .folder) : FilesChange [l] d (d.remove l) := by
  have hroot : l ≠ [] := fun h => hl (h ▸ get?_nil d)
  have hget : ∀ k, k ≠ l → (d.remove l).get? k = d.get? k := by
    intro k hk
    rw [get?_remove hroot]
    split
    next hpre =>
      cases hn : d.get? k with
      | none => rfl
      | some n => exact absurd (get?_of_above hn hpre (Ne.symm hk)) hl
    next => rfl
  have hself : (d.remove l).get? l = none := by
    rw [get?_remove hroot, if_pos (List.prefix_refl l)]
  constructor
  · intro k hk
    exact hget k (by simpa using hk)
  · intro k
    by_cases hk : k = l
    · subst hk
      rw [hself]
      exact ⟨fun h => by simp at h, fun h => absurd h hl⟩
    · rw [hget k hk]
  · intro k target h
    by_cases hk : k = l
    · rw [hk, hself] at h
      simp at h
    · rwa [hget k hk] at h

end FilesChange

/-! ## Operations on files -/

theorem nodeAt_eq {n : Node} (hn : n ≠ .folder) : d.nodeAt l = n ↔ d.get? l = some n := by
  unfold nodeAt
  cases h : d.get? l with
  | none => simpa using Ne.symm hn
  | some m => simp

/-- Every name on the way to something on the disk is valid. -/
theorem isName_of_get? {n : Node} (h : d.get? l = some n) : ∀ s ∈ l, IsName s := by
  by_cases hl : l = []
  · simp [hl]
  · exact (d.named _ ((get?_eq_some_iff hl).1 h)).2

/-- In a directory a node can be put under every valid name that no directory has. -/
theorem accepts_concat {name : String} (hl : d.get? l = some .folder) (hname : IsName name)
    (hn : d.get? (l ++ [name]) ≠ some .folder) : d.Accepts (l ++ [name]) := by
  refine ⟨by simp, fun s hs => ?_, by simpa using hl, hn⟩
  rcases List.mem_append.1 hs with hs | hs
  · exact isName_of_get? hl s hs
  · exact List.mem_singleton.1 hs ▸ hname

/-- Where a walk finds only the last name missing, a node can be put. -/
theorem accepts_of_missing {parent : Location} {name : String} (hp : p.Openable)
    (h : Leads d (p.origin cwd) p.parts (.missing parent name)) :
    d.Accepts (parent ++ [name]) := by
  obtain ⟨hparent, hnone, hstep, hmem⟩ := h.of_missing
  have hnul : '\x00' ∉ name.toList := by
    have := hp.noNul
    simp only [Route.hasNul, Route.ofPath, List.any_eq_false, List.contains_iff_mem] at this
    exact this name hmem
  exact accepts_concat hparent ⟨p.isPart _ hmem, hstep.1, hnul⟩ (by simp [hnone])

/-- A file that stands where something else than a directory stood can be put. -/
theorem accepts_of_node {n : Node} (h : d.get? l = some n) (hn : n ≠ .folder) : d.Accepts l := by
  refine ⟨fun hl => hn ?_, isName_of_get? h, get?_dropLast h, by simpa [h] using hn⟩
  subst hl
  simpa using h.symm

/-- What a successful writing did: the place of the path holds the content, unless a device stands
there, and nothing else changed. -/
structure Written (d : Disk) (cwd : Location) (p : Path) (content : Bytes) (e : Disk) : Prop where
  openable : p.Openable
  leads : ∃ a, Leads d (p.origin cwd) p.parts a
  change : FilesChange [p.location cwd] d e
  held : e.get? (p.location cwd) = some (.file content)
    ∨ ∃ v, d.get? (p.location cwd) = some (.device v) ∧ e = d

/-- What was written can be removed again. -/
theorem Written.exists_node {content : Bytes} (h : Written d cwd p content e) :
    ∃ n, e.get? (p.location cwd) = some n ∧ n ≠ .folder := by
  rcases h.held with hheld | ⟨v, hv, rfl⟩
  · exact ⟨_, hheld, by simp⟩
  · exact ⟨_, hv, by simp⟩

theorem write_ok (hd : d.LinkFree) {content : Bytes} (h : d.write cwd p content = .ok e) :
    Written d cwd p content e := by
  unfold write at h
  split at h
  next => simp at h
  next parent name hwalk =>
    -- a new file
    obtain ⟨hp, hleads⟩ := (walk_eq_ok_iff hd).1 hwalk
    have hplace : parent ++ [name] = p.location cwd := hleads.place_eq
    have haccepts := accepts_of_missing hp hleads
    obtain rfl := Except.ok.inj h
    rw [hplace] at haccepts ⊢
    exact ⟨hp, ⟨_, hleads⟩, .of_put haccepts _, .inl (by rw [get?_put haccepts, if_pos rfl])⟩
  next l hwalk =>
    obtain ⟨hp, hleads⟩ := (walk_eq_ok_iff hd).1 hwalk
    obtain rfl : l = p.location cwd := hleads.place_eq
    have hdevice : ∀ {v}, d.nodeAt (p.location cwd) = .device v →
        Written d cwd p content d := fun {v} hv =>
      ⟨hp, ⟨_, hleads⟩, .refl _ _, .inr ⟨v, (nodeAt_eq (by simp)).1 hv, rfl⟩⟩
    split at h
    next hnode =>
      -- a file that is replaced
      have haccepts := accepts_of_node ((nodeAt_eq (by simp)).1 hnode) (by simp)
      obtain rfl := Except.ok.inj h
      exact ⟨hp, ⟨_, hleads⟩, .of_put haccepts _, .inl (by rw [get?_put haccepts, if_pos rfl])⟩
    next hnode => exact Except.ok.inj h ▸ hdevice hnode
    next hnode =>
      -- a full device takes what is empty
      split at h
      next => exact Except.ok.inj h ▸ hdevice hnode
      next => simp at h
    next => simp at h
    next => simp at h

/-- The ways in which the filling of a file ends: it was refused before the file was open, it is
complete, or it was broken off. -/
inductive Fills (d : Disk) (cwd : Location) (p : Path) (content : Bytes) (cut? : Option Cutoff) :
    Except Fault Unit → Disk → Prop
  | refused {fault : Fault} (hwrite : d.write cwd p (reaching content cut?) = .error fault) :
    Fills d cwd p content cut? (.error fault) d
  | complete {written : Disk} (hcut : cut? = none) (hwrite : d.write cwd p content = .ok written) :
    Fills d cwd p content cut? (.ok ()) written
  | broken {written : Disk} {cut : Cutoff} (hcut : cut? = some cut)
    (hwrite : d.write cwd p (content.take cut.kept) = .ok written) :
    Fills d cwd p content cut? (.error (.errno cut.reason)) written

theorem fill_iff {content : Bytes} {cut? : Option Cutoff} {x : Except Fault Unit} :
    d.fill cwd p content cut? = (x, e) ↔ Fills d cwd p content cut? x e := by
  constructor
  · intro h
    unfold fill at h
    split at h
    next hwrite =>
      obtain ⟨rfl, rfl⟩ := Prod.mk.inj h
      exact .refused hwrite
    next hwrite =>
      obtain ⟨rfl, rfl⟩ := Prod.mk.inj h
      exact .complete rfl hwrite
    next hwrite =>
      obtain ⟨rfl, rfl⟩ := Prod.mk.inj h
      exact .broken rfl hwrite
  · intro h
    cases h with
    | refused hwrite => simp [fill, hwrite]
    | complete hcut hwrite => simp [fill, hcut, reaching, hwrite]
    | broken hcut hwrite => simp [fill, hcut, reaching, hwrite]

/-- A removal takes away what stands at the place of the path and nothing else. -/
theorem unlink_ok (hd : d.LinkFree) (h : d.unlink cwd p = .ok e) :
    FilesChange [p.location cwd] d e ∧ e.get? (p.location cwd) = none := by
  unfold unlink at h
  split at h
  next => simp at h
  next => simp at h
  next l hwalk =>
    obtain rfl : l = p.location cwd := walk_place hd hwalk
    split at h
    next => simp at h
    next hnode =>
      have hfolder : d.get? (p.location cwd) ≠ some .folder :=
        fun hf => hnode (by simp [nodeAt, hf])
      have hroot : p.location cwd ≠ [] := fun hl => hfolder (hl ▸ get?_nil d)
      obtain rfl := Except.ok.inj h
      exact ⟨.of_remove hfolder, by rw [get?_remove hroot, if_pos (List.prefix_refl _)]⟩

/-- Whatever is not a directory is removed under a path that leads to it. -/
theorem unlink_of_leads (hd : d.LinkFree) (hp : p.Openable)
    (h : ∃ a, Leads d (p.origin cwd) p.parts a) {n : Node}
    (hn : d.get? (p.location cwd) = some n) (hfolder : n ≠ .folder) :
    d.unlink cwd p = .ok (d.remove (p.location cwd)) := by
  obtain ⟨a, ha⟩ := h
  have hplace : a.place = p.location cwd := ha.place_eq
  have hreached := ha.reached_of_exists (by simp [hplace, hn])
  rw [hplace] at hreached
  rw [unlink, (walk_eq_ok_iff hd).2 ⟨hp, hreached⟩]
  exact if_neg (by simpa [nodeAt, hn] using hfolder)

/-! ## What a path holds -/

/-- A path leads to the place that it names, and a file with the content stands there. -/
structure Holds (d : Disk) (cwd : Location) (p : Path) (content : Bytes) : Prop where
  located : d.locate cwd (.ofPath p) = .ok (p.location cwd)
  held : d.get? (p.location cwd) = some (.file content)

theorem Holds.content? {content : Bytes} (h : d.Holds cwd p content) :
    d.content? cwd p = some content := by
  simp only [Disk.content?, status, h.located, Except.map]
  rw [(nodeAt_eq (by simp)).2 h.held]

/-- A path that leads somewhere is located where a file stands. -/
theorem Holds.of_leads (hd : d.LinkFree) (hp : p.Openable)
    (h : ∃ a, Leads d (p.origin cwd) p.parts a) {content : Bytes}
    (hheld : d.get? (p.location cwd) = some (.file content)) : d.Holds cwd p content := by
  obtain ⟨a, ha⟩ := h
  have hplace : a.place = p.location cwd := ha.place_eq
  have hreached := ha.reached_of_exists (by simp [hplace, hheld])
  rw [hplace] at hreached
  exact ⟨located_iff.2 ((walk_eq_ok_iff hd).2 ⟨hp, hreached⟩), hheld⟩

/-- After a writing the path holds the content, unless a device stands there. -/
theorem Written.holds {content : Bytes} (h : Written d cwd p content e) (hd : d.LinkFree)
    (hdevice : ∀ v, d.get? (p.location cwd) ≠ some (.device v)) : e.Holds cwd p content := by
  obtain ⟨a, ha⟩ := h.leads
  rcases h.held with hheld | ⟨v, hv, -⟩
  · exact .of_leads (h.change.linkFree hd) h.openable (ha.mono h.change.foldersKept) hheld
  · exact absurd hv (hdevice v)

/-- A path that holds something leads to its place. -/
theorem Holds.leads {content : Bytes} (h : d.Holds cwd p content) (hd : d.LinkFree) :
    p.Openable ∧ ∃ a, Leads d (p.origin cwd) p.parts a := by
  obtain ⟨hp, hleads⟩ := (walk_eq_ok_iff hd).1 (located_iff.1 h.located)
  exact ⟨hp, _, hleads⟩

theorem Holds.openable {content : Bytes} (h : d.Holds cwd p content) (hd : d.LinkFree) :
    p.Openable := (h.leads hd).1

/-- What a path holds outlasts changes of files elsewhere. -/
theorem Holds.of_filesChange {content : Bytes} {ls : List Location} (h : d.Holds cwd p content)
    (hd : d.LinkFree) (hchange : FilesChange ls d e) (hplace : p.location cwd ∉ ls) :
    e.Holds cwd p content := by
  obtain ⟨hp, a, ha⟩ := h.leads hd
  exact .of_leads (hchange.linkFree hd) hp (ha.mono hchange.foldersKept)
    ((hchange.elsewhere _ hplace).trans h.held)

/-- The content of the regular file at a location, if there is one. -/
def file? (d : Disk) (l : Location) : Option Bytes :=
  match d.get? l with
  | some (.file content) => some content
  | _ => none

theorem file?_eq_some_iff {content : Bytes} :
    d.file? l = some content ↔ d.get? l = some (.file content) := by
  unfold file?
  split
  next h => simp [h]
  next h => exact ⟨fun hnone => by simp at hnone, fun hfile => absurd hfile (h content)⟩

theorem file?_eq_of_get?_eq (h : e.get? l = d.get? l) : e.file? l = d.file? l := by
  unfold file?
  rw [h]

theorem file?_eq_none_of_get?_eq_none (h : d.get? l = none) : d.file? l = none := by
  unfold file?
  rw [h]

theorem FilesChange.file?_eq {ls : List Location} (h : FilesChange ls d e) (hl : l ∉ ls) :
    e.file? l = d.file? l := file?_eq_of_get?_eq (h.elsewhere l hl)

end ContractBuild.Disk
