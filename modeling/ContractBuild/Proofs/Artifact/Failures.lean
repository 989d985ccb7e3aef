import ContractBuild.Proofs.Artifact.Writing
import ContractBuild.Proofs.Disk.Failures

/-!
# Why writing artifacts fails

Where the producers do their part (`Compiled.Behaves`), writing artifacts ends in a layout or a
refusal, except in three ways (`write_fails_iff`): the null character occurs in the output folder
or in the name of the contract, the name cannot be encoded, or a file was opened that does not
take its content (`Untaken`). These failures are the ones that nobody turns into a refusal.

Whatever the operating system refuses is turned into one, also in the middle of a writing. That is
why the places where the host breaks writings off occur here only as places where they do not.

The first part settles when a path has the null character in it: reading a text splits it at
slashes and drops parts, and neither makes or loses that character. So it is in the path of an
artifact exactly if it is in the folder or in the name (`Layout.hasNul_path_iff`), which no
artifact can change.
-/

namespace ContractBuild

/-! ## The null character -/

/-- A piece of a text has no characters of its own. -/
theorem mem_of_mem_splitOn {sep c : Char} {s piece : List Char} (h : piece ∈ s.splitOn sep)
    (hc : c ∈ piece) : c ∈ s := by
  induction s generalizing piece with
  | nil =>
    obtain rfl : piece = [] := by simpa using h
    exact hc
  | cons b s ih =>
    rw [List.splitOn_cons_eq_if_modifyHead] at h
    split at h
    next =>
      rcases List.mem_cons.1 h with rfl | h
      · simp at hc
      · exact List.mem_cons_of_mem _ (ih h hc)
    next =>
      obtain ⟨first, pieces, hs⟩ := List.exists_cons_of_ne_nil (List.splitOn_ne_nil sep s)
      rw [hs, List.modifyHead_cons] at h
      rcases List.mem_cons.1 h with rfl | h
      · rcases List.mem_cons.1 hc with rfl | hc
        · exact List.mem_cons_self ..
        · exact List.mem_cons_of_mem _ (ih (by simp [hs]) hc)
      · exact List.mem_cons_of_mem _ (ih (by simp [hs, h]) hc)

theorem Path.hasNul_ofText_iff {s : String} : (ofText s).hasNul = true ↔ '\x00' ∈ s.toList := by
  constructor
  · intro h
    obtain ⟨part, hpart, hnul⟩ := List.any_eq_true.1 h
    obtain ⟨piece, hpiece, rfl⟩ := List.mem_map.1 (List.mem_filter.1 hpart).1
    exact mem_of_mem_splitOn hpiece (by simpa using hnul)
  · intro h
    obtain ⟨part, hpart, hnul⟩ := hasNul_ofText h
    exact List.any_eq_true.2 ⟨part, hpart, by simpa using hnul⟩

theorem Path.hasNul_join_iff {p q : Path} (h : p.hasNul = false) :
    (p.join q).hasNul = true ↔ q.hasNul = true := by
  unfold join
  split
  next => rfl
  next =>
    rw [hasNul] at h
    rw [hasNul, List.any_append, h, Bool.false_or, hasNul]

/-- In a folder without the null character, the file of an artifact has one exactly if the name of
the contract does. -/
theorem Layout.hasNul_path_iff {l : Layout} {a : Artifact} (h : l.folder.hasNul = false) :
    (l.path a).hasNul = true ↔ '\x00' ∈ l.contractName.toList := by
  have hsuffix : '\x00' ∉ a.suffix.toList := by cases a <;> decide
  rw [path, Path.joinText, Path.hasNul_join_iff h, Path.hasNul_ofText_iff, String.toList_append,
    List.mem_append, or_iff_left hsuffix]

namespace Artifact

variable {host : Host} {r : Compiled} {l : Layout} {a : Artifact} {s s' : Run} {f : Failure}
variable {d e : Disk} {cwd : Location} {p : Path} {c : Content} {options : Options}
variable {fallback : Path} {cut? : Option Disk.Cutoff}

/-- Bytes get into the file under a path, and the content is not taken all the same. -/
def Untaken (d : Disk) (cwd : Location) (p : Path) (c : Content) (cut? : Option Disk.Cutoff)
    (f : Failure) : Prop :=
  (d.fill cwd p c.bytes cut?).1 = .ok () ∧ fillFault? d cwd p c = some f

/-- Storing fails with something else than what the operating system says. -/
theorem store_fails_iff (d : Disk) (cwd : Location) (c : Content) (cut? : Option Disk.Cutoff)
    (hf : ∀ n, f ≠ .system n) :
    (∃ e, store d cwd p c cut? = (.error f, e)) ↔
      f = .nulInPath ∧ p.hasNul = true ∨ Untaken d cwd p c cut? f := by
  constructor
  · rintro ⟨e, h⟩
    cases store_iff.1 h with
    | unfilled hfill hfault => exact .inr ⟨congrArg Prod.fst (Disk.fill_iff.2 hfill), hfault⟩
    | nul hfill =>
      cases hfill with
      | refused hwrite => exact .inl ⟨rfl, (Disk.write_eq_nul_iff d cwd _).1 hwrite⟩
    | refused => exact absurd rfl (hf _)
  · rintro (⟨rfl, hnul⟩ | ⟨hfill, hfault⟩)
    · have hwrite := (Disk.write_eq_nul_iff d cwd (Disk.reaching c.bytes cut?)).2 hnul
      exact ⟨_, store_iff.2 (.nul (.refused hwrite))⟩
    · exact ⟨_, store_iff.2 (.unfilled (Disk.fill_iff.1 (Prod.ext hfill rfl)) hfault)⟩

end Artifact

/-- An answer of an engine that does its part: the name of the contract is a text or missing, and
every artifact has a content. -/
structure Compiled.Behaves (r : Compiled) : Prop where
  named : ∃ given, r.contractName = .ofOption given
  produces : ∀ a, ∃ d, r.produce a = .ok d ∧ ∀ l, ∃ c, Artifact.content l a d = .ok c

theorem Compiled.Behaves.exists_content {r : Compiled} (h : r.Behaves) (l : Layout) (a : Artifact) :
    ∃ d c, r.produce a = .ok d ∧ Artifact.content l a d = .ok c := by
  obtain ⟨d, hd, hcontent⟩ := h.produces a
  obtain ⟨c, hc⟩ := hcontent l
  exact ⟨d, c, hd, hc⟩

namespace Artifact

variable {host : Host} {r : Compiled} {l : Layout} {a : Artifact} {s s' : Run} {f : Failure}
variable {options : Options} {fallback : Path} {name : Text.Raw}

/-- Writing one artifact fails exactly if storing it does, in the same way. -/
theorem writeOne_fails_iff (hr : r.Behaves) (hf : ∀ x, f ≠ .refused x) :
    (∃ s', (writeOne host r l a).runFrom s = (.error f, s')) ↔
      f = .nulInPath ∧ (l.path a).hasNul = true
        ∨ ∃ d c, r.produce a = .ok d ∧ content l a d = .ok c
          ∧ Untaken s.disk host.cwd (l.path a) c (host.cutoff? (l.path a) c.bytes) f := by
  constructor
  · rintro ⟨s', h⟩
    obtain ⟨d, c, hd, hc⟩ := hr.exists_content l a
    rw [runFrom_writeOne] at h
    simp only [hd, hc] at h
    split at h
    next => simp at h
    next => exact absurd (Except.error.inj (congrArg Prod.fst h)).symm (hf _)
    next g e hnot hstore =>
      obtain rfl : g = f := Except.error.inj (congrArg Prod.fst h)
      exact ((store_fails_iff _ _ _ _ hnot).1 ⟨e, hstore⟩).imp_right fun h => ⟨d, c, hd, hc, h⟩
  · rintro (⟨rfl, hnul⟩ | ⟨d, c, hd, hc, huntaken⟩)
    · obtain ⟨d, c, hd, hc⟩ := hr.exists_content l a
      obtain ⟨e, hstore⟩ := (store_fails_iff s.disk host.cwd c
        (host.cutoff? (l.path a) c.bytes) (by simp)).2 (.inl ⟨rfl, hnul⟩)
      rw [runFrom_writeOne]
      simp only [hd, hc, hstore]
      exact ⟨_, rfl⟩
    · obtain ⟨x, rfl⟩ := exists_of_fillFault? huntaken.2
      obtain ⟨e, hstore⟩ := (store_fails_iff _ _ _ _ (by simp)).2 (.inr huntaken)
      rw [runFrom_writeOne]
      simp only [hd, hc, hstore]
      exact ⟨_, rfl⟩

/-- The file of an artifact is opened and does not take its content: everything before it in the
plan was written, and its content was produced. -/
def FillFails (host : Host) (r : Compiled) (options : Options) (s : Run) (l : Layout)
    (a : Artifact) (f : Failure) : Prop :=
  ∃ s₁ done rest ps s₂ d c,
    (prepareFolder host l.folder).runFrom s = (.ok (), s₁)
      ∧ plan options = done ++ a :: rest
      ∧ (writeAll host r l done).runFrom s₁ = (.ok ps, s₂)
      ∧ r.produce a = .ok d ∧ content l a d = .ok c
      ∧ Untaken s₂.disk host.cwd (l.path a) c (host.cutoff? (l.path a) c.bytes) f

theorem FillFails.exists_foreign (h : FillFails host r options s l a f) :
    ∃ x, f = .foreign x := by
  obtain ⟨_, _, _, _, _, _, _, _, _, _, _, _, -, hfault⟩ := h
  exact exists_of_fillFault? hfault

/-- The layout of artifacts under a name. -/
theorem ofName_str (folder : Path) {name : String} (h : name ≠ "") :
    Layout.ofName folder (.str name) = .valid { folder, contractName := name, named := h } := by
  have hcheck : Layout.checkName (.str name) = .valid ⟨name, h⟩ := dif_pos h
  rw [Layout.ofName, hcheck]
  rfl

/-- What is wrong with a name that cannot be encoded. -/
def looseName : Validation.Issue := ⟨[.field "contract_name"], .textEncoding⟩

theorem ofName_loose (folder : Path) (t : Text.Loose) :
    Layout.ofName folder (.loose t) = .invalid [looseName] := rfl

theorem fileName?_ofRaw (h : name ≠ .sound "") (r : Compiled) (options : Options) :
    fileName? (.ofRaw name) r options = some (.ofRaw name) := by
  have hyes : (Value.ofRaw name).isYes = true := by
    cases name with
    | sound name => simpa [Value.ofRaw, Value.isYes, Document.isYes] using h
    | loose t => rfl
  rw [fileName?, List.find?_cons_of_pos hyes]

/-- Creating the folder fails for the null character only. -/
theorem prepareFolder_fails_iff (host : Host) (s : Run) {folder : Path} (hf : ∀ x, f ≠ .refused x) :
    (∃ s', (prepareFolder host folder).runFrom s = (.error f, s')) ↔
      f = .nulInPath ∧ folder.hasNul = true := by
  rw [← Disk.ensureFolders_eq_nul_iff s.disk host.cwd, runFrom_prepareFolder]
  rcases s.disk.ensureFolders host.cwd folder with ⟨fault | ⟨⟩, e⟩
  · cases fault with
    | nul => simp [eq_comm]
    | errno n =>
      have hne := fun x => (hf x).symm
      simp [hne]
  · simp

theorem prepareFolder_eq_ok_iff {folder : Path} :
    (prepareFolder host folder).runFrom s = (.ok (), s') ↔
      ∃ e, s.disk.ensureFolders host.cwd folder = (.ok (), e) ∧ s' = { s with disk := e } := by
  rw [runFrom_prepareFolder]
  rcases s.disk.ensureFolders host.cwd folder with ⟨fault | ⟨⟩, e⟩
  · cases fault <;> simp
  · simp [eq_comm]

theorem hasNul_of_made {folder : Path} {e : Disk}
    (h : s.disk.ensureFolders host.cwd folder = (.ok (), e)) : folder.hasNul = false := by
  have hnul := Disk.ensureFolders_eq_nul_iff s.disk host.cwd folder
  rw [h] at hnul
  simpa using hnul

/-- Where the producers do their part, writing fails for the null character, for a name that cannot
be encoded, or for a file that does not take its content. -/
theorem write_fails_iff (hr : r.Behaves) (hsuccess : r.success = true) (hname : name ≠ .sound "")
    (hf : ∀ x, f ≠ .refused x) :
    (∃ s', (write host r options fallback (.ofRaw name)).runFrom s = (.error f, s')) ↔
      f = .nulInPath ∧ (options.outputFolder fallback).hasNul = true
        ∨ (∃ e, s.disk.ensureFolders host.cwd (options.outputFolder fallback) = (.ok (), e))
          ∧ (f = .nulInPath ∧ (∃ given, name = .sound given ∧ '\x00' ∈ given.toList)
            ∨ f = .invalid [looseName] ∧ ∃ t, name = .loose t)
        ∨ ∃ l a, Layout.ofName (options.outputFolder fallback) (.ofRaw name) = .valid l
          ∧ FillFails host r options s l a f := by
  have hchosen := fileName?_ofRaw hname r options
  constructor
  · rintro ⟨s', h⟩
    cases write_iff.1 h with
    | unsuccessful hfailed => simp [hsuccess] at hfailed
    | nameless _ hnone => simp [hchosen] at hnone
    | noFolder _ _ hfolder => exact .inl ((prepareFolder_fails_iff host s hf).1 ⟨_, hfolder⟩)
    | misnamed _ hname' hfolder hl =>
      obtain rfl := Option.some.inj (hchosen.symm.trans hname')
      obtain ⟨e, hmade, -⟩ := prepareFolder_eq_ok_iff.1 hfolder
      cases name with
      | sound given =>
        have hgiven : given ≠ "" := fun h => hname (congrArg _ h)
        simp [Value.ofRaw, ofName_str _ hgiven] at hl
      | loose t =>
        obtain rfl := Validation.Checked.invalid.inj hl
        exact .inr (.inl ⟨⟨e, hmade⟩, .inr ⟨rfl, t, rfl⟩⟩)
    | @stopped chosen l _ s₁ _ _ hname' hfolder hl hall =>
      obtain rfl := Option.some.inj (hchosen.symm.trans hname')
      cases name with
      | loose t => simp [Value.ofRaw, ofName_loose] at hl
      | sound given =>
        have hlayout := ofName_str (options.outputFolder fallback) fun h => hname (congrArg _ h)
        obtain rfl := Validation.Checked.valid.inj (hlayout.symm.trans hl)
        obtain ⟨done, a, rest, ps, s₂, hplan, hdone, hone⟩ := writeAll_eq_error_iff.1 hall
        rcases (writeOne_fails_iff hr hf).1 ⟨_, hone⟩ with ⟨rfl, hnul⟩ | ⟨d, c, hd, hc, huntaken⟩
        · obtain ⟨e, hmade, -⟩ := prepareFolder_eq_ok_iff.1 hfolder
          have hchar := (Layout.hasNul_path_iff (hasNul_of_made hmade)).1 hnul
          exact .inr (.inl ⟨⟨e, hmade⟩, .inl ⟨rfl, given, rfl, hchar⟩⟩)
        · exact .inr (.inr ⟨_, a, hlayout,
            ⟨s₁, done, rest, ps, s₂, d, c, hfolder, hplan, hdone, hd, hc, huntaken⟩⟩)
  · rintro (hnul | ⟨⟨e, hmade⟩, ⟨rfl, given, rfl, hnul⟩ | ⟨rfl, t, rfl⟩⟩ | ⟨l, a, hl, hfails⟩)
    · obtain ⟨s', hfolder⟩ := (prepareFolder_fails_iff host s hf).2 hnul
      exact ⟨s', write_iff.2 (.noFolder hsuccess hchosen hfolder)⟩
    · -- the first file is already one that cannot be opened
      have hgiven : given ≠ "" := fun h => hname (congrArg _ h)
      have hfolder := prepareFolder_eq_ok_iff.2 ⟨e, hmade, rfl⟩
      have hpath := (Layout.hasNul_path_iff (l := ⟨_, given, hgiven, []⟩) (a := executable)
        (hasNul_of_made hmade)).2 hnul
      obtain ⟨s', hone⟩ := (writeOne_fails_iff (s := { s with disk := e }) hr hf).2
        (.inl ⟨rfl, hpath⟩)
      have hall := writeAll_eq_error_iff.2
        ⟨[], executable, (plan options).tail, [], _, rfl, rfl, hone⟩
      exact ⟨s', write_iff.2 (.stopped hsuccess hchosen hfolder (ofName_str _ hgiven) hall)⟩
    · have hfolder := prepareFolder_eq_ok_iff.2 ⟨e, hmade, rfl⟩
      exact ⟨_, write_iff.2 (.misnamed hsuccess hchosen hfolder (ofName_loose _ t))⟩
    · obtain ⟨s₁, done, rest, ps, s₂, d, c, hfolder, hplan, hdone, hrest⟩ := hfails
      obtain ⟨s', hone⟩ := (writeOne_fails_iff hr hf).2 (.inr ⟨d, c, hrest⟩)
      have hall := writeAll_eq_error_iff.2 ⟨done, a, rest, ps, s₂, hplan, hdone, hone⟩
      rw [(ofName_eq_valid hl).1] at hfolder
      exact ⟨s', write_iff.2 (.stopped hsuccess hchosen hfolder hl hall)⟩

end Artifact

end ContractBuild
