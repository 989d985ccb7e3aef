import ContractBuild.Layout
import ContractBuild.Proofs.Disk.Walk

/-!
# Where artifacts go

The name of a contract may hold slashes. What stands before the last of them leads from the output
folder to another directory, `Layout.directory`; what stands behind it, `Layout.stem`, begins the
name of every file. So all artifacts of a layout share one directory, and each has a place of its
own there (`location_path`, `location_path_inj`).

A name without a slash keeps the artifacts in the output folder (`directory_of_plain`).
-/

namespace ContractBuild

/-! ## Cutting a text at its slashes -/

/-- What follows the last separator joins the last piece. -/
theorem splitOn_append_of_notMem {sep : Char} {x : List Char} (h : sep ∉ x) (s : List Char) :
    (s ++ x).splitOn sep
      = (s.splitOn sep).dropLast ++ [(s.splitOn sep).getLast (List.splitOn_ne_nil sep s) ++ x] := by
  induction s with
  | nil => simp [List.splitOn_eq_singleton h]
  | cons c s ih =>
    -- a separator starts a piece, any other character joins the first one
    simp only [List.cons_append, List.splitOn_cons_eq_if_modifyHead, ih]
    obtain ⟨piece, pieces, hs⟩ := List.exists_cons_of_ne_nil (List.splitOn_ne_nil sep s)
    simp only [hs]
    by_cases hc : (c == sep) = true
    · simp [hc]
    · cases pieces <;> simp [hc]

/-- No piece holds the separator. -/
theorem sep_notMem_of_mem_splitOn {sep : Char} {s piece : List Char}
    (h : piece ∈ s.splitOn sep) : sep ∉ piece := by
  induction s generalizing piece with
  | nil =>
    obtain rfl : piece = [] := by simpa using h
    simp
  | cons c s ih =>
    rw [List.splitOn_cons_eq_if_modifyHead] at h
    split at h
    next =>
      rcases List.mem_cons.1 h with rfl | h
      · simp
      · exact ih h
    next hc =>
      obtain ⟨first, pieces, hs⟩ := List.exists_cons_of_ne_nil (List.splitOn_ne_nil sep s)
      rw [hs, List.modifyHead_cons] at h
      rcases List.mem_cons.1 h with rfl | h
      · have hfirst : sep ∉ first := ih (by simp [hs])
        have hne : sep ≠ c := fun he => hc (by simp [he])
        simp [hne, hfirst]
      · exact ih (by simp [hs, h])

/-- Every other character is in one of the pieces. -/
theorem exists_piece_of_mem {sep c : Char} {s : List Char} (h : c ∈ s) (hne : c ≠ sep) :
    ∃ piece ∈ s.splitOn sep, c ∈ piece := by
  induction s with
  | nil => simp at h
  | cons b s ih =>
    rw [List.splitOn_cons_eq_if_modifyHead]
    obtain ⟨first, pieces, hs⟩ := List.exists_cons_of_ne_nil (List.splitOn_ne_nil sep s)
    rcases List.mem_cons.1 h with rfl | h
    · rw [if_neg (by simpa using hne), hs]
      exact ⟨c :: first, List.mem_cons_self .., List.mem_cons_self ..⟩
    · obtain ⟨piece, hpiece, hc⟩ := ih h
      split
      next => exact ⟨piece, List.mem_cons_of_mem _ hpiece, hc⟩
      next =>
        rw [hs] at hpiece ⊢
        rw [List.modifyHead_cons]
        rcases List.mem_cons.1 hpiece with rfl | hpiece
        · exact ⟨b :: piece, List.mem_cons_self .., List.mem_cons_of_mem _ hc⟩
        · exact ⟨piece, List.mem_cons_of_mem _ hpiece, hc⟩

namespace Path

/-- The null character of a text is in a part of its path. -/
theorem hasNul_ofText {s : String} (h : '\x00' ∈ s.toList) :
    ∃ part ∈ (ofText s).parts, '\x00' ∈ part.toList := by
  obtain ⟨piece, hpiece, hnul⟩ := exists_piece_of_mem h (by decide : '\x00' ≠ '/')
  have hne : ∀ t : String, '\x00' ∉ t.toList → String.ofList piece ≠ t := by
    rintro t ht rfl
    exact ht (by simpa using hnul)
  have hpart : IsPart (String.ofList piece) := by
    refine ⟨hne _ (by decide), hne _ (by decide), ?_⟩
    rw [String.toList_ofList]
    exact sep_notMem_of_mem_splitOn hpiece
  refine ⟨String.ofList piece, List.mem_filter.2 ⟨?_, by simpa using hpart⟩, by simpa using hnul⟩
  exact List.mem_map_of_mem hpiece

theorem components_ne_nil (s : String) : components s ≠ [] := by
  simp [components, List.splitOn_ne_nil]

/-- The component behind the last slash of a text. -/
def lastComponent (s : String) : String := (components s).getLast (components_ne_nil s)

theorem slash_notMem_lastComponent (s : String) : '/' ∉ (lastComponent s).toList := by
  have h : lastComponent s ∈ components s := List.getLast_mem _
  obtain ⟨piece, hpiece, he⟩ := List.mem_map.1 h
  rw [← he, String.toList_ofList]
  exact sep_notMem_of_mem_splitOn hpiece

theorem components_append {x : String} (h : '/' ∉ x.toList) (s : String) :
    components (s ++ x) = (components s).dropLast ++ [lastComponent s ++ x] := by
  have hlast : lastComponent s ++ x = String.ofList
      ((s.toList.splitOn '/').getLast (List.splitOn_ne_nil _ _) ++ x.toList) := by
    apply String.toList_injective
    simp [lastComponent, components, List.getLast_map]
  rw [hlast]
  simp only [components, String.toList_append, splitOn_append_of_notMem h, List.map_append,
    List.map_dropLast, List.map_cons, List.map_nil]

theorem anchorOf_append {x : String} (hx : x ≠ "") (h : '/' ∉ x.toList) (s : String) :
    anchorOf (s ++ x) = anchorOf s := by
  obtain ⟨c, cs, hcs⟩ := List.exists_cons_of_ne_nil
    (fun hnil => hx (String.toList_injective (by simpa using hnil)) : x.toList ≠ [])
  have hc : c ≠ '/' := fun he => h (by simp [hcs, he])
  unfold anchorOf
  rw [String.toList_append, hcs]
  -- the first three characters decide
  rcases s.toList with _ | ⟨a, _ | ⟨b, _ | ⟨d, t⟩⟩⟩
  · simp [hc]
  · by_cases ha : a = '/' <;> simp [ha, hc]
  · by_cases ha : a = '/' <;> by_cases hb : b = '/' <;> simp [ha, hb, hc]
  · by_cases ha : a = '/' <;> by_cases hb : b = '/' <;> by_cases hd : d = '/' <;>
      simp [ha, hb, hd]

/-- One more component is one more part. -/
theorem parts_join_concat {c : String} (hc : IsPart c) (p : Path) (a : Anchor) (cs : List String) :
    (p.join (ofComponents a (cs ++ [c]))).parts = (p.join (ofComponents a cs)).parts ++ [c] := by
  unfold join isAbsolute ofComponents
  split <;> simp [hc]

theorem anchor_join_ofComponents (p : Path) (a : Anchor) (cs ds : List String) :
    (p.join (ofComponents a cs)).anchor = (p.join (ofComponents a ds)).anchor := by
  unfold join isAbsolute ofComponents
  split <;> rfl

/-- The place of a path is in the directory in which its last part stands. -/
theorem location_concat {p q : Path} {c : String} (hanchor : p.anchor = q.anchor)
    (hparts : p.parts = q.parts ++ [c]) (hc : c ≠ "..") (cwd : Location) :
    p.location cwd = q.location cwd ++ [c] := by
  have horigin : p.origin cwd = q.origin cwd := by
    unfold origin isAbsolute
    rw [hanchor]
  rw [location, hparts, List.foldl_append, horigin, ← location]
  exact Location.step_of_ne hc _

end Path

namespace Artifact

theorem slash_notMem_suffix (a : Artifact) : '/' ∉ a.suffix.toList := by
  cases a <;> decide

theorem suffix_injective {a b : Artifact} (h : a.suffix = b.suffix) : a = b := by
  revert h
  cases a <;> cases b <;> decide

theorem length_suffix (a : Artifact) : 4 ≤ a.suffix.toList.length := by
  cases a <;> decide

/-- With a suffix, every component is a part and leads down. -/
theorem isPart_append_suffix (a : Artifact) {s : String} (h : '/' ∉ s.toList) :
    Path.IsPart (s ++ a.suffix) ∧ s ++ a.suffix ≠ ".." := by
  have hlong : 4 ≤ (s ++ a.suffix).toList.length := by
    rw [String.toList_append, List.length_append]
    exact Nat.le_trans a.length_suffix (Nat.le_add_left _ _)
  have hne : ∀ t : String, t.toList.length < 4 → s ++ a.suffix ≠ t := by
    intro t ht he
    rw [he] at hlong
    omega
  refine ⟨⟨hne _ (by decide), hne _ (by decide), ?_⟩, hne _ (by decide)⟩
  rw [String.toList_append, List.mem_append, not_or]
  exact ⟨h, a.slash_notMem_suffix⟩

end Artifact

namespace Layout

/-- The directory to which the name of the contract leads from the output folder. -/
def directory (l : Layout) : Path :=
  l.folder.join
    (.ofComponents (Path.anchorOf l.contractName) (Path.components l.contractName).dropLast)

/-- What the names of all files begin with. -/
def stem (l : Layout) : String := Path.lastComponent l.contractName

theorem isPart_stem_append (l : Layout) (a : Artifact) :
    Path.IsPart (l.stem ++ a.suffix) ∧ l.stem ++ a.suffix ≠ ".." :=
  a.isPart_append_suffix (Path.slash_notMem_lastComponent _)

theorem path_eq_join (l : Layout) (a : Artifact) :
    l.path a = l.folder.join (.ofComponents (Path.anchorOf l.contractName)
      ((Path.components l.contractName).dropLast ++ [l.stem ++ a.suffix])) := by
  have hne : a.suffix ≠ "" := by cases a <;> decide
  rw [path, Path.joinText, Path.ofText, Path.anchorOf_append hne a.slash_notMem_suffix,
    Path.components_append a.slash_notMem_suffix]
  rfl

/-- Every artifact stands in the directory of its layout, under a name of its own. -/
theorem location_path (l : Layout) (a : Artifact) (cwd : Location) :
    (l.path a).location cwd = l.directory.location cwd ++ [l.stem ++ a.suffix] := by
  obtain ⟨hpart, hup⟩ := l.isPart_stem_append a
  rw [path_eq_join]
  exact Path.location_concat (Path.anchor_join_ofComponents ..)
    (Path.parts_join_concat hpart ..) hup cwd

theorem location_path_inj (l : Layout) {a b : Artifact} {cwd : Location}
    (h : (l.path a).location cwd = (l.path b).location cwd) : a = b := by
  rw [location_path, location_path] at h
  have hname : l.stem ++ a.suffix = l.stem ++ b.suffix := by simpa using h
  exact Artifact.suffix_injective ((String.append_right_inj _).1 hname)

/-- No file can be opened under a name with the null character. -/
theorem nul_notMem_of_openable {l : Layout} {a : Artifact} (h : (l.path a).Openable) :
    '\x00' ∉ l.contractName.toList := by
  intro hnul
  have htext : '\x00' ∈ (l.contractName ++ a.suffix).toList := by
    rw [String.toList_append]
    exact List.mem_append_left _ hnul
  obtain ⟨part, hpart, hmem⟩ := Path.hasNul_ofText htext
  have hjoined : part ∈ (l.path a).parts := by
    unfold path Path.joinText Path.join
    split
    next => exact hpart
    next => exact List.mem_append_right _ hpart
  have hany : (l.path a).parts.any (fun s => s.toList.contains '\x00') = true :=
    List.any_eq_true.2 ⟨part, hjoined, by simpa using hmem⟩
  exact absurd (hany.symm.trans h.noNul) (by simp)

/-- A name without a slash leads nowhere else. -/
theorem directory_of_plain (l : Layout) (h : '/' ∉ l.contractName.toList) :
    l.directory = l.folder := by
  have hcomponents : Path.components l.contractName = [l.contractName] := by
    simp [Path.components, List.splitOn_eq_singleton h]
  have hanchor : Path.anchorOf l.contractName = .relative := by
    unfold Path.anchorOf
    split
    next hs => simp [hs] at h
    next hs => simp [hs] at h
    next hs => simp [hs] at h
    next => rfl
  rw [directory, hcomponents, hanchor]
  apply Path.ext
  · rfl
  · simp [Path.join, Path.ofComponents, Path.isAbsolute]

end Layout

end ContractBuild
