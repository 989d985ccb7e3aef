import ContractBuild.Proofs.Sources.Direct

/-!
# The text of a path

Reading the text of a path that starts at the root gives the path again (`ofText_toText`), and a
direct path is its own absolute form (`absolute_of_direct`). So a direct path can be handed around
as a text.
-/

namespace ContractBuild

namespace Path

variable {p : Path}

/-- No part starts with a slash. -/
theorem toList_intercalate_ne (p : Path) (cs : List Char) :
    ("/".intercalate p.parts).toList ≠ '/' :: cs := by
  have hfirst : ∀ s, IsPart s → ∃ c cs, s.toList = c :: cs ∧ c ≠ '/' := by
    intro s hs
    obtain ⟨c, cs, hcs⟩ := List.exists_cons_of_ne_nil
      (fun hnil => hs.1 (String.toList_injective (by simpa using hnil)) : s.toList ≠ [])
    exact ⟨c, cs, hcs, fun hc => hs.2.2 (by simp [hcs, hc])⟩
  intro h
  match hparts : p.parts with
  | [] => simp [hparts] at h
  | [s] =>
    obtain ⟨c, rest, hs, hc⟩ := hfirst s (p.isPart s (by simp [hparts]))
    rw [hparts, String.intercalate_singleton, hs] at h
    exact hc (List.cons.inj h).1
  | s :: t :: ps =>
    obtain ⟨c, rest, hs, hc⟩ := hfirst s (p.isPart s (by simp [hparts]))
    rw [hparts, String.intercalate_cons_cons, String.toList_append, String.toList_append, hs] at h
    exact hc (List.cons.inj h).1

/-- The components behind the leading slashes are the parts. -/
theorem components_slash_append (p : Path) (hparts : p.parts ≠ []) :
    components ("/" ++ "/".intercalate p.parts) = "" :: p.parts := by
  have hslash : "/".toList = ['/'] := rfl
  have hsplit : (['/'].intercalate (p.parts.map String.toList)).splitOn '/'
      = p.parts.map String.toList := by
    refine List.splitOn_intercalate _ (fun l hl => ?_) (by simpa using hparts)
    obtain ⟨s, hs, rfl⟩ := List.mem_map.1 hl
    exact (p.isPart s hs).2.2
  rw [components, String.toList_append, String.toList_intercalate, hslash, List.singleton_append,
    List.splitOn_cons_eq_if_modifyHead, if_pos (by simp), hsplit]
  simp

theorem components_cons_slash (s : String) : components ("/" ++ s) = "" :: components s := by
  have hslash : "/".toList = ['/'] := rfl
  rw [components, String.toList_append, hslash, List.singleton_append,
    List.splitOn_cons_eq_if_modifyHead, if_pos (by simp)]
  rfl

/-- The text of a path names the path. -/
theorem ofText_toText (h : p.isAbsolute = true) : ofText p.toText = p := by
  have hslash : "/".toList = ['/'] := rfl
  have htwo : "//" = "/" ++ "/" := rfl
  have hempty : ¬ IsPart "" := fun h => h.1 rfl
  have hkept : p.parts.filter (fun s => decide (IsPart s)) = p.parts :=
    List.filter_eq_self.2 fun s hs => by simpa using p.isPart s hs
  have hparts : (components ("/" ++ "/".intercalate p.parts)).filter
      (fun s => decide (IsPart s)) = p.parts := by
    by_cases hnil : p.parts = []
    · rw [hnil]
      decide
    · rw [components_slash_append p hnil, List.filter_cons_of_neg (by simpa using hempty), hkept]
  -- what follows the leading slashes does not start with one
  cases ha : p.anchor with
  | relative => simp [isAbsolute, ha] at h
  | root =>
    have htext : p.toText = "/" ++ "/".intercalate p.parts := by rw [toText, ha]
    apply Path.ext
    · show anchorOf p.toText = _
      have hhead := toList_intercalate_ne p
      rw [htext, ha, anchorOf, String.toList_append, hslash]
      cases hbody : ("/".intercalate p.parts).toList with
      | nil => rfl
      | cons c cs =>
        have hc : c ≠ '/' := fun hc => hhead cs (by rw [hbody, hc])
        simp [hc]
    · show (components p.toText).filter _ = _
      rw [htext, hparts]
  | doubleRoot =>
    have htext : p.toText = "/" ++ ("/" ++ "/".intercalate p.parts) := by
      rw [toText, ha, ← String.append_assoc, ← htwo]
    apply Path.ext
    · show anchorOf p.toText = _
      have hhead := toList_intercalate_ne p
      rw [htext, ha, anchorOf, String.toList_append, String.toList_append, hslash]
      cases hbody : ("/".intercalate p.parts).toList with
      | nil => rfl
      | cons c cs =>
        have hc : c ≠ '/' := fun hc => hhead cs (by rw [hbody, hc])
        simp [hc]
    · show (components p.toText).filter _ = _
      rw [htext, components_cons_slash, List.filter_cons_of_neg (by simpa using hempty), hparts]

/-- Without `..` there is nothing to remove. -/
theorem normalize_of_notMem (h : ".." ∉ p.parts) : p.normalize = p := by
  have hfold : ∀ (anchored : Bool) (parts stack : List String), ".." ∉ parts →
      parts.foldl (pushPart anchored) stack = parts.reverse ++ stack := by
    intro anchored parts
    induction parts with
    | nil => simp
    | cons part parts ih =>
      intro stack hnot
      rw [List.mem_cons, not_or] at hnot
      have hpush : pushPart anchored stack part = part :: stack := if_neg (Ne.symm hnot.1)
      rw [List.foldl_cons, hpush, ih _ hnot.2]
      simp
  apply Path.ext
  · rfl
  · show (p.parts.foldl (pushPart p.isAbsolute) []).reverse = p.parts
    rw [hfold _ _ _ h, List.append_nil, List.reverse_reverse]

/-- An absolute path is only normalised. -/
theorem absolute_of_isAbsolute (h : p.isAbsolute = true) (homes : Homes) (base : Path) :
    p.absolute homes base = .ok p.normalize := by
  have hexpand : p.expandHome homes = .ok p := by
    unfold expandHome
    split
    next hanchor _ _ => simp [isAbsolute, hanchor] at h
    next => rfl
  have hjoin : base.join p = p := if_pos h
  rw [absolute, hexpand]
  show Except.ok (base.join p).normalize = _
  rw [hjoin]

/-- A direct path is absolute already. -/
theorem absolute_of_direct (h : p.Direct) (homes : Homes) (base : Path) :
    p.absolute homes base = .ok p := by
  rw [absolute_of_isAbsolute h.absolute, normalize_of_notMem h.down]

end Path

variable {host : Host} {disk : Disk} {cwd : Option String} {base p : Path}

theorem Host.absolute_of_direct (h : p.Direct) (host : Host) (base : Path) :
    host.absolute p base = .ok p := by
  rw [absolute, Path.absolute_of_direct h, mapError_ok]

/-- One directory, named by its text, asks for itself. -/
theorem Sources.classify_toText (hp : p.Direct) (hbase : host.base disk cwd = .ok base)
    (hfolder : isFolder host disk p = .ok true) :
    classify host disk [p.toText] cwd = .ok (.directory p) := by
  refine bind_eq_ok_iff.2 ⟨base, hbase, bind_eq_ok_iff.2 ⟨[p], ?_, ?_⟩⟩
  · rw [List.mapM_cons, List.mapM_nil, Path.ofText_toText hp.absolute,
      Host.absolute_of_direct hp]
    rfl
  · refine bind_eq_ok_iff.2 ⟨some (.directory p), ?_, rfl⟩
    exact bind_eq_ok_iff.2 ⟨true, hfolder, rfl⟩

/-- An output directory that is direct stays as it is. -/
theorem Build.anchorOutput_of_direct {options : Options} (hp : p.Direct)
    (hbase : host.base disk cwd = .ok base) (h : options.outputDirectory = some p) :
    anchorOutput host disk options cwd = .ok options := by
  unfold anchorOutput
  rw [h]
  refine bind_eq_ok_iff.2 ⟨base, hbase, ?_⟩
  refine bind_eq_ok_iff.2 ⟨p, Host.absolute_of_direct hp host base, ?_⟩
  rw [← h]
  rfl

end ContractBuild
