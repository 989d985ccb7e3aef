import ContractBuild.Proofs.Path.Text

/-!
# The canonical form of a path

A path that was made absolute starts at the root and has no `..` left, so its text is one slash, or
two, and names joined by slashes (`Canonical`). Such a path is its own absolute form, whatever it is
taken relative to. And since normalising only goes on from what it has kept so far, a base may be
normalised before or after something is joined to it (`normalize_join_normalize`). The two together
are `absolute_canonical`.
-/

namespace ContractBuild.Path

variable {homes : Homes} {p q base : Path}

/-- A path becomes absolute in three steps, of which only the first can fail. -/
theorem absolute_eq_ok_iff :
    p.absolute homes base = .ok q ↔
      ∃ expanded, p.expandHome homes = .ok expanded ∧ q = (base.join expanded).normalize := by
  unfold absolute
  cases p.expandHome homes with
  | error f => simp [Except.map]
  | ok expanded => simp [Except.map, eq_comm]

/-! ## Normal forms -/

theorem parts_normalize (h : p.isAbsolute = true) :
    p.normalize.parts = (p.parts.foldl (pushPart true) []).reverse := by
  rw [← h]
  rfl

theorem normalize_normalize (h : p.isAbsolute = true) : p.normalize.normalize = p.normalize :=
  normalize_of_notMem (direct_normalize h).down

/-- Normalising what is kept keeps it. -/
theorem foldl_pushPart_normalize (h : p.isAbsolute = true) :
    p.normalize.parts.foldl (pushPart true) [] = p.parts.foldl (pushPart true) [] := by
  have hkept : p.normalize.isAbsolute = true := h
  have htwice := congrArg parts (normalize_normalize h)
  rw [parts_normalize hkept] at htwice
  exact List.reverse_inj.1 (htwice.trans (parts_normalize h))

/-- A base may be normalised before something is joined to it. -/
theorem normalize_join_normalize (h : base.isAbsolute = true) (q : Path) :
    (base.normalize.join q).normalize = (base.join q).normalize := by
  by_cases hq : q.isAbsolute = true
  · rw [join, if_pos hq, join, if_pos hq]
  · have hjoin : ∀ b : Path, (b.join q).parts = b.parts ++ q.parts ∧ (b.join q).anchor = b.anchor :=
      fun b => by rw [join, if_neg hq]; exact ⟨rfl, rfl⟩
    have hkept : base.normalize.isAbsolute = true := h
    apply Path.ext
    · exact (hjoin base.normalize).2.trans (hjoin base).2.symm
    · -- what the base keeps is kept when it is normalised again
      rw [parts_normalize (isAbsolute_join hkept), parts_normalize (isAbsolute_join h),
        (hjoin base).1, (hjoin base.normalize).1, List.foldl_append, List.foldl_append,
        foldl_pushPart_normalize h]

/-! ## Texts -/

theorem toText_of_isAbsolute (h : p.isAbsolute = true) :
    p.toText = (if p.anchor = .doubleRoot then "//" else "/") ++ "/".intercalate p.parts := by
  unfold toText
  cases ha : p.anchor with
  | relative => simp [isAbsolute, ha] at h
  | root => rfl
  | doubleRoot => rfl

/-- The leading slashes of its text say where an absolute path starts. -/
theorem anchorOf_toText (h : p.isAbsolute = true) : anchorOf p.toText = p.anchor :=
  congrArg anchor (ofText_toText h)

/-- Reading the text of an absolute path and making it absolute only normalises it. -/
theorem absolute_ofText_toText (h : p.isAbsolute = true) (homes : Homes) (base : Path) :
    (ofText p.toText).absolute homes base = .ok p.normalize := by
  rw [ofText_toText h, absolute_of_isAbsolute h]

/-- A path in canonical form: its text is one slash, or two if the text `before` starts with exactly
two, and then names that are neither empty nor `.` nor `..`, joined by slashes. -/
structure Canonical (before : String) (p : Path) : Prop where
  text : p.toText
    = (if anchorOf before = .doubleRoot then "//" else "/") ++ "/".intercalate p.parts
  names : ∀ name ∈ p.parts, IsPart name ∧ name ≠ ".."

theorem canonical_normalize (h : p.isAbsolute = true) : Canonical p.toText p.normalize where
  text := by
    have hkept : p.normalize.isAbsolute = true := h
    rw [toText_of_isAbsolute hkept, anchorOf_toText h]
    rfl
  names name hname := by
    refine ⟨p.normalize.isPart name hname, ?_⟩
    rintro rfl
    exact (direct_normalize h).down hname

/-- **Absolute paths are canonical.** What a text becomes relative to an absolute base starts at the
root and is in canonical form, and its own text becomes the same again, relative to whatever base.
Normalising the base first makes no difference to any text. -/
theorem absolute_canonical (homes : Homes) (raw : String) (hbase : base.isAbsolute = true) :
    (∀ p, (ofText raw).absolute homes base = .ok p →
      p.isAbsolute = true
        ∧ (∃ expanded, (ofText raw).expandHome homes = .ok expanded
          ∧ Canonical (base.join expanded).toText p)
        ∧ ∀ homes' other, other.isAbsolute = true →
          (ofText p.toText).absolute homes' other = .ok p)
    ∧ ∀ homes' other, other.isAbsolute = true →
      ∃ normal, (ofText base.toText).absolute homes' other = .ok normal
        ∧ (ofText raw).absolute homes base = (ofText raw).absolute homes normal := by
  refine ⟨fun p hp => ?_, fun homes' other _ => ?_⟩
  · obtain ⟨expanded, hexpanded, rfl⟩ := absolute_eq_ok_iff.1 hp
    have hjoined : (base.join expanded).isAbsolute = true := isAbsolute_join hbase
    have hkept : (base.join expanded).normalize.isAbsolute = true := hjoined
    refine ⟨hkept, ⟨expanded, hexpanded, canonical_normalize hjoined⟩, fun homes' other _ => ?_⟩
    rw [absolute_ofText_toText hkept, normalize_normalize hjoined]
  · refine ⟨base.normalize, absolute_ofText_toText hbase homes' other, ?_⟩
    unfold absolute
    simp only [normalize_join_normalize hbase]

/-- A path below a home directory with two leading slashes, and a base that is not normalised. -/
theorem home_path_canonical :
    let homes : Homes := { current := "//h/x/" }
    let base := ofText "/a/../b"
    let p := ofText "//h/y"
    base.isAbsolute = true
      ∧ (ofText "~/..//./y").absolute homes base = .ok p
      ∧ Canonical "//h/x/../y" p
      ∧ (ofText "/c").isAbsolute = true
      ∧ (ofText "//h/y").absolute { current := "" } (ofText "/c") = .ok p
      ∧ (ofText "~/..//./y").absolute homes base
        = (ofText "~/..//./y").absolute homes (ofText "/b") := by
  intro homes base p
  have hbase : base.isAbsolute = true := by decide +kernel
  have hother : (ofText "/c").isAbsolute = true := by decide +kernel
  have hp : (ofText "~/..//./y").absolute homes base = .ok p := by decide +kernel
  have hexpands : (ofText "~/..//./y").expandHome homes = .ok (ofText "//h/x/../y") := by
    decide +kernel
  have hjoined : (base.join (ofText "//h/x/../y")).toText = "//h/x/../y" := by decide +kernel
  have htext : p.toText = "//h/y" := by decide +kernel
  have hnormalizes : (ofText base.toText).absolute homes (ofText "/c") = .ok (ofText "/b") := by
    decide +kernel
  obtain ⟨hcanonical, hnormal⟩ := absolute_canonical homes "~/..//./y" hbase
  obtain ⟨-, ⟨expanded, hexpanded, hshape⟩, hagain⟩ := hcanonical p hp
  obtain ⟨normal, hn, hsame⟩ := hnormal homes (ofText "/c") hother
  obtain rfl := Except.ok.inj (hexpands.symm.trans hexpanded)
  obtain rfl := Except.ok.inj (hnormalizes.symm.trans hn)
  rw [hjoined] at hshape
  exact ⟨hbase, hp, hshape, hother, htext ▸ hagain { current := "" } _ hother, hsame⟩

end ContractBuild.Path
