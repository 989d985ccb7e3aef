import ContractBuild.Proofs.Path.Canonical

/-!
# Texts that name a home directory

Reading a text drops its `.` components before the first part is looked at. So a tilde means a home
directory not only at the start of a text but also behind points, as in `./~/x` (`NamesHome`), and
such a text means what it means without them. Every other text becomes absolute without a look at
the home directories, and so without an error (`absolute_homes_iff`).
-/

namespace ContractBuild.Path

variable {homes : Homes} {p base : Path}

/-- What is left of a text behind the empty components and the `.` components at its start. -/
def behindPoints : List Char → List Char
  | '/' :: rest => behindPoints rest
  | '.' :: '/' :: rest => behindPoints rest
  | cs => cs

/-- A relative text with a tilde at its start or behind points. -/
def NamesHome (raw : String) : Prop :=
  raw.toList.head? ≠ some '/' ∧ (behindPoints raw.toList).head? = some '~'

instance (raw : String) : Decidable (NamesHome raw) := by
  unfold NamesHome; infer_instance

/-! ## The first part of a text -/

theorem parts_ofText_slash (cs : List Char) :
    (ofText (String.ofList ('/' :: cs))).parts = (ofText (String.ofList cs)).parts := by
  simp [ofText, ofComponents, components, List.splitOn_cons_eq_if_modifyHead, IsPart]

theorem parts_ofText_point (cs : List Char) :
    (ofText (String.ofList ('.' :: '/' :: cs))).parts = (ofText (String.ofList cs)).parts := by
  have hpoint : ¬ IsPart (String.ofList ['.']) := by decide
  simp [ofText, ofComponents, components, List.splitOn_cons_eq_if_modifyHead, hpoint]

theorem parts_ofText_behindPoints (cs : List Char) :
    (ofText (String.ofList (behindPoints cs))).parts = (ofText (String.ofList cs)).parts := by
  fun_induction behindPoints cs with
  | case1 rest ih => rw [ih, parts_ofText_slash]
  | case2 rest ih => rw [ih, parts_ofText_point]
  | case3 => rfl

theorem behindPoints_ne_slash {cs rest : List Char} : behindPoints cs ≠ '/' :: rest := by
  fun_induction behindPoints cs with
  | case1 _ ih => exact ih
  | case2 _ ih => exact ih
  | case3 cs hslash _ => exact fun h => hslash rest h

theorem behindPoints_ne_point {cs rest : List Char} : behindPoints cs ≠ '.' :: '/' :: rest := by
  fun_induction behindPoints cs with
  | case1 _ ih => exact ih
  | case2 _ ih => exact ih
  | case3 cs _ hpoint => exact fun h => hpoint rest h

/-- The first component of a text goes on up to the first slash. -/
theorem exists_splitOn_cons {c : Char} (hc : c ≠ '/') (cs : List Char) :
    ∃ more others, (c :: cs).splitOn '/' = (c :: more) :: others
      ∧ (more = [] → cs = [] ∨ ∃ rest, cs = '/' :: rest) := by
  rw [List.splitOn_cons_eq_if_modifyHead, if_neg (by simpa using hc)]
  cases cs with
  | nil => exact ⟨[], [], rfl, by simp⟩
  | cons d cs =>
    rw [List.splitOn_cons_eq_if_modifyHead]
    split
    next hd => exact ⟨[], _, rfl, fun _ => .inr ⟨cs, by rw [eq_of_beq hd]⟩⟩
    next =>
      obtain ⟨first, pieces, hs⟩ := List.exists_cons_of_ne_nil (List.splitOn_ne_nil '/' cs)
      exact ⟨d :: first, pieces, by rw [hs]; rfl, by simp⟩

/-- A text that starts with neither a slash nor a point and a slash starts with its first part,
unless it is a point. -/
theorem parts_ofText_cons {c : Char} {cs : List Char} (hc : c ≠ '/')
    (hpoint : ∀ rest, c :: cs ≠ '.' :: '/' :: rest) :
    c = '.' ∧ (ofText (String.ofList (c :: cs))).parts = []
      ∨ ∃ more rest,
        (ofText (String.ofList (c :: cs))).parts = String.ofList (c :: more) :: rest := by
  obtain ⟨more, others, hsplit, hend⟩ := exists_splitOn_cons hc cs
  have hparts : (ofText (String.ofList (c :: cs))).parts
      = (String.ofList (c :: more) :: others.map String.ofList).filter
        fun s => decide (IsPart s) := by
    simp only [ofText, ofComponents, components, String.toList_ofList, hsplit, List.map_cons]
  by_cases hpart : IsPart (String.ofList (c :: more))
  · rw [hparts, List.filter_cons_of_pos (by simpa using hpart)]
    exact .inr ⟨more, _, rfl⟩
  · -- only the component `.` is dropped here, and nothing follows it
    have hdot : String.ofList (c :: more) = "." := by
      have hslash : '/' ∉ c :: more := sep_notMem_of_mem_splitOn (by rw [hsplit]; simp)
      exact Decidable.byContradiction fun hdot => hpart ⟨by simp, hdot, by simpa using hslash⟩
    obtain ⟨rfl, rfl⟩ := List.cons.inj (String.ofList_injective hdot : c :: more = ['.'])
    rcases hend rfl with rfl | ⟨rest, rfl⟩
    · exact .inl ⟨rfl, by decide⟩
    · exact absurd rfl (hpoint rest)

/-- A relative text names a home directory if its first part starts with a tilde. -/
theorem namesHome_iff {raw : String} (hraw : raw.toList.head? ≠ some '/') :
    NamesHome raw ↔ ∃ first rest user,
      (ofText raw).parts = first :: rest ∧ first.toList = '~' :: user := by
  have hparts := parts_ofText_behindPoints raw.toList
  rw [String.ofList_toList] at hparts
  rw [NamesHome, ← hparts]
  cases hbehind : behindPoints raw.toList with
  | nil =>
    have hnone : (ofText (String.ofList [])).parts = [] := by decide
    simp [hnone]
  | cons c cs =>
    have hc : c ≠ '/' := fun hc => behindPoints_ne_slash (hc ▸ hbehind)
    have hpoint : ∀ rest, c :: cs ≠ '.' :: '/' :: rest := fun rest h =>
      behindPoints_ne_point (hbehind.trans h)
    rcases parts_ofText_cons hc hpoint with ⟨rfl, hnone⟩ | ⟨more, rest, hfirst⟩
    · rw [hnone]
      simp
    · rw [hfirst]
      simp [hraw]

/-! ## Home directories -/

theorem isAbsolute_ofText_iff {raw : String} :
    (ofText raw).isAbsolute = true ↔ raw.toList.head? = some '/' := by
  show decide (anchorOf raw ≠ .relative) = true ↔ _
  unfold anchorOf
  split
  next h => simp [h]
  next h => simp [h]
  next h => simp [h]
  next h =>
    cases hraw : raw.toList with
    | nil => simp
    | cons c cs => simpa using fun hc : c = '/' => h cs (hc ▸ hraw)

theorem anchor_ofText_of_ne_slash {raw : String} (hraw : raw.toList.head? ≠ some '/') :
    (ofText raw).anchor = .relative := by
  simpa [isAbsolute] using mt isAbsolute_ofText_iff.1 hraw

/-- A relative text means the same without what precedes its first part. -/
theorem ofText_behindPoints {raw : String} (hraw : raw.toList.head? ≠ some '/') :
    ofText (String.ofList (behindPoints raw.toList)) = ofText raw := by
  have hbehind : (String.ofList (behindPoints raw.toList)).toList.head? ≠ some '/' := by
    rw [String.toList_ofList]
    cases h : behindPoints raw.toList with
    | nil => simp
    | cons c cs => simpa using fun hc : c = '/' => behindPoints_ne_slash (hc ▸ h)
  apply Path.ext
  · rw [anchor_ofText_of_ne_slash hbehind, anchor_ofText_of_ne_slash hraw]
  · rw [parts_ofText_behindPoints, String.ofList_toList]

theorem expandHome_ofText {raw : String} (h : ¬ NamesHome raw) (homes : Homes) :
    (ofText raw).expandHome homes = .ok (ofText raw) := by
  unfold expandHome
  split
  next first rest _ hanchor hparts _ =>
    split
    next user huser =>
      have hraw : raw.toList.head? ≠ some '/' := fun hslash => by
        simpa [isAbsolute, hanchor] using isAbsolute_ofText_iff.2 hslash
      exact absurd ((namesHome_iff hraw).2 ⟨first, rest, user, hparts, huser⟩) h
    next => rfl
  next => rfl

theorem absolute_ofText {raw : String} (h : ¬ NamesHome raw) (homes : Homes) (base : Path) :
    (ofText raw).absolute homes base = .ok (base.join (ofText raw)).normalize :=
  absolute_eq_ok_iff.2 ⟨_, expandHome_ofText h homes, rfl⟩

/-- A home directory that is itself told by a tilde names no directory. -/
theorem exists_homeText_eq_error (user : List Char) :
    ∃ f, homeText { current := "~" } user = .error f := by
  cases user with
  | nil => exact ⟨.unknown, by decide⟩
  | cons c cs =>
    by_cases hnul : (c :: cs).contains '\x00' = true
    · exact ⟨.nul, if_pos hnul⟩
    · exact ⟨.unknown, if_neg hnul⟩

theorem exists_expandHome_eq_error {raw : String} (h : NamesHome raw) :
    ∃ f, (ofText raw).expandHome { current := "~" } = .error f := by
  obtain ⟨first, rest, user, hparts, huser⟩ := (namesHome_iff h.1).1 h
  have hrelative := anchor_ofText_of_ne_slash h.1
  obtain ⟨f, hf⟩ := exists_homeText_eq_error user
  generalize ofText raw = p at hparts hrelative
  obtain ⟨anchor, parts, isPart⟩ := p
  subst hrelative hparts
  exact ⟨f, by simp only [expandHome, huser, hf, Except.map]⟩

/-- **Only a tilde at the start or behind points means a home directory.** Exactly the texts without
one become the same path whatever the home directories are, namely what they name from the base. A
text with one means what it means without the points. -/
theorem absolute_homes_iff (raw : String) (base : Path) :
    ((∃ p, ∀ homes, (ofText raw).absolute homes base = .ok p) ↔ ¬ NamesHome raw)
    ∧ (¬ NamesHome raw → ∀ homes,
      (ofText raw).absolute homes base = .ok (base.join (ofText raw)).normalize)
    ∧ (NamesHome raw → ∀ homes, (ofText raw).absolute homes base
      = (ofText (String.ofList (behindPoints raw.toList))).absolute homes base) := by
  refine ⟨⟨?_, fun h => ⟨_, fun homes => absolute_ofText h homes base⟩⟩,
    fun h homes => absolute_ofText h homes base, fun h homes => by rw [ofText_behindPoints h.1]⟩
  rintro ⟨p, hp⟩ h
  obtain ⟨f, hf⟩ := exists_expandHome_eq_error h
  obtain ⟨expanded, hexpanded, -⟩ := absolute_eq_ok_iff.1 (hp { current := "~" })
  rw [hf] at hexpanded
  simp at hexpanded

/-- A tilde behind another name is a name, and one behind points is the same as without them. -/
theorem later_tilde_names_entry :
    ¬ NamesHome "x/../~/Token.cs"
      ∧ (∀ homes, (ofText "x/../~/Token.cs").absolute homes (ofText "/w")
        = .ok (ofText "/w/~/Token.cs"))
      ∧ NamesHome ".//./~k/Token.cs"
      ∧ ∀ homes, (ofText ".//./~k/Token.cs").absolute homes (ofText "/w")
        = (ofText "~k/Token.cs").absolute homes (ofText "/w") := by
  have hname : ¬ NamesHome "x/../~/Token.cs" := by decide +kernel
  have hhome : NamesHome ".//./~k/Token.cs" := by decide +kernel
  have hnormal : ((ofText "/w").join (ofText "x/../~/Token.cs")).normalize
      = ofText "/w/~/Token.cs" := by decide +kernel
  refine ⟨hname, fun homes => ?_, hhome, (absolute_homes_iff _ _).2.2 hhome⟩
  rw [(absolute_homes_iff _ _).2.1 hname homes, hnormal]

/-- A text that starts with a point can leave its base, or fail, because of a tilde. -/
theorem pointed_tilde_leaves_base :
    "./~/Token.cs".toList.head? = some '.' ∧ "./~x.cs".toList.head? = some '.'
      ∧ (ofText "/w").isAbsolute = true
      ∧ (ofText "./~/Token.cs").absolute { current := "/h" } (ofText "/w")
        = .ok (ofText "/h/Token.cs")
      ∧ (ofText "./~/Token.cs").absolute { current := "/k" } (ofText "/w")
        = .ok (ofText "/k/Token.cs")
      ∧ (ofText "./~x.cs").absolute { current := "/h" } (ofText "/w") = .error .unknown := by
  decide +kernel

end ContractBuild.Path
