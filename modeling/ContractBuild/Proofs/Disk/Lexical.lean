import ContractBuild.Proofs.Disk.Tests
import ContractBuild.Proofs.Path.Homes

/-!
# Normalising looks at the text only

The operating system takes `..` from the directory that it has reached, normalising takes it from
the parts that it has kept. Without links the two agree: the parts kept are the names on the way to
the place reached (`parts_normalize_eq_location`). So a path that is made absolute names what the
text that it was made from names, followed step by step from the base (`reaches_absolute`).
-/

namespace ContractBuild

namespace Path

variable {p : Path}

/-- One part more on the stack is one step more on the way. -/
theorem reverse_pushPart {stack : List String} (h : ".." ∉ stack) (part : String) :
    (pushPart true stack part).reverse = Location.step stack.reverse part := by
  unfold pushPart Location.step
  split
  next =>
    cases stack with
    | nil => rfl
    | cons last rest =>
      rw [List.mem_cons, not_or] at h
      simp [Ne.symm h.1]
  next => simp

/-- The stack holds the way to where the parts read so far lead. -/
theorem reverse_foldl_pushPart {parts stack : List String} (h : ".." ∉ stack) :
    (parts.foldl (pushPart true) stack).reverse = parts.foldl Location.step stack.reverse := by
  induction parts generalizing stack with
  | nil => rfl
  | cons part parts ih =>
    have hpush : ".." ∉ [part].foldl (pushPart true) stack := up_notMem_foldl_pushPart h
    rw [List.foldl_cons, List.foldl_cons, ← reverse_pushPart h]
    exact ih hpush

/-- The parts of a normalised path are the names on the way to its place. -/
theorem parts_normalize_eq_location (h : p.isAbsolute = true) (cwd : Location) :
    p.normalize.parts = p.location cwd := by
  rw [parts_normalize h, reverse_foldl_pushPart (by simp), location, origin, if_pos h]
  rfl

end Path

namespace Route

theorem rooted_ofText (raw : String) : (ofText raw).rooted = (Path.ofText raw).isAbsolute := by
  rw [Bool.eq_iff_iff, Path.isAbsolute_ofText_iff]
  exact decide_eq_true_iff

/-- The steps of a text are the parts of the path that it names, but for the points. -/
theorem filter_allSteps_ofText (raw : String) :
    (ofText raw).allSteps.filter (fun s => decide (s ≠ ".")) = (Path.ofText raw).parts := by
  have hparts : (ofText raw).steps.filter (fun s => decide (s ≠ "."))
      = (Path.ofText raw).parts := by
    show ((Path.components raw).filter _).filter _ = (Path.components raw).filter _
    rw [List.filter_filter]
    refine List.filter_congr fun s hs => ?_
    obtain ⟨piece, hpiece, rfl⟩ := List.mem_map.1 hs
    have hslash : '/' ∉ piece := sep_notMem_of_mem_splitOn hpiece
    simp [Path.IsPart, hslash, Bool.and_comm]
  unfold allSteps
  split
  next => simpa using hparts
  next => exact hparts

end Route

namespace Disk

variable {d : Disk} {cwd start top l : Location} {steps : List String} {n : Node} {r : Route}

/-- Following a route step by step from the working directory reaches a location. Its length does
not matter, as if every directory on the way were entered by its own name. -/
def Reaches (d : Disk) (cwd : Location) (r : Route) (l : Location) : Prop :=
  d.follow .follow maxLinks (if r.rooted then [] else cwd) r.allSteps = .ok (.reached l)

instance (d : Disk) (cwd : Location) (r : Route) (l : Location) :
    Decidable (d.Reaches cwd r l) := by
  unfold Reaches; infer_instance

/-- Without links a route goes where the rules lead. -/
theorem Reaches.leads (h : d.Reaches cwd r l) (hd : d.LinkFree) :
    Leads d (if r.rooted then [] else cwd) (r.allSteps.filter fun s => decide (s ≠ "."))
      (.reached l) :=
  leads_filter_of_advance ((follow_eq_ok_iff hd).1 h)

theorem reaches_ofPath_iff {p : Path} (hd : d.LinkFree) :
    d.Reaches cwd (.ofPath p) l ↔ Leads d (p.origin cwd) p.parts (.reached l) := by
  refine (follow_eq_ok_iff hd).trans ?_
  exact ⟨fun h => leads_of_advance h p.dot_notMem_parts,
    fun h => advance_of_leads hd h p.dot_notMem_parts⟩

/-- Every name on the way to what a walk reaches was a step or was on the way to its start. -/
theorem Leads.isStep_of_reached (h : Leads d start steps (.reached l))
    (hstart : ∀ name ∈ start, IsStep name) : ∀ name ∈ l, IsStep name := by
  generalize ha : Arrival.reached l = a at h
  have hnext : ∀ {start : Location} {name : String}, (∀ s ∈ start, IsStep s) → IsStep name →
      ∀ s ∈ start ++ [name], IsStep s := by
    intro start name hstart hname s hs
    rcases List.mem_append.1 hs with hs | hs
    · exact hstart s hs
    · exact List.mem_singleton.1 hs ▸ hname
  induction h with
  | here =>
    obtain rfl := Arrival.reached.inj ha
    exact hstart
  | up _ ih => exact ih (fun s hs => hstart s (List.dropLast_subset _ hs)) ha
  | down hstep _ _ _ ih => exact ih (hnext hstart hstep) ha
  | leaf hstep =>
    obtain rfl := Arrival.reached.inj ha
    exact hnext hstart hstep
  | absent => simp at ha

/-- A path whose parts are the names on the way to something opens it, unless it is too long. -/
theorem locate_of_reaches {p : Path} (h : d.Reaches cwd (.ofPath p) p.parts)
    (hn : d.get? p.parts = some n) :
    d.locate cwd (.ofPath p) =
      if (Route.ofPath p).size < maxPath then .ok p.parts else .error (.errno .nameTooLong) := by
  have hnul : (Route.ofPath p).hasNul = false := by
    simp only [Route.hasNul, Route.ofPath, List.any_eq_false, List.contains_iff_mem]
    exact fun name hname => (isName_of_get? hn name hname).2.2
  split
  next hlong => exact locate_eq_ok_iff.2 ⟨⟨hnul, p.size_ne_zero, hlong⟩, h⟩
  next hlong =>
    rw [locate, walk, hnul, if_neg (by decide), if_neg p.size_ne_zero,
      if_pos (Nat.le_of_not_lt hlong)]

/-- The names that are kept of a path joined to a base are the way to what following it from the
base reaches. -/
theorem parts_normalize_join {base q : Path} (hbase : base.isAbsolute = true)
    (htop : Leads d [] base.parts (.reached top))
    (h : Leads d (if q.isAbsolute then [] else top) q.parts (.reached l)) :
    (base.join q).normalize.parts = l := by
  have hjoined : (base.join q).isAbsolute = true := Path.isAbsolute_join hbase
  have hplace : l = _ := h.place_eq
  have htopplace : top = _ := htop.place_eq
  rw [Path.parts_normalize_eq_location hjoined [], Path.location, Path.origin, if_pos hjoined,
    hplace, Path.join]
  split
  next => rfl
  next => rw [List.foldl_append, ← htopplace]

/-- **Normalising the text keeps what is named.** On a disk without links, let a text that names no
home directory be followed step by step from the directory that an absolute base leads to. Whatever
that reaches is reached by the path that the text becomes as well, and the operating system opens it
under that path unless the path is too long. -/
theorem reaches_absolute {base : Path} {raw : String} (hd : d.LinkFree)
    (hbase : base.isAbsolute = true) (htop : d.Reaches cwd (.ofPath base) top)
    (hfolder : d.get? top = some .folder) (hraw : ¬ Path.NamesHome raw)
    (h : d.Reaches top (.ofText raw) l) (homes : Homes) :
    ∃ p, (Path.ofText raw).absolute homes base = .ok p ∧ ∀ cwd, d.Reaches cwd (.ofPath p) l
      ∧ d.locate cwd (.ofPath p) =
        if (Route.ofPath p).size < maxPath then .ok l else .error (.errno .nameTooLong) := by
  have horigin : ∀ {p : Path} {cwd : Location}, p.isAbsolute = true → p.origin cwd = [] :=
    fun hp => if_pos hp
  have htopleads : Leads d [] base.parts (.reached top) :=
    horigin hbase ▸ (reaches_ofPath_iff hd).1 htop
  have hleads := h.leads hd
  rw [Route.filter_allSteps_ofText, Route.rooted_ofText] at hleads
  have hkept : (base.join (Path.ofText raw)).normalize.isAbsolute = true :=
    Path.isAbsolute_join hbase
  have hparts : (base.join (Path.ofText raw)).normalize.parts = l :=
    parts_normalize_join hbase htopleads hleads
  obtain ⟨n, hn⟩ : ∃ n, d.get? l = some n := by
    refine Option.ne_none_iff_exists'.1 (hleads.exists_of_reached ?_)
    split
    · simp
    · simp [hfolder]
  have hsteps : ∀ name ∈ l, IsStep name := by
    refine hleads.isStep_of_reached ?_
    split
    · simp
    · exact htopleads.isStep_of_reached (by simp)
  refine ⟨_, Path.absolute_ofText hraw homes base, fun cwd => ?_⟩
  generalize (base.join (Path.ofText raw)).normalize = p at hkept hparts ⊢
  subst hparts
  have hrooted : Leads d [] p.parts (.reached ([] ++ p.parts)) := leads_of_get? hn hsteps
  have hreaches : d.Reaches cwd (.ofPath p) p.parts :=
    (reaches_ofPath_iff hd).2 ((horigin hkept).symm ▸ hrooted)
  exact ⟨hreaches, locate_of_reaches hreaches hn⟩

/-- A file named by points, double slashes and more `..` than there are directories above. -/
theorem winding_text_reaches_file :
    let d := ((empty.put ["w"] .folder).put ["w", "a"] .folder).put ["w", "Token.cs"] (.file [])
    let base := Path.ofText "//w/a/.."
    let raw := "./a//.././../../w/Token.cs"
    d.LinkFree ∧ base.isAbsolute = true ∧ d.Reaches [] (.ofPath base) ["w"]
      ∧ d.get? ["w"] = some .folder ∧ ¬ Path.NamesHome raw
      ∧ d.Reaches ["w"] (.ofText raw) ["w", "Token.cs"]
      ∧ d.Reaches [] (.ofPath (Path.ofText "//w/Token.cs")) ["w", "Token.cs"]
      ∧ d.locate [] (.ofPath (Path.ofText "//w/Token.cs")) = .ok ["w", "Token.cs"] := by
  intro d base raw
  have hd : d.LinkFree := by decide +kernel
  have hbase : base.isAbsolute = true := by decide +kernel
  have htop : d.Reaches [] (.ofPath base) ["w"] := by decide +kernel
  have hfolder : d.get? ["w"] = some .folder := by decide +kernel
  have hraw : ¬ Path.NamesHome raw := by decide +kernel
  have hreached : d.Reaches ["w"] (.ofText raw) ["w", "Token.cs"] := by decide +kernel
  obtain ⟨p, hp, hsame⟩ := reaches_absolute hd hbase htop hfolder hraw hreached default
  have hnormal : (Path.ofText raw).absolute default base = .ok (Path.ofText "//w/Token.cs") := by
    decide +kernel
  obtain rfl := Except.ok.inj (hp.symm.trans hnormal)
  obtain ⟨hreaches, hlocate⟩ := hsame []
  have hshort : (Route.ofPath (Path.ofText "//w/Token.cs")).size < maxPath := by decide +kernel
  rw [if_pos hshort] at hlocate
  exact ⟨hd, hbase, htop, hfolder, hraw, hreached, hreaches, hlocate⟩

end Disk

end ContractBuild
