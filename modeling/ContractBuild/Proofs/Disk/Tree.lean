import ContractBuild.Proofs.Disk.Tests
import Mathlib.Data.List.Nodup

/-!
# What a walk of a tree finds

A walk finds something in three ways only: as a file in the directory, or in a directory of it that
is not skipped, by the walk of that directory (`cons_mem_filesBelow`). So where no links stand below
the top, it finds exactly what is no directory, except below the directories that are skipped and
those whose path is too long to be listed (`mem_filesBelow`). Nothing is found twice.
-/

namespace ContractBuild

/-! ## Routes down -/

namespace Route

/-- The route to what the names lead down to from the directory that a route leads to. -/
def descend (r : Route) (names : List String) : Route := names.foldl below r

@[simp] theorem descend_nil (r : Route) : r.descend [] = r := rfl

@[simp] theorem descend_cons (r : Route) (name : String) (names : List String) :
    r.descend (name :: names) = (r.below name).descend names := rfl

theorem size_le_below (r : Route) (name : String) : r.size ≤ (r.below name).size := by
  show r.size ≤ r.size + name.utf8ByteSize + _
  omega

/-- No route gets shorter on the way down. -/
theorem size_le_descend (r : Route) (names : List String) : r.size ≤ (r.descend names).size := by
  induction names generalizing r with
  | nil => exact Nat.le_refl _
  | cons name names ih => exact Nat.le_trans (r.size_le_below name) (ih (r.below name))

/-- The route to a name in a directory is that of its path. -/
theorem below_ofPath {p : Path} (hp : p.isAbsolute = true) {name : String}
    (hname : Path.IsPart name) : (ofPath p).below name = ofPath (p.joinText name) := by
  obtain ⟨hparts, hanchor⟩ := Path.parts_joinText hname p
  have habsolute : (p.joinText name).isAbsolute = true := Path.isAbsolute_join hp
  have hjoined := Path.size_ofPath habsolute (by simp [hparts])
  rw [hparts, hanchor, Location.weight_append, Location.weight_cons, Location.weight_nil] at hjoined
  have hsize : ((ofPath p).below name).size = (ofPath (p.joinText name)).size := by
    show (ofPath p).size + name.utf8ByteSize
      + (if (p.isAbsolute && p.parts.isEmpty) = true then 0 else 1) = _
    rw [hp, Bool.true_and, hjoined]
    by_cases hnil : p.parts = []
    · rw [Path.size_of_nil hp hnil, hnil, Location.weight_nil, List.isEmpty_nil, if_pos rfl]
      omega
    · have hempty : p.parts.isEmpty = false := by simpa using hnil
      rw [Path.size_ofPath hp hnil, hempty]
      simp only [Bool.false_eq_true, if_false]
      omega
  have hsteps : ((ofPath p).below name).steps = (ofPath (p.joinText name)).steps := hparts.symm
  have hrooted : ((ofPath p).below name).rooted = (ofPath (p.joinText name)).rooted :=
    hp.trans habsolute.symm
  calc (ofPath p).below name
      = ⟨((ofPath p).below name).rooted, ((ofPath p).below name).steps, false,
          ((ofPath p).below name).size⟩ := rfl
    _ = ofPath (p.joinText name) := by rw [hrooted, hsteps, hsize]; rfl

/-- The route by which a walk gets to something is that of its path. -/
theorem descend_ofPath {p : Path} (hp : p.isAbsolute = true) {names : List String}
    (hnames : ∀ name ∈ names, Path.IsPart name) :
    (ofPath p).descend names = ofPath (p.join (.ofComponents .relative names)) := by
  induction names generalizing p with
  | nil =>
    obtain ⟨hparts, hanchor⟩ := Path.parts_join_ofComponents hnames p
    rw [descend_nil, Path.ext hanchor (hparts.trans (List.append_nil _))]
  | cons name names ih =>
    obtain ⟨hname, hrest⟩ := List.forall_mem_cons.1 hnames
    obtain ⟨hparts, hanchor⟩ := Path.parts_joinText hname p
    obtain ⟨hall, hsame⟩ := Path.parts_join_ofComponents hnames p
    obtain ⟨hbelow, hkept⟩ := Path.parts_join_ofComponents hrest (p.joinText name)
    have habsolute : (p.joinText name).isAbsolute = true := Path.isAbsolute_join hp
    rw [descend_cons, below_ofPath hp hname, ih habsolute hrest]
    congr 1
    refine Path.ext (hkept.trans (hanchor.trans hsame.symm)) ?_
    rw [hbelow, hparts, hall, List.append_assoc]
    rfl

end Route

namespace Disk

variable {d : Disk} {cwd top : Location} {skipped names : List String} {r : Route}

/-- Names on the way down from the top that a walk of the tree follows. -/
def Followed (skipped : List String) : List String → Prop
  | [] => False
  | [_] => True
  | first :: _ :: _ => first ∉ skipped

theorem followed_nil_cons (name : String) (names : List String) : Followed [] (name :: names) := by
  cases names with
  | nil => trivial
  | cons next rest => exact List.not_mem_nil

/-! ## One step of the walk -/

theorem nil_notMem_filesBelow (d : Disk) (cwd : Location) (skipped : List String) (top : Location)
    (r : Route) : [] ∉ d.filesBelow cwd skipped top r := by
  rw [filesBelow]
  split <;> simp

/-- What is found below a directory is a file in it, or is found below one of its directories. -/
theorem cons_mem_filesBelow {first : String} {rest : List String} :
    first :: rest ∈ d.filesBelow cwd skipped top r ↔
      r.size < maxPath ∧
        ((rest = [] ∧ ∃ n, d.get? (top ++ [first]) = some n
            ∧ d.countsAsFile cwd (r.below first) n = true)
          ∨ (d.get? (top ++ [first]) = some .folder ∧ first ∉ skipped
            ∧ rest ∈ d.filesBelow cwd [] (top ++ [first]) (r.below first))) := by
  rw [filesBelow]
  split
  next hlong => simp [Nat.not_lt.2 hlong]
  next hlong =>
    have hlisted : ∀ {n : Node}, d.get? (top ++ [first]) = some n → first ∈ d.namesIn top :=
      fun hn => mem_namesIn.2 (by simp [hn])
    simp only [Nat.lt_of_not_le hlong, true_and, List.mem_append, List.mem_map, List.mem_flatMap,
      List.mem_filter, List.cons.injEq, Option.any_eq_true, Bool.and_eq_true, decide_eq_true_eq]
    refine or_congr ⟨?_, ?_⟩ ⟨?_, ?_⟩
    · rintro ⟨name, ⟨-, hn⟩, rfl, rfl⟩
      exact ⟨rfl, hn⟩
    · rintro ⟨rfl, n, hn, hcounts⟩
      exact ⟨first, ⟨hlisted hn, n, hn, hcounts⟩, rfl, rfl⟩
    · rintro ⟨name, ⟨-, hfolder, hskipped⟩, below, hbelow, rfl, rfl⟩
      exact ⟨hfolder, hskipped, hbelow⟩
    · rintro ⟨hfolder, hskipped, hrest⟩
      exact ⟨first, ⟨hlisted hfolder, hfolder, hskipped⟩, rest, hrest, rfl, rfl⟩

/-! ## The whole walk -/

/-- Without links, what counts as a file is what is no directory. -/
theorem countsAsFile_iff {n : Node} (hn : ∀ target, n ≠ .link target) :
    d.countsAsFile cwd r n = true ↔ n ≠ .folder := by
  cases n with
  | link target => exact absurd rfl (hn target)
  | _ => simp [countsAsFile]

/-- What a walk finds below a directory that has no links below it. -/
theorem mem_filesBelow (hlinks : d.NoLinksBelow top) :
    names ∈ d.filesBelow cwd skipped top r ↔
      Followed skipped names ∧ (∃ n, d.get? (top ++ names) = some n ∧ n ≠ .folder)
        ∧ (r.descend names.dropLast).size < maxPath := by
  induction names generalizing skipped top r with
  | nil => simp [nil_notMem_filesBelow, Followed]
  | cons first rest ih =>
    have hplace : top ++ first :: rest = top ++ [first] ++ rest := List.append_cons ..
    have hbelow : d.NoLinksBelow (top ++ [first]) := by
      intro names target
      rw [List.append_assoc]
      exact hlinks _ target
    have hfile : ∀ {n}, d.get? (top ++ [first]) = some n →
        (d.countsAsFile cwd (r.below first) n = true ↔ n ≠ .folder) := fun hn =>
      countsAsFile_iff fun target hlink => hlinks [first] target (hlink ▸ hn)
    rw [cons_mem_filesBelow, ih hbelow]
    cases rest with
    | nil =>
      -- there is no way to go on from a single name
      simp only [Followed, true_and, false_and, and_false, or_false, List.dropLast_singleton,
        Route.descend_nil]
      constructor
      · rintro ⟨hsize, n, hn, hcounts⟩
        exact ⟨⟨n, hn, (hfile hn).1 hcounts⟩, hsize⟩
      · rintro ⟨⟨n, hn, hfolder⟩, hsize⟩
        exact ⟨hsize, n, hn, (hfile hn).2 hfolder⟩
    | cons second rest =>
      rw [hplace]
      constructor
      · rintro ⟨-, ⟨hnil, -⟩ | ⟨-, hskipped, -, hn, hsize⟩⟩
        · simp at hnil
        · exact ⟨hskipped, hn, hsize⟩
      · rintro ⟨hskipped, ⟨n, hn, hnode⟩, hsize⟩
        have hfolder : d.get? (top ++ [first]) = some .folder :=
          get?_of_above hn (List.prefix_append _ _) (by simp)
        have hshort : r.size < maxPath := Nat.lt_of_le_of_lt (r.size_le_descend _) hsize
        exact ⟨hshort, .inr ⟨hfolder, hskipped, followed_nil_cons second rest, ⟨n, hn, hnode⟩,
          hsize⟩⟩

/-- What is found has valid names on the way. -/
theorem isName_of_mem_filesBelow (h : names ∈ d.filesBelow cwd skipped top r) :
    ∀ name ∈ names, IsName name := by
  induction names generalizing skipped top r with
  | nil => simp
  | cons first rest ih =>
    obtain ⟨-, ⟨rfl, n, hn, -⟩ | ⟨hfolder, -, hrest⟩⟩ := cons_mem_filesBelow.1 h
    · intro name hname
      exact isName_of_get? hn name (List.mem_append_right _ hname)
    · intro name hname
      rcases List.mem_cons.1 hname with rfl | hname
      · exact isName_of_get? hfolder name (by simp)
      · exact ih hrest name hname

/-- Nothing is found twice. -/
theorem nodup_filesBelow (d : Disk) (cwd : Location) (skipped : List String) (top : Location)
    (r : Route) : (d.filesBelow cwd skipped top r).Nodup := by
  fun_induction filesBelow d cwd skipped top r with
  | case1 => exact List.nodup_nil
  | case2 skipped top r hlong files folders ih =>
    have hnames := d.nodup_namesIn top
    refine List.nodup_append.2 ⟨?_, ?_, ?_⟩
    · exact (hnames.filter _).map fun _ _ h => (List.cons.inj h).1
    · refine List.nodup_flatMap.2 ⟨fun name _ => (ih name).map fun _ _ h => (List.cons.inj h).2, ?_⟩
      refine (hnames.filter _).imp fun hne => ?_
      simp only [Function.onFun]
      intro names hleft hright
      obtain ⟨_, -, rfl⟩ := List.mem_map.1 hleft
      obtain ⟨_, -, heq⟩ := List.mem_map.1 hright
      exact hne (List.cons.inj heq).1.symm
    · -- a file is found after one name, everything else after more
      rintro _ hfile names hbelow rfl
      obtain ⟨name, -, rfl⟩ := List.mem_map.1 hfile
      obtain ⟨_, -, hmem⟩ := List.mem_flatMap.1 hbelow
      obtain ⟨rest, hrest, heq⟩ := List.mem_map.1 hmem
      obtain rfl : rest = [] := (List.cons.inj heq).2
      exact nil_notMem_filesBelow _ _ _ _ _ hrest

end Disk

end ContractBuild
