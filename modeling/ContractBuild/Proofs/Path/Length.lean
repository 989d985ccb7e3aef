import ContractBuild.Proofs.Disk.Walk

/-!
# The length of paths

The operating system counts the bytes of a path, and a path that starts at the root has a slash
before each of its parts. So it is as long as the names on its way, with their slashes, and one
longer if it starts with two slashes (`size_ofPath`). A walk from the root never gets further down
than its path has names, so the place that it leads to is named by a path that is no longer
(`weight_location_le`).
-/

namespace ContractBuild

/-- The bytes of the names on the way to a location, with a slash before each. -/
def Location.weight : Location → Nat
  | [] => 0
  | name :: l => name.utf8ByteSize + 1 + weight l

/-- A location that a path of the operating system can name, and whose last name a directory can
hold. -/
structure Location.Short (l : Location) : Prop where
  name : ∀ name, l.getLast? = some name → name.utf8ByteSize ≤ Disk.maxName
  weight : l.weight < Disk.maxPath

namespace Location

@[simp] theorem weight_nil : weight [] = 0 := rfl

@[simp] theorem weight_cons (name : String) (l : Location) :
    weight (name :: l) = name.utf8ByteSize + 1 + weight l := rfl

@[simp] theorem weight_append (l m : Location) : weight (l ++ m) = weight l + weight m := by
  induction l with
  | nil => simp
  | cons name l ih =>
    rw [List.cons_append, weight_cons, weight_cons, ih]
    omega

theorem weight_replicate (n : Nat) (name : String) :
    weight (.replicate n name) = n * (name.utf8ByteSize + 1) := by
  induction n with
  | zero => simp
  | succ n ih => rw [List.replicate_succ, weight_cons, ih, Nat.succ_mul, Nat.add_comm]

theorem weight_dropLast_le (l : Location) : weight l.dropLast ≤ weight l := by
  rcases List.eq_nil_or_concat l with rfl | ⟨m, name, rfl⟩
  · simp
  · simp

/-- No step leads further down than its name. -/
theorem weight_step_le (l : Location) (name : String) :
    weight (l.step name) ≤ weight l + (name.utf8ByteSize + 1) := by
  by_cases h : name = ".."
  · subst h
    rw [step_up]
    exact Nat.le_add_right_of_le (weight_dropLast_le l)
  · rw [step_of_ne h]
    simp

theorem weight_foldl_step_le (l : Location) (names : List String) :
    weight (names.foldl step l) ≤ weight l + weight names := by
  induction names generalizing l with
  | nil => simp
  | cons name names ih =>
    have hstep := weight_step_le l name
    have hrest := ih (l.step name)
    rw [List.foldl_cons, weight_cons]
    omega

/-- Joining names puts a slash before each but the first. -/
theorem utf8ByteSize_intercalate {l : Location} (h : l ≠ []) :
    ("/".intercalate l).utf8ByteSize + 1 = weight l := by
  induction l with
  | nil => exact absurd rfl h
  | cons name l ih =>
    cases l with
    | nil => simp
    | cons next l =>
      have hslash : "/".utf8ByteSize = 1 := by decide
      rw [String.intercalate_cons_cons, String.utf8ByteSize_append, String.utf8ByteSize_append,
        weight_cons, ← ih (by simp), hslash]
      omega

end Location

namespace Path

variable {p : Path} {cwd : Location}

/-- The length of a path that starts at the root. -/
theorem size_ofPath (h : p.isAbsolute = true) (hparts : p.parts ≠ []) :
    (Route.ofPath p).size
      = Location.weight p.parts + (if p.anchor = .doubleRoot then 1 else 0) := by
  have hone : "/".utf8ByteSize = 1 := by decide
  have htwo : "//".utf8ByteSize = 2 := by decide
  rw [← Location.utf8ByteSize_intercalate hparts]
  cases ha : p.anchor with
  | relative => simp [isAbsolute, ha] at h
  | root => simp [Route.ofPath, toText, ha, hone]; omega
  | doubleRoot => simp [Route.ofPath, toText, ha, htwo]; omega

/-- No path has an empty text. -/
theorem size_ne_zero (p : Path) : (Route.ofPath p).size ≠ 0 := by
  have hone : "/".utf8ByteSize = 1 := by decide
  have htwo : "//".utf8ByteSize = 2 := by decide
  have hdot : ".".utf8ByteSize = 1 := by decide
  cases ha : p.anchor with
  | relative =>
    cases hp : p.parts with
    | nil => simp [Route.ofPath, toText, ha, hp, hdot]
    | cons name rest =>
      have hname : name.utf8ByteSize ≠ 0 := fun hzero =>
        (p.isPart name (by simp [hp])).1 (String.utf8ByteSize_eq_zero_iff.1 hzero)
      have hjoined := Location.utf8ByteSize_intercalate (l := name :: rest) (by simp)
      rw [Location.weight_cons] at hjoined
      simp only [Route.ofPath, toText, ha, hp, List.isEmpty_cons, Bool.false_eq_true, if_false]
      omega
  | root => simp [Route.ofPath, toText, ha, hone]
  | doubleRoot => simp [Route.ofPath, toText, ha, htwo]

/-- Without parts a path that starts at the root is nothing but its slashes. -/
theorem size_of_nil (h : p.isAbsolute = true) (hparts : p.parts = []) :
    (Route.ofPath p).size = 1 + (if p.anchor = .doubleRoot then 1 else 0) := by
  have hone : "/".utf8ByteSize = 1 := by decide
  have htwo : "//".utf8ByteSize = 2 := by decide
  cases ha : p.anchor with
  | relative => simp [isAbsolute, ha] at h
  | root => simp [Route.ofPath, toText, ha, hparts, hone]
  | doubleRoot => simp [Route.ofPath, toText, ha, hparts, htwo]

theorem weight_le_size (h : p.isAbsolute = true) :
    Location.weight p.parts ≤ (Route.ofPath p).size := by
  by_cases hparts : p.parts = []
  · simp [hparts]
  · rw [size_ofPath h hparts]
    exact Nat.le_add_right _ _

/-- The place of a path is no further from the root than the path is long. -/
theorem weight_location_le (h : p.isAbsolute = true) :
    Location.weight (p.location cwd) ≤ (Route.ofPath p).size := by
  have hfold := Location.weight_foldl_step_le (p.origin cwd) p.parts
  have horigin : p.origin cwd = [] := if_pos h
  rw [horigin, Location.weight_nil, Nat.zero_add] at hfold
  rw [location, horigin]
  exact Nat.le_trans hfold (weight_le_size h)

end Path

/-- Where a walk from the root finds only the last name missing, something short can be created. -/
theorem Disk.short_of_missing {d : Disk} {cwd : Location} {p : Path} {parent : Location}
    {name : String} (habsolute : p.isAbsolute = true) (hp : p.Openable)
    (h : Leads d (p.origin cwd) p.parts (.missing parent name)) :
    Location.Short (parent ++ [name]) := by
  have hplace : parent ++ [name] = p.location cwd := h.place_eq
  refine ⟨fun last hlast => ?_, ?_⟩
  · obtain rfl : name = last := by simpa using hlast
    exact h.of_missing.2.2.1.2
  · rw [hplace]
    exact Nat.lt_of_le_of_lt (Path.weight_location_le habsolute) hp.notLong

/-! ## Long names -/

/-- A text that repeats one character. -/
@[irreducible] def repeated (c : Char) (n : Nat) : String := String.ofList (.replicate n c)

theorem toList_repeated (c : Char) (n : Nat) : (repeated c n).toList = List.replicate n c := by
  rw [repeated, String.toList_ofList]

theorem utf8ByteSize_repeated (c : Char) (n : Nat) :
    (repeated c n).utf8ByteSize = n * c.utf8Size := by
  have hnext : ∀ n, repeated c (n + 1) = (repeated c n).push c := fun n => by
    apply String.toList_injective
    rw [String.toList_push, toList_repeated, toList_repeated, List.replicate_succ']
  induction n with
  | zero =>
    rw [repeated, List.replicate_zero, String.ofList_nil, String.utf8ByteSize_empty, Nat.zero_mul]
  | succ n ih => rw [hnext, String.utf8ByteSize_push, ih, Nat.succ_mul]

theorem notMem_repeated {c c' : Char} (h : c ≠ c') (n : Nat) : c' ∉ (repeated c n).toList :=
  fun hmem => h (List.eq_of_mem_replicate (toList_repeated c n ▸ hmem)).symm

/-- Nothing but a slash or the null character keeps a text of three characters from being a name. -/
theorem Disk.isName_of_length {s : String} (hlength : 2 < s.toList.length)
    (hslash : '/' ∉ s.toList) (hnul : '\x00' ∉ s.toList) : IsName s := by
  have hne : ∀ t : String, t.toList.length ≤ 2 → s ≠ t := by
    rintro t ht rfl
    omega
  exact ⟨⟨hne _ (by decide), hne _ (by decide), hslash⟩, hne _ (by decide), hnul⟩

theorem Disk.isName_repeated {c : Char} {n : Nat} (hn : 2 < n) (hslash : c ≠ '/')
    (hnul : c ≠ '\x00') : IsName (repeated c n) :=
  isName_of_length (by rwa [toList_repeated, List.length_replicate])
    (notMem_repeated hslash n) (notMem_repeated hnul n)

end ContractBuild
