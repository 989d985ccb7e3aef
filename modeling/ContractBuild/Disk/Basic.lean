import ContractBuild.Path.Basic
import ContractBuild.Text.Utf8

/-!
# Disks

The file system as the program sees it through paths. A disk is a finite tree of named nodes, held
as the list of its nodes with their locations, in the order in which directories list them: what
the order of a listing may do to a scan is a question about this list and about nothing else.

The tree is well formed by construction, so no proof has to carry it as a hypothesis:

* `distinct`: no location is listed twice;
* `named`: the root is not listed, and every name is one that a directory can hold (`IsName`: not
  empty, not `.` or `..`, without slash and null character);
* `closed`: every node stands in the root or in a listed directory.

The two changes, `put` and `remove`, are total: a node that a location does not accept leaves the
disk as it is (`Accepts`). All that later modules need of them is what `get?` gives afterwards
(`get?_put`, `get?_remove`); nothing outside this file looks into `entries` to reason about a
change.

Where a disk is simpler than a real one:

* a file stands in one place. There are no hard links, so writing under one name never changes
  what another name holds, unless a symbolic link leads there;
* there are no owners, permissions or times, and nobody else changes the disk;
* of the devices there are the two that differ for a writer, `full` and `null`. They matter
  because a link, or a node made by an administrator, can put one under the name of an artifact.
-/

namespace ContractBuild

/-- The names on the way from the root to a node. -/
abbrev Location := List String

/-- The devices that differ for whoever writes to them. Reading from a device is not modelled. -/
inductive Device where
  /-- Accepts nothing. -/
  | full
  /-- Swallows everything. -/
  | null
  deriving DecidableEq, Repr

/-- What can stand under a name. A file holds its bytes, a link only the text of its target, which
is read anew whenever the link is followed. -/
inductive Node where
  | file (content : Bytes)
  | folder
  /-- A symbolic link. -/
  | link (target : String)
  | device (d : Device)
  deriving DecidableEq, Repr

/-- A name that a directory entry can have: a part of a path, which is never empty, never `.` and
without slash, that is not `..` either and has no null character. -/
def Disk.IsName (s : String) : Prop := Path.IsPart s ∧ s ≠ ".." ∧ '\x00' ∉ s.toList

instance (s : String) : Decidable (Disk.IsName s) := by
  unfold Disk.IsName; infer_instance

/-- A finite tree of nodes, well formed by construction. The order of `entries` is the order in
which directories list what they hold; equality of disks takes it into account. -/
structure Disk where
  entries : List (Location × Node)
  /-- No location occurs twice. -/
  distinct : (entries.map Prod.fst).Nodup
  /-- The root is not listed, and every name is valid. -/
  named : ∀ e ∈ entries, e.1 ≠ [] ∧ ∀ s ∈ e.1, Disk.IsName s
  /-- Every node stands in the root or in a directory. -/
  closed : ∀ e ∈ entries, e.1.dropLast = [] ∨ (e.1.dropLast, Node.folder) ∈ entries

namespace Disk

@[ext] theorem ext {d e : Disk} (h : d.entries = e.entries) : d = e := by
  cases d; cases e; simp_all

instance : DecidableEq Disk := fun d e =>
  if h : d.entries = e.entries then isTrue (ext h) else isFalse fun he => h (by rw [he])

/-- A disk with nothing but its root. -/
def empty : Disk := ⟨[], by simp, by simp, by simp⟩

instance : Inhabited Disk := ⟨empty⟩

/-- The node at a location. The root is not listed among the entries and is always a directory. -/
def get? (d : Disk) (l : Location) : Option Node :=
  if l = [] then some .folder else d.entries.lookup l

@[simp] theorem get?_nil (d : Disk) : d.get? [] = some .folder := rfl

/-! ## Finding in a list of nodes -/

/-- Where locations are distinct, a node is found exactly where it is listed. -/
theorem lookup_eq_some_iff {es : List (Location × Node)} (h : (es.map Prod.fst).Nodup)
    {l : Location} {n : Node} : es.lookup l = some n ↔ (l, n) ∈ es := by
  induction es with
  | nil => simp
  | cons e es ih =>
    obtain ⟨k, m⟩ := e
    rw [List.map_cons, List.nodup_cons] at h
    rw [List.lookup_cons]
    by_cases hk : l = k
    · subst hk
      simp only [beq_self_eq_true, List.mem_cons, Prod.mk.injEq, true_and]
      constructor
      · rintro ⟨rfl⟩; exact .inl rfl
      · rintro (rfl | hm)
        · rfl
        · exact absurd (List.mem_map_of_mem hm) h.1
    · rw [beq_eq_false_iff_ne.2 hk]
      simp only [List.mem_cons, Prod.mk.injEq, hk, false_and, false_or]
      exact ih h.2

theorem lookup_filter {es : List (Location × Node)} (p : Location → Bool) (l : Location) :
    (es.filter fun e => p e.1).lookup l = if p l then es.lookup l else none := by
  induction es with
  | nil => simp
  | cons e es ih =>
    obtain ⟨k, m⟩ := e
    rw [List.filter_cons]
    by_cases hk : l = k
    · subst hk
      by_cases hp : p l = true
      · simp [hp]
      · simp only [hp, Bool.false_eq_true, if_false, ih]
    · have hne := beq_eq_false_iff_ne.2 hk
      by_cases hp : p k = true
      · simp only [hp, if_true, List.lookup_cons, hne, ih]
      · simp only [hp, Bool.false_eq_true, if_false, List.lookup_cons, hne, ih]

theorem get?_eq_some_iff {d : Disk} {l : Location} (hl : l ≠ []) {n : Node} :
    d.get? l = some n ↔ (l, n) ∈ d.entries := by
  rw [get?, if_neg hl, lookup_eq_some_iff d.distinct]

/-- Whatever is on the disk stands in a directory. -/
theorem get?_dropLast {d : Disk} {l : Location} {n : Node} (h : d.get? l = some n) :
    d.get? l.dropLast = some .folder := by
  by_cases hl : l = []
  · subst hl; rfl
  · rcases d.closed _ ((get?_eq_some_iff hl).1 h) with hp | hp
    · simp only at hp; rw [hp]; rfl
    · by_cases hd : l.dropLast = []
      · rw [hd]; rfl
      · exact (get?_eq_some_iff hd).2 hp

/-! ## Putting a node -/

/-- Replaces the node of a location, or adds it at the end. -/
def setEntry (l : Location) (n : Node) : List (Location × Node) → List (Location × Node)
  | [] => [(l, n)]
  | e :: es => if e.1 = l then (l, n) :: es else e :: setEntry l n es

theorem mem_setEntry {l : Location} {n : Node} {e : Location × Node} :
    ∀ {es : List (Location × Node)}, e ∈ setEntry l n es → e = (l, n) ∨ e ∈ es
  | [], h => .inl (by simpa [setEntry] using h)
  | e' :: es, h => by
    unfold setEntry at h
    split at h
    · exact (List.mem_cons.1 h).imp_right (List.mem_cons_of_mem _)
    · rcases List.mem_cons.1 h with rfl | h
      · exact .inr (List.mem_cons_self ..)
      · exact (mem_setEntry h).imp_right (List.mem_cons_of_mem _)

theorem mem_setEntry_of_ne {l : Location} {n : Node} {e : Location × Node}
    {es : List (Location × Node)} (h : e ∈ es) (hne : e.1 ≠ l) : e ∈ setEntry l n es := by
  induction es with
  | nil => simp at h
  | cons e' es ih =>
    unfold setEntry
    rcases List.mem_cons.1 h with rfl | h
    · rw [if_neg hne]; exact List.mem_cons_self ..
    · split
      · exact List.mem_cons_of_mem _ h
      · exact List.mem_cons_of_mem _ (ih h)

theorem map_fst_setEntry (l : Location) (n : Node) (es : List (Location × Node)) :
    (setEntry l n es).map Prod.fst
      = if l ∈ es.map Prod.fst then es.map Prod.fst else es.map Prod.fst ++ [l] := by
  induction es with
  | nil => simp [setEntry]
  | cons e es ih =>
    unfold setEntry
    by_cases h : e.1 = l
    · simp [h]
    · have h' : l ≠ e.1 := fun hl => h hl.symm
      simp only [if_neg h, List.map_cons, ih, List.mem_cons, h', false_or]
      split <;> simp

theorem lookup_setEntry (l : Location) (n : Node) (es : List (Location × Node)) (k : Location) :
    (setEntry l n es).lookup k = if k = l then some n else es.lookup k := by
  induction es with
  | nil =>
    by_cases h : k = l
    · simp [setEntry, h]
    · simp [setEntry, List.lookup_cons, beq_eq_false_iff_ne.2 h, h]
  | cons e es ih =>
    obtain ⟨j, m⟩ := e
    unfold setEntry
    by_cases hj : j = l
    · subst hj
      by_cases hk : k = j
      · simp [hk]
      · simp [List.lookup_cons, beq_eq_false_iff_ne.2 hk, hk]
    · simp only [if_neg hj, List.lookup_cons]
      by_cases hk : k = j
      · subst hk; simp [hj]
      · simp [beq_eq_false_iff_ne.2 hk, ih]

/-- Whether a node can be put at a location: the names are valid, the place is in a directory, and
no directory is replaced. -/
def Accepts (d : Disk) (l : Location) : Prop :=
  l ≠ [] ∧ (∀ s ∈ l, IsName s) ∧ d.get? l.dropLast = some .folder ∧ d.get? l ≠ some .folder

instance (d : Disk) (l : Location) : Decidable (d.Accepts l) := by
  unfold Accepts; infer_instance

/-- Puts a node at a location that accepts one; otherwise the disk stays as it is. A node that stood
there before is replaced in its place in the order, a new one comes last. -/
def put (d : Disk) (l : Location) (n : Node) : Disk :=
  if h : d.Accepts l then
    { entries := setEntry l n d.entries
      distinct := by
        rw [map_fst_setEntry]
        split
        · exact d.distinct
        · next hn =>
          rw [List.nodup_append]
          exact ⟨d.distinct, by simp, fun a ha b hb hab => hn (by
            rw [← List.mem_singleton.1 hb, ← hab]; exact ha)⟩
      named := fun e he => by
        rcases mem_setEntry he with rfl | he
        · exact ⟨h.1, h.2.1⟩
        · exact d.named e he
      closed := by
        have keep : ∀ p : Location, p = [] ∨ (p, Node.folder) ∈ d.entries →
            p = [] ∨ (p, Node.folder) ∈ setEntry l n d.entries := by
          intro p hp
          rcases hp with hp | hp
          · exact .inl hp
          · refine .inr (mem_setEntry_of_ne hp fun hpl => ?_)
            subst hpl
            exact h.2.2.2 ((get?_eq_some_iff h.1).2 hp)
        intro e he
        rcases mem_setEntry he with rfl | he
        · refine keep _ ?_
          by_cases hd : l.dropLast = []
          · exact .inl hd
          · exact .inr ((get?_eq_some_iff hd).1 h.2.2.1)
        · exact keep _ (d.closed e he) }
  else d

/-- A put node is there, and every other location is as before. -/
theorem get?_put {d : Disk} {l : Location} {n : Node} (h : d.Accepts l) (k : Location) :
    (d.put l n).get? k = if k = l then some n else d.get? k := by
  rw [put, dif_pos h]
  by_cases hk : k = []
  · subst hk
    rw [if_neg (Ne.symm h.1)]; rfl
  · simp only [get?, if_neg hk, lookup_setEntry]

/-! ## Removing a node -/

/-- Removes the node of a location and all below it, so that no node is left without a directory.
The root cannot be removed: the disk is empty then, but has a root. -/
def remove (d : Disk) (l : Location) : Disk where
  entries := d.entries.filter fun e => !l.isPrefixOf e.1
  distinct := List.Nodup.sublist (List.filter_sublist.map _) d.distinct
  named e he := d.named e (List.mem_filter.1 he).1
  closed e he := by
    obtain ⟨he, hl⟩ := List.mem_filter.1 he
    rcases d.closed e he with hp | hp
    · exact .inl hp
    · refine .inr (List.mem_filter.2 ⟨hp, ?_⟩)
      simp only [Bool.not_eq_true', Bool.eq_false_iff, ne_eq, List.isPrefixOf_iff_prefix] at hl ⊢
      exact fun hlp => hl (hlp.trans (List.dropLast_prefix _))

/-- Nothing is left at or below a removed location, and all else is as before. -/
theorem get?_remove {d : Disk} {l : Location} (hl : l ≠ []) (k : Location) :
    (d.remove l).get? k = if l <+: k then none else d.get? k := by
  by_cases hk : k = []
  · subst hk
    rw [if_neg (by simpa using hl)]; rfl
  · rw [get?, if_neg hk, get?, if_neg hk]
    simp only [remove]
    rw [lookup_filter (fun k => !l.isPrefixOf k)]
    by_cases hp : l <+: k
    · rw [if_pos hp, if_neg (by simpa using List.isPrefixOf_iff_prefix.2 hp)]
    · rw [if_neg hp, if_pos]
      simpa [Bool.eq_false_iff, List.isPrefixOf_iff_prefix] using hp

/-! ## Listing -/

/-- The names in the directory at a location, in the order of the disk. Where there is no directory
there are none. -/
def namesIn (d : Disk) (l : Location) : List String :=
  d.entries.filterMap fun e => if e.1.dropLast = l then e.1.getLast? else none

end Disk

end ContractBuild
