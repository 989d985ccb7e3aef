import ContractBuild.Disk.Access
import ContractBuild.Failure.Basic

/-!
# Where walks lead

A walk that meets no symbolic link goes where the text of its path says: every name leads one
directory down and every `..` one up. `Path.location` is that place, computed from the path alone,
and `walk_place` says that on a disk without links every walk that arrives arrives there.

`Leads` is the walk as a relation, with one rule for each thing that a step can meet. On a disk
without links it is the walk of the operating system (`walk_eq_ok_iff`), and the facts about walks
are inductions over its rules. Such a walk depends on the disk only in the directories on its way,
so it arrives at the same place after every change that keeps them (`Leads.mono`).
-/

namespace ContractBuild

/-- Where one step leads from a location. -/
def Location.step (l : Location) (name : String) : Location :=
  if name = ".." then l.dropLast else l ++ [name]

/-- Where the walk of a path starts. -/
def Path.origin (p : Path) (cwd : Location) : Location := if p.isAbsolute then [] else cwd

/-- Where the parts of a path lead from the working directory `cwd` if no links are met. -/
def Path.location (p : Path) (cwd : Location) : Location :=
  p.parts.foldl Location.step (p.origin cwd)

namespace Location

@[simp] theorem step_up (l : Location) : step l ".." = l.dropLast := if_pos rfl

theorem step_of_ne {name : String} (h : name ≠ "..") (l : Location) : step l name = l ++ [name] :=
  if_neg h

end Location

/-- A path that the operating system takes: it has no null character, and it is not too long. -/
structure Path.Openable (p : Path) : Prop where
  noNul : (Route.ofPath p).hasNul = false
  notEmpty : (Route.ofPath p).size ≠ 0
  notLong : (Route.ofPath p).size < Disk.maxPath

theorem Path.dot_notMem_parts (p : Path) : "." ∉ p.parts := fun h => (p.isPart _ h).2.1 rfl

/-- Whether a node is a symbolic link. -/
def Node.isLink : Node → Bool
  | link _ => true
  | _ => false

namespace Disk

/-- The place in which a walk ends, whether or not anything stands there. -/
def Arrival.place : Arrival → Location
  | reached l => l
  | missing parent name => parent ++ [name]

/-- A disk without symbolic links. -/
def LinkFree (d : Disk) : Prop := ∀ l target, d.get? l ≠ some (.link target)

/-- Every directory of `d` is one of `e` as well. -/
def FoldersKept (d e : Disk) : Prop := ∀ l, d.get? l = some .folder → e.get? l = some .folder

/-- A name that a step can take down into a directory. -/
def IsStep (name : String) : Prop := name ≠ ".." ∧ name.utf8ByteSize ≤ maxName

/-- Where steps lead from a location if no symbolic link has to be followed. -/
inductive Leads (d : Disk) : Location → List String → Arrival → Prop
  | here (start : Location) : Leads d start [] (.reached start)
  | up {start : Location} {rest : List String} {a : Arrival} :
      Leads d start.dropLast rest a → Leads d start (".." :: rest) a
  | down {start : Location} {name : String} {rest : List String} {a : Arrival} :
      IsStep name → d.get? start = some .folder → d.get? (start ++ [name]) = some .folder →
      Leads d (start ++ [name]) rest a → Leads d start (name :: rest) a
  | leaf {start : Location} {name : String} {n : Node} :
      IsStep name → d.get? start = some .folder → d.get? (start ++ [name]) = some n →
      n ≠ .folder → Leads d start [name] (.reached (start ++ [name]))
  | absent {start : Location} {name : String} :
      IsStep name → d.get? start = some .folder → d.get? (start ++ [name]) = none →
      Leads d start [name] (.missing start name)

variable {d e : Disk} {last : LastLink} {start : Location} {steps : List String} {a : Arrival}

/-- A disk has no links if none is listed. -/
theorem linkFree_iff : d.LinkFree ↔ ∀ e ∈ d.entries, e.2.isLink = false := by
  constructor
  · intro hd e he
    have hget : d.get? e.1 = some e.2 := (get?_eq_some_iff (d.named e he).1).2 he
    cases hn : e.2 with
    | link target => exact absurd (hn ▸ hget) (hd _ _)
    | _ => rfl
  · intro hd l target hl
    have hroot : l ≠ [] := by
      rintro rfl
      simp at hl
    exact absurd (hd _ ((get?_eq_some_iff hroot).1 hl)) (by simp [Node.isLink])

instance (d : Disk) : Decidable d.LinkFree := decidable_of_iff _ linkFree_iff.symm

/-! ## The relation and the walk -/

/-- How a walk takes a step down, once the step is known to be one. -/
theorem advance_cons {name : String} (hdot : name ≠ ".") (hstep : IsStep name)
    (hstart : d.get? start = some .folder) (rest : List String) :
    d.advance last start (name :: rest) =
      match d.get? (start ++ [name]) with
      | none => if rest.isEmpty then .arrived (.missing start name) else .refused .noEntry
      | some .folder => d.advance last (start ++ [name]) rest
      | some (.link target) =>
        if rest.isEmpty && last = .keep then .arrived (.reached (start ++ [name]))
        else .detour start target rest
      | some (.file _) | some (.device _) =>
        if rest.isEmpty then .arrived (.reached (start ++ [name])) else .refused .notDirectory := by
  have hlen : ¬ maxName < name.utf8ByteSize := Nat.not_lt.2 hstep.2
  rw [advance]
  exact (if_neg hdot).trans ((if_neg hstep.1).trans
    ((if_neg (not_not_intro hstart)).trans (if_neg hlen)))

/-- A walk that arrives goes where the rules lead; a step `.` stays where it is. -/
theorem leads_filter_of_advance (h : d.advance last start steps = .arrived a) :
    Leads d start (steps.filter fun s => decide (s ≠ ".")) a := by
  induction steps generalizing start with
  | nil =>
    simp only [advance, Progress.arrived.injEq] at h
    exact h ▸ Leads.here start
  | cons name rest ih =>
    by_cases hdot : name = "."
    · rw [advance, if_pos hdot] at h
      rw [List.filter_cons_of_neg (by simpa using hdot)]
      exact ih h
    rw [List.filter_cons_of_pos (by simpa using hdot)]
    -- every check that the step passes is a premise of the rule for it
    by_cases hup : name = ".."
    · subst hup
      rw [advance, if_neg (by decide), if_pos rfl] at h
      exact Leads.up (ih h)
    · have hstart : d.get? start = some .folder := by
        refine Decidable.byContradiction fun hn => ?_
        simp [advance, hdot, hup, hn] at h
      have hstep : IsStep name := by
        refine ⟨hup, Nat.le_of_not_lt fun hlong => ?_⟩
        simp [advance, hdot, hup, hstart, hlong] at h
      rw [advance_cons hdot hstep hstart] at h
      -- only a directory lets the walk go on; anything else must be its end
      have hend : ∀ {x y : Progress},
          (if rest.isEmpty then x else y) = .arrived a → (∀ b, y ≠ .arrived b) →
            rest = [] ∧ x = .arrived a := by
        intro x y hxy hy
        cases rest with
        | nil => exact ⟨rfl, hxy⟩
        | cons _ _ => exact absurd hxy (hy a)
      cases hnext : d.get? (start ++ [name]) with
      | none =>
        rw [hnext] at h
        obtain ⟨rfl, ha⟩ := hend h (by simp)
        exact Progress.arrived.inj ha ▸ Leads.absent hstep hstart hnext
      | some n =>
        rw [hnext] at h
        cases n with
        | folder => exact Leads.down hstep hstart hnext (ih h)
        | link target =>
          simp only at h
          split at h
          next hlast =>
            obtain ⟨hrest, -⟩ := Bool.and_eq_true_iff.1 hlast
            obtain rfl := List.isEmpty_iff.1 hrest
            exact Progress.arrived.inj h ▸ Leads.leaf hstep hstart hnext (by simp)
          next => simp at h
        | file b =>
          obtain ⟨rfl, ha⟩ := hend h (by simp)
          exact Progress.arrived.inj ha ▸ Leads.leaf hstep hstart hnext (by simp)
        | device v =>
          obtain ⟨rfl, ha⟩ := hend h (by simp)
          exact Progress.arrived.inj ha ▸ Leads.leaf hstep hstart hnext (by simp)

theorem leads_of_advance (h : d.advance last start steps = .arrived a) (hdot : "." ∉ steps) :
    Leads d start steps a := by
  have hkept : steps.filter (fun s => decide (s ≠ ".")) = steps :=
    List.filter_eq_self.2 fun s hs => by simpa using fun he : s = "." => hdot (he ▸ hs)
  have hleads := leads_filter_of_advance h
  rwa [hkept] at hleads

theorem advance_of_leads (hd : d.LinkFree) (h : Leads d start steps a) (hdot : "." ∉ steps) :
    d.advance last start steps = .arrived a := by
  induction h with
  | here => rfl
  | up _ ih =>
    rw [List.mem_cons, not_or] at hdot
    rw [advance, if_neg (by decide), if_pos rfl]
    exact ih hdot.2
  | down hstep hstart hnext _ ih =>
    rw [List.mem_cons, not_or] at hdot
    rw [advance_cons (Ne.symm hdot.1) hstep hstart, hnext]
    exact ih hdot.2
  | @leaf start name n hstep hstart hnext hn =>
    rw [advance_cons (fun he => hdot (by simp [he])) hstep hstart, hnext]
    cases n with
    | folder => exact absurd rfl hn
    | link target => exact absurd hnext (hd _ _)
    | file _ => rfl
    | device _ => rfl
  | absent hstep hstart hnext =>
    rw [advance_cons (fun he => hdot (by simp [he])) hstep hstart, hnext]
    rfl

/-- Without links a walk never has to leave its path. -/
theorem advance_ne_detour (hd : d.LinkFree) {at' : Location} {target : String}
    {rest : List String} : d.advance last start steps ≠ .detour at' target rest := by
  fun_induction advance d last start steps with
  | case10 => next hlink _ => exact absurd hlink (hd _ _)
  | _ => simp_all

theorem follow_of_arrived {links : Nat} (h : d.advance last start steps = .arrived a) :
    d.follow last links start steps = .ok a := by
  rw [follow.eq_def, h]

theorem follow_of_refused {links : Nat} {e : Errno}
    (h : d.advance last start steps = .refused e) :
    d.follow last links start steps = .error e := by
  rw [follow.eq_def, h]

theorem follow_of_detour {links : Nat} {at' : Location} {target : String} {rest : List String}
    (h : d.advance .follow start steps = .detour at' target rest) :
    d.follow .follow (links + 1) start steps = d.follow .follow links
      (if (Route.ofText target).rooted then [] else at')
      ((Route.ofText target).allSteps ++ rest) := by
  rw [follow.eq_def, h]
  rfl

/-- Induction along the links that a walk follows before it arrives. -/
theorem follow_induction {motive : Nat → Location → List String → Prop} {links : Nat}
    {start : Location} {steps : List String} (h : d.follow last links start steps = .ok a)
    (arrived : ∀ links start steps, d.advance last start steps = .arrived a →
      motive links start steps)
    (detour : ∀ links start steps at' target rest,
      d.advance last start steps = .detour at' target rest →
      motive links (if (Route.ofText target).rooted then [] else at')
        ((Route.ofText target).allSteps ++ rest) →
      motive (links + 1) start steps) : motive links start steps := by
  rw [follow.eq_def] at h
  cases hadvance : d.advance last start steps with
  | arrived b =>
    obtain rfl : b = a := by simpa [hadvance] using h
    exact arrived links start steps hadvance
  | refused e => simp [hadvance] at h
  | detour at' target rest =>
    rw [hadvance] at h
    cases links with
    | zero => simp at h
    | succ links =>
      refine detour links start steps at' target rest hadvance ?_
      simp only at h
      split at h
      next =>
        -- a file is never created under a name with a slash at its end
        split at h <;> simp at h
      next => exact follow_induction h arrived detour
termination_by links

theorem follow_eq_ok_iff (hd : d.LinkFree) {links : Nat} :
    d.follow last links start steps = .ok a ↔ d.advance last start steps = .arrived a := by
  rw [follow.eq_def]
  cases h : d.advance last start steps with
  | arrived b => simp
  | refused e => simp
  | detour at' target rest => exact absurd h (advance_ne_detour hd)

/-- What the operating system takes it walks step by step. -/
theorem walk_of_openable {cwd : Location} {p : Path} (hp : p.Openable) :
    d.walk last cwd (.ofPath p)
      = (d.follow last maxLinks (p.origin cwd) p.parts).mapError .errno := by
  have hsteps : (Route.ofPath p).allSteps = p.parts := rfl
  have horigin : (if (Route.ofPath p).rooted then [] else cwd) = p.origin cwd := rfl
  rw [walk, hp.noNul, if_neg (by decide), if_neg hp.notEmpty, if_neg (Nat.not_le.2 hp.notLong),
    hsteps, horigin]
  cases d.follow last maxLinks (p.origin cwd) p.parts <;> rfl

/-- The tests before the first step are the three parts of being openable. -/
theorem openable_of_walk {cwd : Location} {p : Path} (h : d.walk last cwd (.ofPath p) = .ok a) :
    p.Openable := by
  unfold walk at h
  split at h
  next => simp at h
  next hnul =>
    split at h
    next => simp at h
    next hempty =>
      split at h
      next => simp at h
      next hlong => exact ⟨by simpa using hnul, hempty, Nat.lt_of_not_le hlong⟩

/-- A walk that arrives is one of a path that can be opened. -/
theorem walk_eq_ok_iff_follow {cwd : Location} {p : Path} :
    d.walk last cwd (.ofPath p) = .ok a ↔
      p.Openable ∧ d.follow last maxLinks (p.origin cwd) p.parts = .ok a := by
  constructor
  · intro h
    have hp := openable_of_walk h
    rw [walk_of_openable hp] at h
    exact ⟨hp, mapError_eq_ok_iff.1 h⟩
  · rintro ⟨hp, h⟩
    rw [walk_of_openable hp]
    exact mapError_eq_ok_iff.2 h

/-- On a disk without links the operating system walks a path exactly as the rules lead. -/
theorem walk_eq_ok_iff (hd : d.LinkFree) {cwd : Location} {p : Path} :
    d.walk last cwd (.ofPath p) = .ok a ↔ p.Openable ∧ Leads d (p.origin cwd) p.parts a := by
  rw [walk_eq_ok_iff_follow, follow_eq_ok_iff hd]
  exact and_congr_right fun _ => ⟨fun h => leads_of_advance h p.dot_notMem_parts,
    fun h => advance_of_leads hd h p.dot_notMem_parts⟩

/-! ## Where the rules lead -/

theorem Leads.place_eq (h : Leads d start steps a) :
    a.place = steps.foldl Location.step start := by
  induction h with
  | here => rfl
  | up _ ih => simpa using ih
  | down hstep _ _ _ ih => simpa [Location.step_of_ne hstep.1] using ih
  | leaf hstep => simp [Arrival.place, Location.step_of_ne hstep.1]
  | absent hstep => simp [Arrival.place, Location.step_of_ne hstep.1]

/-- A walk that arrives arrives at the place that its path names. -/
theorem walk_place (hd : d.LinkFree) {cwd : Location} {p : Path}
    (h : d.walk last cwd (.ofPath p) = .ok a) : a.place = p.location cwd :=
  ((walk_eq_ok_iff hd).1 h).2.place_eq

/-- Where only the last name is missing, the directory for it exists, and nothing has the name. -/
theorem Leads.of_missing {parent : Location} {name : String}
    (h : Leads d start steps (.missing parent name)) :
    d.get? parent = some .folder ∧ d.get? (parent ++ [name]) = none ∧ IsStep name
      ∧ name ∈ steps := by
  generalize ha : Arrival.missing parent name = a at h
  induction h with
  | here => simp at ha
  | up _ ih =>
    obtain ⟨hp, hn, hs, hm⟩ := ih ha
    exact ⟨hp, hn, hs, List.mem_cons_of_mem _ hm⟩
  | down _ _ _ _ ih =>
    obtain ⟨hp, hn, hs, hm⟩ := ih ha
    exact ⟨hp, hn, hs, List.mem_cons_of_mem _ hm⟩
  | leaf => simp at ha
  | absent hstep hstart hnext =>
    obtain ⟨rfl, rfl⟩ := by simpa using ha
    exact ⟨hstart, hnext, hstep, List.mem_cons_self ..⟩

/-- A walk that ends where something stands reaches it. -/
theorem Leads.reached_of_exists (h : Leads d start steps a) (hplace : d.get? a.place ≠ none) :
    Leads d start steps (.reached a.place) := by
  cases a with
  | reached l => exact h
  | missing parent name => exact absurd h.of_missing.2.1 hplace

/-- Whatever a walk from an existing place reaches exists. -/
theorem Leads.exists_of_reached {l : Location} (h : Leads d start steps (.reached l))
    (hstart : d.get? start ≠ none) : d.get? l ≠ none := by
  generalize ha : Arrival.reached l = a at h
  induction h with
  | here =>
    obtain rfl := Arrival.reached.inj ha
    exact hstart
  | @up start _ _ _ ih =>
    obtain ⟨n, hn⟩ := Option.ne_none_iff_exists'.1 hstart
    exact ih (by simp [get?_dropLast hn]) ha
  | down _ _ hnext _ ih => exact ih (by simp [hnext]) ha
  | leaf _ _ hnext =>
    obtain rfl := Arrival.reached.inj ha
    simp [hnext]
  | absent => simp at ha

/-- One step down from a directory always arrives. -/
theorem exists_leads_single {name : String} (hstep : IsStep name)
    (hstart : d.get? start = some .folder) : ∃ a, Leads d start [name] a := by
  cases hnext : d.get? (start ++ [name]) with
  | none => exact ⟨_, .absent hstep hstart hnext⟩
  | some n =>
    by_cases hn : n = .folder
    · exact ⟨_, .down hstep hstart (hn ▸ hnext) (.here _)⟩
    · exact ⟨_, .leaf hstep hstart hnext hn⟩

/-- A walk that arrives still arrives after any change that keeps the directories. -/
theorem Leads.mono (hkept : FoldersKept d e) (h : Leads d start steps a) :
    ∃ b, Leads e start steps b := by
  induction h with
  | here start => exact ⟨_, .here start⟩
  | up _ ih =>
    obtain ⟨b, hb⟩ := ih
    exact ⟨b, .up hb⟩
  | down hstep hstart hnext _ ih =>
    obtain ⟨b, hb⟩ := ih
    exact ⟨b, .down hstep (hkept _ hstart) (hkept _ hnext) hb⟩
  | leaf hstep hstart => exact exists_leads_single hstep (hkept _ hstart)
  | absent hstep hstart => exact exists_leads_single hstep (hkept _ hstart)

end Disk

end ContractBuild
