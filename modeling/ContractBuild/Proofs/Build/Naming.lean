import ContractBuild.Compilation
import ContractBuild.Proofs.Sources.Failures

/-!
# The name of the contract

What inputs resolve to names the contract if neither the engine nor the options do: a project
descriptor has a stem (`Path.stem_ne_empty`), and a folder without a name stands for a name of its
own. So there is always a name, and the first one that is given counts
(`Compilation.effectiveName_ofOption`).
-/

namespace ContractBuild

/-- A file that has a suffix has a stem as well. -/
theorem Path.stem_ne_empty {p : Path} {suffix : String} (h : p.hasSuffix suffix = true)
    (hsuffix : suffix ≠ "") : p.stem ≠ "" := by
  have hlower : Text.lowerCase (splitName p.name.toList).2 = suffix.toList := of_decide_eq_true h
  intro hstem
  have hnil : (splitName p.name.toList).1 = [] := by simpa [stem] using hstem
  simp only [splitName] at hlower hnil
  split at hlower
  next hsplit =>
    rw [if_pos hsplit] at hnil
    exact hsplit.2.2 hnil
  next => exact hsuffix (String.toList_injective (hlower.symm.trans rfl))

namespace Sources

variable {host : Host} {disk : Disk} {paths : List String} {cwd : Option String} {t t' : Trail}

theorem hasSuffix_of_classify {p : Path}
    (h : classify host disk paths cwd = .ok (.target (.project p))) :
    p.hasSuffix projectSuffix = true := by
  have hfiles : ∀ q qs, fileList host disk q qs ≠ .ok (.target (.project p)) := by
    intro q qs h
    obtain ⟨-, -, h⟩ := bind_eq_ok_iff.1 h
    simp [pure, Except.pure] at h
  obtain ⟨base, -, h⟩ := bind_eq_ok_iff.1 h
  obtain ⟨ps, -, h⟩ := bind_eq_ok_iff.1 h
  unfold classifyAbsolute at h
  split at h
  next => simp at h
  next q =>
    obtain ⟨found, hsingle, h⟩ := bind_eq_ok_iff.1 h
    cases found with
    | none => exact absurd h (hfiles _ _)
    | some request =>
      obtain rfl := Except.ok.inj h
      rw [single?_eq] at hsingle
      split at hsingle
      next => simp at hsingle
      next => simp at hsingle
      next =>
        split at hsingle
        next => simp at hsingle
        next =>
          obtain ⟨hproject, hq⟩ := Option.ite_none_right_eq_some.1 (Except.ok.inj hsingle)
          obtain rfl : q = p := by simpa using hq
          exact (Bool.and_eq_true_iff.1 hproject).2
  next => exact absurd h (hfiles _ _)

theorem hasSuffix_of_mem_projectsIn {directory p : Path} {ps : List Path}
    (h : projectsIn host disk directory = .ok ps) (hp : p ∈ ps) :
    p.hasSuffix projectSuffix = true := by
  obtain ⟨names, -, h⟩ := bind_eq_ok_iff.1 h
  obtain ⟨files, -, h⟩ := bind_eq_ok_iff.1 h
  obtain rfl := Except.ok.inj h
  exact (List.mem_filter.1 ((List.mergeSort_perm ..).mem_iff.1 hp)).2

/-- A project that inputs resolve to is named like one. -/
theorem hasSuffix_of_resolve {p : Path}
    (h : (resolve host disk paths cwd).runFrom t = (.ok (.project p), t')) :
    p.hasSuffix projectSuffix = true := by
  rw [runFrom_resolve] at h
  split at h
  next => simp at h
  next hclassify =>
    obtain rfl := Except.ok.inj (congrArg Prod.fst h)
    exact hasSuffix_of_classify hclassify
  next =>
    split at h
    next => simp at h
    next hscan =>
      obtain rfl := Except.ok.inj (congrArg Prod.fst h)
      obtain ⟨ps, t₁, hps, hscan⟩ := Attempt.runFrom_bind_eq_ok_iff.1 hscan
      have hprojects := congrArg Prod.fst hps
      cases ps with
      | nil =>
        simp only at hscan
        split at hscan
        next => simp at hscan
        next => simp at hscan
      | cons q ps =>
        have htarget : Target.project q = .project p := by
          simp only at hscan
          split at hscan <;> exact Except.ok.inj (congrArg Prod.fst hscan)
        obtain rfl := Target.project.inj htarget
        exact hasSuffix_of_mem_projectsIn hprojects (List.mem_cons_self ..)

/-- What inputs resolve to has a name, even if neither the engine nor the options give one. -/
theorem defaultName_of_resolve {target : Target}
    (h : (resolve host disk paths cwd).runFrom t = (.ok target, t')) :
    (Mode.target target).defaultName ≠ "" := by
  cases target with
  | project p => exact Path.stem_ne_empty (hasSuffix_of_resolve h) (by decide)
  | sources files =>
    simp only [Mode.defaultName]
    split
    next => decide
    next hnamed => exact hnamed

end Sources

/-! ## The first name that is given -/

open Text (Raw)

/-- The first of some texts that is there and not empty. -/
def firstGiven (candidates : List (Option Raw)) : Option Raw := candidates.findSome? Raw.given

theorem firstGiven_cons (c : Option Raw) (cs : List (Option Raw)) :
    firstGiven (c :: cs) = (Raw.given c <|> firstGiven cs) := by
  rw [firstGiven, List.findSome?_cons]
  cases Raw.given c <;> rfl

namespace Text.Raw

theorem ne_empty_of_given {c : Option Raw} {name : Raw} (h : given c = some name) :
    name ≠ .sound "" := by
  simpa using (Option.filter_eq_some_iff.1 h).2

theorem given_some {name : Raw} (h : name ≠ .sound "") : given (some name) = some name :=
  Option.filter_eq_some_iff.2 ⟨rfl, by simpa using h⟩

end Text.Raw

/-- A text counts as yes if it is given and not empty. -/
theorem Value.isYes_ofOption (c : Option Raw) : (ofOption c).isYes = (Raw.given c).isSome := by
  cases c with
  | none => rfl
  | some name =>
    cases name with
    | loose t => rfl
    | sound name =>
      by_cases hname : name = "" <;>
        simp [ofOption, ofRaw, isYes, Document.isYes, Raw.given, Option.filter, hname]

/-- What names the contract if neither the engine nor the options do: the stem of the descriptor, or
the name of the folder, or the name of sources that nothing else names. -/
def Target.ownNames : Target → List (Option Raw)
  | .project p => [some p.stem]
  | .sources s => [some s.folder.name, some Mode.inlineName]

theorem Target.firstGiven_ownNames {target : Target} (h : (Mode.target target).defaultName ≠ "") :
    firstGiven target.ownNames = some (.sound (Mode.target target).defaultName) := by
  cases target with
  | project p =>
    have hstem : Raw.sound p.stem ≠ .sound "" := fun he => h (Raw.sound.inj he)
    rw [ownNames, firstGiven_cons, Raw.given_some hstem]
    rfl
  | sources s =>
    rw [ownNames, firstGiven_cons, Mode.defaultName]
    split
    next hempty => rw [hempty]; rfl
    next hname => rw [Raw.given_some fun he => hname (Raw.sound.inj he)]; rfl

namespace Compilation

variable {target : Target}

/-- The first name that is given is the one under which artifacts are written. -/
theorem effectiveName_ofOption (h : (Mode.target target).defaultName ≠ "") (given : Option Raw)
    (options : Options) :
    ∃ name, firstGiven (given :: options.contractName :: target.ownNames) = some name
      ∧ name ≠ .sound ""
      ∧ effectiveName (.ofOption given) options (.target target) = .ofRaw name := by
  rw [firstGiven_cons, firstGiven_cons, Target.firstGiven_ownNames h, effectiveName,
    Value.isYes_ofOption]
  cases hgiven : Raw.given given with
  | some name =>
    obtain rfl : given = some name := (Option.filter_eq_some_iff.1 hgiven).1
    exact ⟨name, rfl, Raw.ne_empty_of_given hgiven, rfl⟩
  | none =>
    cases hconfigured : Raw.given options.contractName with
    | some name => exact ⟨name, rfl, Raw.ne_empty_of_given hconfigured, rfl⟩
    | none => exact ⟨_, rfl, by simpa using h, rfl⟩

end Compilation

end ContractBuild
