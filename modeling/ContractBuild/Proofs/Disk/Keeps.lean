import ContractBuild.Proofs.Disk.Opens

/-!
# Walks outlast writing

Writing takes nothing away: whatever stood on the disk still stands where it stood, and only files
may have another content (`Keeps`). So a walk that reached something still reaches it, links
included, and a walk that found a name missing comes as far as that again (`follow_of_keeps`).

What was written can therefore be found under its path as long as only writing goes on, unless a
device took it (`Stored`, `write_stored`). No disk has to be free of links for this.
-/

namespace ContractBuild.Disk

variable {d e f : Disk} {cwd start parent l : Location} {steps : List String} {name : String}
variable {last : LastLink} {links : Nat} {p : Path} {r : Route} {content : Bytes}

/-- From `d` to `e` nothing was taken away, and nothing but the content of files was replaced. -/
def Keeps (d e : Disk) : Prop :=
  ∀ l n, d.get? l = some n →
    e.get? l = some n ∨ ∃ before after, n = .file before ∧ e.get? l = some (.file after)

namespace Keeps

theorem refl (d : Disk) : Keeps d d := fun _ _ h => .inl h

theorem trans (h : Keeps d e) (h' : Keeps e f) : Keeps d f := by
  intro l n hn
  rcases h l n hn with he | ⟨b, c, rfl, he⟩
  · exact h' l n he
  · rcases h' l _ he with hf | ⟨_, c', -, hf⟩
    · exact .inr ⟨b, c, rfl, hf⟩
    · exact .inr ⟨b, c', rfl, hf⟩

theorem get?_of_ne_file {n : Node} (h : Keeps d e) (hl : d.get? l = some n)
    (hn : ∀ b, n ≠ .file b) : e.get? l = some n := by
  rcases h l n hl with he | ⟨b, _, hb, -⟩
  · exact he
  · exact absurd hb (hn b)

theorem get?_folder (h : Keeps d e) (hl : d.get? l = some .folder) : e.get? l = some .folder :=
  h.get?_of_ne_file hl (by simp)

theorem get?_file (h : Keeps d e) (hl : d.get? l = some (.file content)) :
    ∃ after, e.get? l = some (.file after) := by
  rcases h l _ hl with he | ⟨_, after, -, he⟩
  · exact ⟨content, he⟩
  · exact ⟨after, he⟩

/-- A file in the place of a file, or where nothing was. -/
theorem of_put (h : d.Accepts l) (hl : d.get? l = none ∨ ∃ b, d.get? l = some (.file b)) :
    Keeps d (d.put l (.file content)) := by
  intro k n hn
  rw [get?_put h]
  split
  next hk =>
    subst hk
    rcases hl with hnone | ⟨b, hb⟩
    · simp [hnone] at hn
    · exact .inr ⟨b, content, Option.some.inj (hn.symm.trans hb), rfl⟩
  next => exact .inl hn

end Keeps

/-! ## Walks -/

/-- What a walk up to the first link on `d` tells about the same walk on `e`. A name that was
missing may have been given to a file since. -/
def Repeats (d e : Disk) (last : LastLink) : Progress → Progress → Prop
  | .refused _, _ => True
  | .arrived (.missing parent name), y =>
    y = e.advance last parent [name] ∧ d.get? parent = some .folder
      ∧ d.get? (parent ++ [name]) = none ∧ name ≠ "." ∧ IsStep name
  | x, y => y = x

theorem advance_of_keeps (h : Keeps d e) (last : LastLink) (start : Location)
    (steps : List String) :
    Repeats d e last (d.advance last start steps) (e.advance last start steps) := by
  induction steps generalizing start with
  | nil => exact rfl
  | cons name rest ih =>
    by_cases hdot : name = "."
    · rw [advance, if_pos hdot, advance, if_pos hdot]
      exact ih start
    by_cases hup : name = ".."
    · rw [advance, if_neg hdot, if_pos hup, advance, if_neg hdot, if_pos hup]
      exact ih start.dropLast
    by_cases hstart : d.get? start = some .folder
    case neg =>
      rw [advance, if_neg hdot, if_neg hup, if_pos hstart]
      trivial
    by_cases hlong : maxName < name.utf8ByteSize
    · rw [advance, if_neg hdot, if_neg hup, if_neg (not_not_intro hstart), if_pos hlong]
      trivial
    have hstep : IsStep name := ⟨hup, Nat.le_of_not_lt hlong⟩
    have hstart' : e.get? start = some .folder := h.get?_folder hstart
    rw [advance_cons hdot hstep hstart]
    -- whatever stood there stands there still, and leads on in the same way
    cases hnext : d.get? (start ++ [name]) with
    | none =>
      cases rest with
      | nil => exact ⟨rfl, hstart, hnext, hdot, hstep⟩
      | cons _ _ => trivial
    | some n =>
      rw [advance_cons hdot hstep hstart']
      cases n with
      | folder =>
        rw [h.get?_folder hnext]
        exact ih (start ++ [name])
      | link target =>
        rw [h.get?_of_ne_file hnext (by simp)]
        simp only
        split <;> exact rfl
      | file b =>
        obtain ⟨after, hafter⟩ := h.get?_file hnext
        rw [hafter]
        cases rest with
        | nil => exact rfl
        | cons _ _ => trivial
      | device v =>
        rw [h.get?_of_ne_file hnext (by simp)]
        cases rest with
        | nil => exact rfl
        | cons _ _ => trivial

/-- Links on the way are met alike, whatever becomes of a link in the last step. -/
theorem advance_of_ne_keep (hlast : last ≠ .keep) (d : Disk) (start : Location)
    (steps : List String) : d.advance last start steps = d.advance .follow start steps := by
  induction steps generalizing start with
  | nil => rfl
  | cons name rest ih => simp [advance, ih, hlast]

/-- What a walk on `d` tells about the result of the same walk on `e`, all links followed. -/
def Found (d e : Disk) (again : Except Errno Arrival) : Arrival → Prop
  | .reached l => again = .ok (.reached l)
  | .missing parent name =>
    (∃ links, again = e.follow .follow links parent [name]) ∧ d.get? parent = some .folder
      ∧ d.get? (parent ++ [name]) = none ∧ name ≠ "." ∧ IsStep name

/-- A walk that arrives without following a link. -/
theorem found_of_arrived (h : Keeps d e) {a : Arrival}
    (harrived : d.advance .follow start steps = .arrived a) (links : Nat) :
    Found d e (e.follow .follow links start steps) a := by
  have hrepeats := advance_of_keeps h .follow start steps
  rw [harrived] at hrepeats
  cases a with
  | reached l => exact follow_of_arrived hrepeats
  | missing parent name => exact ⟨⟨links, follow_of_advance_eq links hrepeats.1⟩, hrepeats.2⟩

theorem follow_of_ne_keep (hlast : last ≠ .keep) {a : Arrival}
    (h : d.follow last links start steps = .ok a) :
    d.follow .follow links start steps = .ok a := by
  refine follow_induction (motive := fun links start steps =>
    d.follow .follow links start steps = .ok a) h ?_ ?_
  · intro links start steps hadvance
    exact follow_of_arrived (advance_of_ne_keep hlast d start steps ▸ hadvance)
  · intro links start steps at' target rest hadvance ih
    exact (follow_of_detour (advance_of_ne_keep hlast d start steps ▸ hadvance)).trans ih

theorem found_of_follow (h : Keeps d e) (hlast : last ≠ .keep) {a : Arrival}
    (hfollow : d.follow last links start steps = .ok a) :
    Found d e (e.follow .follow links start steps) a := by
  refine follow_induction (motive := fun links start steps =>
    Found d e (e.follow .follow links start steps) a) (follow_of_ne_keep hlast hfollow) ?_ ?_
  · intro links start steps harrived
    exact found_of_arrived h harrived links
  · intro links start steps at' target rest hadvance ih
    have hrepeats := advance_of_keeps h .follow start steps
    rw [hadvance] at hrepeats
    exact (follow_of_detour hrepeats).symm ▸ ih

/-- Whatever a path led to it still leads to. -/
theorem locate_of_keeps (h : Keeps d e) (hl : d.locate cwd (.ofPath p) = .ok l) :
    e.locate cwd (.ofPath p) = .ok l := by
  obtain ⟨hp, hfollow⟩ := locate_eq_ok_iff.1 hl
  exact locate_eq_ok_iff.2 ⟨hp, found_of_follow h (by decide) hfollow⟩

/-! ## Writing -/

/-- What a path holds is the file that it leads to. -/
theorem content?_eq_some_iff :
    d.content? cwd p = some content ↔
      ∃ l, d.locate cwd (.ofPath p) = .ok l ∧ d.get? l = some (.file content) := by
  constructor
  · intro h
    unfold content? status at h
    split at h
    next b hstatus =>
      obtain rfl := Option.some.inj h
      cases hlocate : d.locate cwd (.ofPath p) with
      | error f => simp [hlocate, Except.map] at hstatus
      | ok l =>
        have hnode : d.nodeAt l = .file b := by simpa [hlocate, Except.map] using hstatus
        exact ⟨l, rfl, (nodeAt_eq (by simp)).1 hnode⟩
    next => simp at h
  · rintro ⟨l, hl, hn⟩
    simp only [content?, status, hl, Except.map, (nodeAt_eq (by simp)).2 hn]

/-- What a successful writing of `content` did: it is found under the path and nothing else changed,
or nothing changed at all and no file is found there as long as everything is kept. -/
inductive Stored (d : Disk) (cwd : Location) (p : Path) (content : Bytes) (e : Disk) : Prop
  | held (l : Location) (hlocated : e.locate cwd (.ofPath p) = .ok l)
    (hheld : e.get? l = some (.file content)) (helsewhere : ∀ k, k ≠ l → e.get? k = d.get? k)
  | lost (hsame : e = d) (hnone : ∀ f b, Keeps d f → f.content? cwd p ≠ some b)

/-- Where a name cannot be given to a file, nothing ever has it. -/
theorem get?_eq_none_of_not_accepts (hparent : d.get? parent = some .folder)
    (hnone : d.get? (parent ++ [name]) = none) (h : ¬ d.Accepts (parent ++ [name])) (f : Disk) :
    f.get? (parent ++ [name]) = none := by
  refine Option.eq_none_iff_forall_ne_some.2 fun n hn => h ?_
  exact accepts_concat hparent (isName_of_get? hn name (by simp)) (by simp [hnone])

/-- A file put where the walk to it found the name missing. -/
theorem stored_of_missing (hp : p.Openable)
    (hfollow : d.follow .create maxLinks (p.origin cwd) p.parts = .ok (.missing parent name)) :
    Keeps d (d.put (parent ++ [name]) (.file content))
      ∧ Stored d cwd p content (d.put (parent ++ [name]) (.file content)) := by
  have hfound : ∀ {f : Disk}, Keeps d f →
      Found d f (f.follow .follow maxLinks (p.origin cwd) p.parts) (.missing parent name) :=
    fun hf => found_of_follow hf (by decide) hfollow
  obtain ⟨-, hparent, hnone, hdot, hstep⟩ := hfound (.refl d)
  by_cases haccepts : d.Accepts (parent ++ [name])
  · have hkeeps : Keeps d (d.put (parent ++ [name]) (.file content)) :=
      .of_put haccepts (.inl hnone)
    have hheld : (d.put (parent ++ [name]) (.file content)).get? (parent ++ [name])
        = some (.file content) := by rw [get?_put haccepts, if_pos rfl]
    obtain ⟨⟨links, hagain⟩, -⟩ := hfound hkeeps
    have hreached : (d.put (parent ++ [name]) (.file content)).advance .follow parent [name]
        = .arrived (.reached (parent ++ [name])) := by
      rw [advance_cons hdot hstep (hkeeps.get?_folder hparent), hheld]
      rfl
    rw [follow_of_arrived hreached] at hagain
    refine ⟨hkeeps, .held _ (locate_eq_ok_iff.2 ⟨hp, hagain⟩) hheld fun k hk => ?_⟩
    rw [get?_put haccepts, if_neg hk]
  · -- no file can have this name, so it stays missing
    rw [put, dif_neg haccepts]
    refine ⟨.refl d, .lost rfl fun f b hf hb => ?_⟩
    obtain ⟨⟨links, hagain⟩, -⟩ := hfound hf
    have hmissing : f.advance .follow parent [name] = .arrived (.missing parent name) := by
      rw [advance_cons hdot hstep (hf.get?_folder hparent),
        get?_eq_none_of_not_accepts hparent hnone haccepts f]
      rfl
    obtain ⟨l, hl, -⟩ := content?_eq_some_iff.1 hb
    rw [follow_of_arrived hmissing, (locate_eq_ok_iff.1 hl).2] at hagain
    simp at hagain

/-- A file that is replaced. -/
theorem stored_of_file (hlocated : ∀ f, Keeps d f → f.locate cwd (.ofPath p) = .ok l) {b : Bytes}
    (hfile : d.get? l = some (.file b)) :
    Keeps d (d.put l (.file content)) ∧ Stored d cwd p content (d.put l (.file content)) := by
  have haccepts := accepts_of_node hfile (by simp)
  have hkeeps : Keeps d (d.put l (.file content)) := .of_put haccepts (.inr ⟨b, hfile⟩)
  refine ⟨hkeeps, .held l (hlocated _ hkeeps) (by rw [get?_put haccepts, if_pos rfl]) ?_⟩
  exact fun k hk => by rw [get?_put haccepts, if_neg hk]

/-- A device takes what is written to it. -/
theorem stored_of_device (hlocated : ∀ f, Keeps d f → f.locate cwd (.ofPath p) = .ok l)
    {v : Device} (hdevice : d.get? l = some (.device v)) : Stored d cwd p content d := by
  refine .lost rfl fun f b hf hb => ?_
  have hstays := hf.get?_of_ne_file hdevice (by simp)
  obtain ⟨k, hk, hfile⟩ := content?_eq_some_iff.1 hb
  obtain rfl := Except.ok.inj ((hlocated f hf).symm.trans hk)
  simp [hstays] at hfile

theorem write_stored (h : d.write cwd p content = .ok e) :
    Keeps d e ∧ Stored d cwd p content e := by
  unfold write at h
  split at h
  next => simp at h
  next parent name hwalk =>
    obtain ⟨hp, hfollow⟩ := walk_eq_ok_iff_follow.1 hwalk
    exact Except.ok.inj h ▸ stored_of_missing hp hfollow
  next l hwalk =>
    obtain ⟨hp, hfollow⟩ := walk_eq_ok_iff_follow.1 hwalk
    have hlocated : ∀ f, Keeps d f → f.locate cwd (.ofPath p) = .ok l :=
      fun f hf => locate_eq_ok_iff.2 ⟨hp, found_of_follow hf (by decide) hfollow⟩
    have hdevice : ∀ {v}, d.nodeAt l = .device v → Keeps d d ∧ Stored d cwd p content d :=
      fun hv => ⟨.refl d, stored_of_device hlocated ((nodeAt_eq (by simp)).1 hv)⟩
    split at h
    next b hnode =>
      exact Except.ok.inj h ▸ stored_of_file hlocated ((nodeAt_eq (by simp)).1 hnode)
    next hnode => exact Except.ok.inj h ▸ hdevice hnode
    next hnode =>
      split at h
      next => exact Except.ok.inj h ▸ hdevice hnode
      next => simp at h
    next => simp at h
    next => simp at h

end ContractBuild.Disk
