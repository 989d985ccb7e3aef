import ContractBuild.Artifact.Write
import ContractBuild.Proofs.Artifact.Names
import ContractBuild.Proofs.Disk.Change

/-!
# Storing one artifact

What becomes of a disk without links when one content is stored. `Stores` lists the ways in which
a storing ends, one constructor for each, and `store_iff` says that these are all; every later
fact about storing is a case analysis over them, and nothing else opens the definition.

After a success the place of the path holds the content (`store_ok`). After a refusal of the
operating system, also one in the middle of the writing, and after the failure of an archive, the
place holds what it held before, or nothing, because whatever was written there is removed again
(`Cleared`). Nothing else changes in either case (`filesChange_store`).

That the removal works after a writing that was broken off is an argument of its own: the path has
just been opened on a disk without links, so its last step leads to a file and not to a directory,
and the same path removes it (`unlink_written`). An archive is removed twice, and the second
removal finds nothing (`discard_retract`).

One failure is not followed by a removal: a text that cannot be encoded is met when its file is
already open, and the empty file stays (`LeftEmpty`, `store_error`).
-/

namespace ContractBuild.Artifact

variable {d e : Disk} {cwd : Location} {p : Path} {c : Content} {f : Failure}
variable {cut? : Option Disk.Cutoff}

/-- A failed storing: at the place of the path stands what stood there before, or nothing, and
nothing else changed. -/
structure Cleared (d : Disk) (cwd : Location) (p : Path) (e : Disk) : Prop where
  change : Disk.FilesChange [p.location cwd] d e
  cleared : e.get? (p.location cwd) = d.get? (p.location cwd) ∨ e.get? (p.location cwd) = none

namespace Cleared

theorem refl (d : Disk) (cwd : Location) (p : Path) : Cleared d cwd p d :=
  ⟨.refl _ _, .inl rfl⟩

theorem trans {f : Disk} (h : Cleared d cwd p e) (h' : Cleared e cwd p f) : Cleared d cwd p f := by
  refine ⟨h.change.trans h'.change, ?_⟩
  rcases h'.cleared with hf | hf
  · rw [hf]
    exact h.cleared
  · exact .inr hf

theorem of_unlink (hd : d.LinkFree) (h : d.unlink cwd p = .ok e) : Cleared d cwd p e :=
  ⟨(Disk.unlink_ok hd h).1, .inr (Disk.unlink_ok hd h).2⟩

theorem of_discard (hd : d.LinkFree) : Cleared d cwd p (discard d cwd p) := by
  unfold discard
  split
  next h => exact of_unlink hd h
  next => exact .refl ..

end Cleared

/-- What was written is removed again under its path. -/
theorem unlink_written {content : Bytes} (hd : d.LinkFree) (h : d.Written cwd p content e) :
    e.unlink cwd p = .ok (e.remove (p.location cwd)) := by
  obtain ⟨a, ha⟩ := h.leads
  obtain ⟨n, hn, hfolder⟩ := h.exists_node
  exact Disk.unlink_of_leads (h.change.linkFree hd) h.openable (ha.mono h.change.foldersKept) hn
    hfolder

/-- The removal of what was written leaves no trace of the writing. -/
theorem cleared_of_written {content : Bytes} (hd : d.LinkFree) (h : d.Written cwd p content e) :
    Cleared d cwd p (e.remove (p.location cwd)) := by
  obtain ⟨hchange, hnone⟩ := Disk.unlink_ok (h.change.linkFree hd) (unlink_written hd h)
  exact ⟨h.change.trans hchange, .inr hnone⟩

theorem discard_written {content : Bytes} (hd : d.LinkFree) (h : d.Written cwd p content e) :
    Cleared d cwd p (discard e cwd p) := by
  rw [discard, unlink_written hd h]
  exact cleared_of_written hd h

/-- Where nothing stands, nothing is removed. -/
theorem discard_eq_self (hd : d.LinkFree) (h : d.get? (p.location cwd) = none) :
    discard d cwd p = d := by
  unfold discard
  split
  next hunlink =>
    unfold Disk.unlink at hunlink
    split at hunlink
    next => simp at hunlink
    next => simp at hunlink
    next l hwalk =>
      obtain rfl : l = p.location cwd := Disk.walk_place hd hwalk
      simp [Disk.nodeAt, h] at hunlink
  next => rfl

/-- The first removal of an archive clears its place or does nothing. -/
theorem retract_cleared (hd : d.LinkFree) (n : Errno) (c : Content) :
    Cleared d cwd p (retract d cwd p n c).2 := by
  cases c with
  | archive entry =>
    simp only [retract]
    split
    next h => exact .of_unlink hd h
    all_goals exact .refl ..
  | plain b => exact .refl ..
  | loose t => exact .refl ..

/-- After a refusal in the middle of a writing, what was written is removed once and for all, and
the reason stays. -/
theorem discard_retract {removed : Disk} (he : e.LinkFree) (hunlink : e.unlink cwd p = .ok removed)
    (n : Errno) (c : Content) :
    (retract e cwd p n c).1 = n ∧ discard (retract e cwd p n c).2 cwd p = removed := by
  cases c with
  | archive entry =>
    -- whoever fills the archive has removed it already
    obtain ⟨hchange, hnone⟩ := Disk.unlink_ok he hunlink
    simp only [retract, hunlink, true_and]
    exact discard_eq_self (hchange.linkFree he) hnone
  | plain b => simp [retract, discard, hunlink]
  | loose t => simp [retract, discard, hunlink]

/-- What was written is taken away by the removals that follow a refusal. -/
theorem cleared_of_broken {content : Bytes} (hd : d.LinkFree) (h : d.Written cwd p content e)
    (n : Errno) (c : Content) :
    Cleared d cwd p (discard (retract e cwd p n c).2 cwd p) := by
  rw [(discard_retract (h.change.linkFree hd) (unlink_written hd h) n c).2]
  exact cleared_of_written hd h

/-! ## The ways in which a storing ends -/

/-- A storing is complete, its open file did not take the content, its path cannot be opened at all,
or the operating system refused to open the file or to go on. -/
inductive Stores (d : Disk) (cwd : Location) (p : Path) (c : Content)
    (cut? : Option Disk.Cutoff) : Except Failure Unit → Disk → Prop
  | stored {written : Disk} (hfill : d.Fills cwd p c.bytes cut? (.ok ()) written)
    (hfault : fillFault? d cwd p c = none) : Stores d cwd p c cut? (.ok ()) written
  | unfilled {written : Disk} {f : Failure} (hfill : d.Fills cwd p c.bytes cut? (.ok ()) written)
    (hfault : fillFault? d cwd p c = some f) :
    Stores d cwd p c cut? (.error f) (abandon written cwd p c)
  | nul {left : Disk} (hfill : d.Fills cwd p c.bytes cut? (.error .nul) left) :
    Stores d cwd p c cut? (.error .nulInPath) left
  | refused {left : Disk} {n : Errno}
    (hfill : d.Fills cwd p c.bytes cut? (.error (.errno n)) left) :
    Stores d cwd p c cut? (.error (.system (retract left cwd p n c).1))
      (discard (retract left cwd p n c).2 cwd p)

theorem store_iff {x : Except Failure Unit} :
    store d cwd p c cut? = (x, e) ↔ Stores d cwd p c cut? x e := by
  constructor
  · intro h
    unfold store at h
    split at h
    next hfill =>
      have hfill := Disk.fill_iff.1 hfill
      split at h
      next hfault =>
        obtain ⟨rfl, rfl⟩ := Prod.mk.inj h
        exact .unfilled hfill hfault
      next hfault =>
        obtain ⟨rfl, rfl⟩ := Prod.mk.inj h
        exact .stored hfill hfault
    next hfill =>
      obtain ⟨rfl, rfl⟩ := Prod.mk.inj h
      exact .nul (Disk.fill_iff.1 hfill)
    next hfill =>
      obtain ⟨rfl, rfl⟩ := Prod.mk.inj h
      exact .refused (Disk.fill_iff.1 hfill)
  · intro h
    cases h with
    | stored hfill hfault => simp [store, Disk.fill_iff.2 hfill, hfault]
    | unfilled hfill hfault => simp [store, Disk.fill_iff.2 hfill, hfault]
    | nul hfill => simp [store, Disk.fill_iff.2 hfill]
    | refused hfill => simp [store, Disk.fill_iff.2 hfill]

/-- A content that is stored is written whole. -/
theorem write_of_store (h : store d cwd p c cut? = (.ok (), e)) :
    d.write cwd p c.bytes = .ok e := by
  cases store_iff.1 h with
  | stored hfill =>
    cases hfill with
    | complete _ hwrite => exact hwrite

theorem store_ok (hd : d.LinkFree) (h : store d cwd p c cut? = (.ok (), e)) :
    d.Written cwd p c.bytes e := Disk.write_ok hd (write_of_store h)

/-- A content that fits the format of its file. -/
def Content.Fits : Content → Prop
  | plain _ => True
  | archive entry => entry.misfit? = none
  | loose _ => False

theorem fits_of_fillFault? (h : fillFault? d cwd p c = none) : c.Fits := by
  unfold fillFault? at h
  split at h
  next => trivial
  next => simp at h
  next =>
    split at h
    next => simp at h
    next hfits => exact hfits

/-- A content that an open file does not take fails with an error of its format. -/
theorem exists_of_fillFault? (h : fillFault? d cwd p c = some f) : ∃ x, f = .foreign x := by
  unfold fillFault? at h
  split at h
  next => simp at h
  next => exact ⟨_, (Option.some.inj h).symm⟩
  next =>
    split at h
    next => exact ⟨_, (Option.some.inj h).symm⟩
    next =>
      split at h
      next => exact ⟨_, (Option.some.inj h).symm⟩
      next => simp at h

theorem fits_of_store_ok (h : store d cwd p c cut? = (.ok (), e)) : c.Fits := by
  cases store_iff.1 h with
  | stored _ hfault => exact fits_of_fillFault? hfault

/-- A text that cannot be encoded was met when its file was open, and the file was left empty. -/
structure LeftEmpty (d : Disk) (cwd : Location) (p : Path) (c : Content) (f : Failure) (e : Disk) :
    Prop where
  loose : ∃ t, c = .loose t ∧ f = unencodable t.before.length t
  written : d.Written cwd p [] e

/-- A storing that fails clears the place of its path, unless a text cannot be encoded. -/
theorem store_error (hd : d.LinkFree) (h : store d cwd p c cut? = (.error f, e)) :
    Cleared d cwd p e ∨ LeftEmpty d cwd p c f e := by
  cases store_iff.1 h with
  | unfilled hfill hfault =>
    cases hfill with
    | complete _ hwrite =>
      have hwritten := Disk.write_ok hd hwrite
      cases c with
      | plain b => simp [fillFault?] at hfault
      | archive entry => exact .inl (discard_written hd hwritten)
      | loose t =>
        exact .inr ⟨⟨t, rfl, (Option.some.inj hfault).symm⟩, hwritten⟩
  | nul hfill =>
    cases hfill with
    | refused => exact .inl (.refl ..)
  | @refused _ n hfill =>
    refine .inl ?_
    cases hfill with
    | refused =>
      have hretract : Cleared d cwd p (retract d cwd p n c).2 := retract_cleared hd n c
      exact hretract.trans (.of_discard (hretract.change.linkFree hd))
    | broken _ hwrite => exact cleared_of_broken hd (Disk.write_ok hd hwrite) _ c

/-- Whether it succeeds or not, a storing changes no file but its own. -/
theorem filesChange_store {x : Except Failure Unit} (hd : d.LinkFree)
    (h : store d cwd p c cut? = (x, e)) : Disk.FilesChange [p.location cwd] d e := by
  cases x with
  | ok _ => exact (store_ok hd h).change
  | error f =>
    rcases store_error hd h with hcleared | hempty
    · exact hcleared.change
    · exact hempty.written.change

/-- The operating system refuses the storing exactly if it refuses to open the file or breaks off
the writing. What it says about the removal may take the place of what it said about the writing,
but never makes it good. -/
theorem store_refused_iff :
    (∃ n e, store d cwd p c cut? = (.error (.system n), e)) ↔
      ∃ n, (d.fill cwd p c.bytes cut?).1 = .error (.errno n) := by
  constructor
  · rintro ⟨n, e, h⟩
    cases store_iff.1 h with
    | unfilled _ hfault =>
      obtain ⟨x, hx⟩ := exists_of_fillFault? hfault
      simp at hx
    | refused hfill => exact ⟨_, congrArg Prod.fst (Disk.fill_iff.2 hfill)⟩
  · rintro ⟨n, hfill⟩
    exact ⟨_, _, store_iff.2 (.refused (Disk.fill_iff.1 (Prod.ext hfill rfl)))⟩

/-- Storing never fails with a refusal; only whoever writes an artifact makes one of it. -/
theorem store_ne_refused (h : store d cwd p c cut? = (.error f, e)) (r : Refusal) :
    f ≠ .refused r := by
  cases store_iff.1 h with
  | unfilled _ hfault =>
    obtain ⟨x, rfl⟩ := exists_of_fillFault? hfault
    simp
  | nul => simp
  | refused => simp

end ContractBuild.Artifact
