import ContractBuild.Proofs.Artifact.Writing
import ContractBuild.Proofs.Disk.Keeps

/-!
# The last artifact in a file

A symbolic link may lead the paths of two artifacts to one file, and then the one that is written
last replaces the other. Apart from that every file keeps what was written to it: a completed
writing takes nothing away and changes nothing but the files to which its paths lead
(`keeps_writeAll`), so an artifact is found in its file if none after it leads there
(`content_of_writeAll`). No disk has to be free of links for this.
-/

namespace ContractBuild.Artifact

variable {host : Host} {r : Compiled} {l : Layout} {a : Artifact} {as done later : List Artifact}
variable {s s' : Run} {ps : List Path}

/-- A completed writing takes nothing away, and where none of its paths leads nothing changes. -/
theorem keeps_writeAll (h : (writeAll host r l as).runFrom s = (.ok ps, s')) :
    s.disk.Keeps s'.disk ∧ ∀ k,
      (∀ a ∈ as, s'.disk.locate host.cwd (.ofPath (l.path a)) ≠ .ok k) →
        s'.disk.get? k = s.disk.get? k := by
  induction as generalizing s ps with
  | nil =>
    obtain ⟨-, rfl⟩ := Prod.mk.inj h
    exact ⟨.refl _, fun _ _ => rfl⟩
  | cons a as ih =>
    obtain ⟨p, s₁, hone, h⟩ := Running.runFrom_bind_eq_ok_iff.1 h
    obtain ⟨qs, s₂, hrest, h⟩ := Running.runFrom_bind_eq_ok_iff.1 h
    obtain ⟨-, rfl⟩ := Prod.mk.inj h
    obtain ⟨d, c, e, -, -, hstore, -, rfl⟩ := writeOne_eq_ok_iff.1 hone
    obtain ⟨hfirst, hstored⟩ := Disk.write_stored (write_of_store hstore)
    obtain ⟨hothers, hsame⟩ := ih hrest
    refine ⟨hfirst.trans hothers, fun k hk => ?_⟩
    rw [hsame k fun b hb => hk b (List.mem_cons_of_mem _ hb)]
    cases hstored with
    | held place hlocated _ helsewhere =>
      -- the path still leads where it led right after the file was written
      refine helsewhere k fun he => ?_
      exact hk a (List.mem_cons_self ..) (he ▸ Disk.locate_of_keeps hothers hlocated)
    | lost he _ => exact congrArg (fun disk : Disk => disk.get? k) he

/-- What is found under the path of a written artifact is its content, if no artifact written after
it leads to the same file. -/
theorem content_of_writeAll
    (h : (writeAll host r l (done ++ a :: later)).runFrom s = (.ok ps, s')) :
    ∃ d c, r.produce a = .ok d ∧ content l a d = .ok c ∧ ∀ b,
      s'.disk.content? host.cwd (l.path a) = some b →
      (∀ a' ∈ later, s'.disk.locate host.cwd (.ofPath (l.path a'))
        ≠ s'.disk.locate host.cwd (.ofPath (l.path a))) → b = c.bytes := by
  induction done generalizing s ps with
  | nil =>
    obtain ⟨p, s₁, hone, h⟩ := Running.runFrom_bind_eq_ok_iff.1 h
    obtain ⟨qs, s₂, hrest, h⟩ := Running.runFrom_bind_eq_ok_iff.1 h
    obtain ⟨-, rfl⟩ := Prod.mk.inj h
    obtain ⟨d, c, e, hd, hc, hstore, -, rfl⟩ := writeOne_eq_ok_iff.1 hone
    obtain ⟨hfirst, hstored⟩ := Disk.write_stored (write_of_store hstore)
    obtain ⟨hothers, hsame⟩ := keeps_writeAll hrest
    refine ⟨d, c, hd, hc, fun b hb hapart => ?_⟩
    cases hstored with
    | held place hlocated hheld _ =>
      have hlocated' := Disk.locate_of_keeps hothers hlocated
      obtain ⟨k, hk, hfile⟩ := Disk.content?_eq_some_iff.1 hb
      obtain rfl := Except.ok.inj (hlocated'.symm.trans hk)
      rw [hsame place fun a' ha' => hlocated' ▸ hapart a' ha'] at hfile
      simpa using hfile.symm.trans hheld
    | lost he hnone => exact absurd hb (hnone _ b (hfirst.trans hothers))
  | cons a' done ih =>
    obtain ⟨p, s₁, -, h⟩ := Running.runFrom_bind_eq_ok_iff.1 h
    obtain ⟨qs, s₂, hrest, h⟩ := Running.runFrom_bind_eq_ok_iff.1 h
    obtain ⟨-, rfl⟩ := Prod.mk.inj h
    exact ih hrest

end ContractBuild.Artifact
