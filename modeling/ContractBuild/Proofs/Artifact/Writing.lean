import ContractBuild.Proofs.Artifact.Storing
import ContractBuild.Proofs.Disk.Folders

/-!
# Writing artifacts one after another

`runFrom_writeOne` says all that one step of the writing can do: call the producer, make the
content, store it, and tell the user or refuse. A writing that ends in a failure has a first
artifact at which it failed, all before it being written (`writeAll_eq_error_iff`), and that one
step says what is left in its place (`StoppedAt`).

On a disk without links a completed writing left nothing behind but the files of its artifacts,
each with its full content (`WroteAll`), which is an induction over the artifacts: each step
changes only the place of its own artifact, so what was written earlier stays (`WroteAll.append`).
Two things keep this from being a statement about all files. A device in the place of an artifact
stays a device (`Delivered` asks for the content only where none stood), and a listing that cannot
be encoded leaves an empty file (`EmptyListing`).

The end of the file is about the whole of `write`. `Writes` lists its endings stage by stage and
`write_iff` says that there are no others. What a relation between disks must satisfy so that
every writing satisfies it is said once, whatever the ending (`write_related`): later modules
instantiate it for the files that change, for the inputs that stay and for the folders that are
added.
-/

namespace ContractBuild.Artifact

variable {host : Host} {r : Compiled} {l : Layout} {a : Artifact} {as bs : List Artifact}
variable {s s' s₁ : Run} {f : Failure} {ps : List Path}

/-- The line that tells of a written artifact. -/
def createdLine (l : Layout) (a : Artifact) : Line := ⟨.out, "Created " ++ (l.path a).toText⟩

/-- The run after the producer of an artifact was called. -/
def called (s : Run) (a : Artifact) : Run :=
  { s with trail := { s.trail with produced := s.trail.produced ++ [a] } }

/-- The refusal of an artifact that cannot be written. -/
def refusal (l : Layout) (a : Artifact) : Refusal := .unwritable (l.path a).toText

/-- The trail after an artifact could not be written for a reason of the operating system. -/
def refusedTrail (host : Host) (l : Layout) (a : Artifact) (n : Errno) (t : Trail) : Trail :=
  Attempt.noted { t with log := t.log ++ [failedRecord (l.path a) (host.describe n)] }
    (refusal l a) (host.describe n)

/-- One step of the writing. -/
theorem runFrom_writeOne (host : Host) (r : Compiled) (l : Layout) (a : Artifact) (s : Run) :
    (writeOne host r l a).runFrom s =
      match r.produce a with
      | .error f => (.error f, called s a)
      | .ok d =>
        match content l a d with
        | .error f => (.error f, called s a)
        | .ok c =>
          match store s.disk host.cwd (l.path a) c (host.cutoff? (l.path a) c.bytes) with
          | (.ok (), e) =>
            (.ok (l.path a), { called s a with disk := e, lines := s.lines ++ [createdLine l a] })
          | (.error (.system n), e) =>
            (.error (.refused (refusal l a)),
              { called s a with disk := e, trail := refusedTrail host l a n (called s a).trail })
          | (.error f, e) => (.error f, { called s a with disk := e }) := by
  unfold writeOne
  simp only [Running.runFrom_bind, Running.runFrom_attempt, Attempt.runFrom_produce,
    Attempt.runFrom_ofExcept, Running.runFrom_get, Running.runFrom_modify]
  cases r.produce a with
  | error f => rfl
  | ok d =>
    simp only
    cases content l a d with
    | error f => rfl
    | ok c =>
      simp only
      rcases store s.disk host.cwd (l.path a) c (host.cutoff? (l.path a) c.bytes) with
        ⟨f | ⟨⟩, e⟩
      · cases f with
        | system n => simp [Running.runFrom_bind, called, refusedTrail, refusal]
        | _ => rfl
      · rfl

/-- A written artifact: its content was produced and stored. -/
theorem writeOne_eq_ok_iff {p : Path} :
    (writeOne host r l a).runFrom s = (.ok p, s') ↔
      ∃ d c e, r.produce a = .ok d ∧ content l a d = .ok c
        ∧ store s.disk host.cwd (l.path a) c (host.cutoff? (l.path a) c.bytes) = (.ok (), e)
        ∧ p = l.path a
        ∧ s' = { called s a with disk := e, lines := s.lines ++ [createdLine l a] } := by
  rw [runFrom_writeOne]
  constructor
  · intro h
    split at h
    next => simp at h
    next d hd =>
      split at h
      next => simp at h
      next c hc =>
        split at h
        next e hstore =>
          simp only [Prod.mk.injEq, Except.ok.injEq] at h
          exact ⟨d, c, e, hd, hc, hstore, h.1.symm, h.2.symm⟩
        next => simp at h
        next => simp at h
  · rintro ⟨d, c, e, hd, hc, hstore, rfl, rfl⟩
    simp only [hd, hc, hstore]

/-- A value without bytes as a document has no JSON form, or one that cannot be encoded. -/
theorem documentBytes_ne_refused {v : Value} (h : documentBytes v = .error f) (x : Refusal) :
    f ≠ .refused x := by
  cases v with
  | loose t => exact Except.error.inj h ▸ by simp [unencodable]
  | document d =>
    simp only [documentBytes, jsonBytes] at h
    split at h
    next => simp at h
    next => exact Except.error.inj h ▸ by simp

/-- A value without a content is a misuse of the producer or cannot be encoded, never a refusal. -/
theorem content_ne_refused {v : Value} (h : content l a v = .error f) (x : Refusal) :
    f ≠ .refused x := by
  cases a with
  | executable =>
    obtain ⟨m, -, rfl⟩ := mapError_eq_error_iff.1 (map_eq_error_iff.1 h)
    simp
  | manifest => exact documentBytes_ne_refused (map_eq_error_iff.1 h) x
  | debugInfo => exact documentBytes_ne_refused (map_eq_error_iff.1 h) x
  | assembly =>
    simp only [content] at h
    split at h
    next => simp at h
    next => simp at h
    next => exact Except.error.inj h ▸ by simp

/-- A refusal comes from the producer, or the operating system refused the file. -/
theorem writeOne_eq_refused_iff {x : Refusal} (hproduce : r.produce a ≠ .error (.refused x)) :
    (writeOne host r l a).runFrom s = (.error (.refused x), s') ↔
      ∃ d c n e, r.produce a = .ok d ∧ content l a d = .ok c
        ∧ store s.disk host.cwd (l.path a) c (host.cutoff? (l.path a) c.bytes)
          = (.error (.system n), e)
        ∧ x = refusal l a
        ∧ s' = { called s a with
          disk := e, trail := refusedTrail host l a n (called s a).trail } := by
  rw [runFrom_writeOne]
  constructor
  · intro h
    split at h
    next hf =>
      simp only [Prod.mk.injEq, Except.error.injEq] at h
      exact absurd (h.1 ▸ hf) hproduce
    next d hd =>
      split at h
      next hc =>
        simp only [Prod.mk.injEq, Except.error.injEq] at h
        exact absurd h.1 (content_ne_refused hc x)
      next c hc =>
        split at h
        next => simp at h
        next n e hstore =>
          simp only [Prod.mk.injEq, Except.error.injEq, Failure.refused.injEq] at h
          exact ⟨d, c, n, e, hd, hc, hstore, h.1.symm, h.2.symm⟩
        next hstore =>
          simp only [Prod.mk.injEq, Except.error.injEq] at h
          exact absurd h.1 (store_ne_refused hstore x)
  · rintro ⟨d, c, n, e, hd, hc, hstore, rfl, rfl⟩
    simp only [hd, hc, hstore]

/-- An artifact is a listing that was produced as a text that cannot be encoded, and that is what
failed. -/
def LooseListing (r : Compiled) (a : Artifact) (f : Failure) : Prop :=
  a = .assembly ∧ ∃ t, r.produce a = .ok (.loose t) ∧ f = unencodable t.before.length t

/-- What the operating system refuses is no such listing. -/
theorem not_looseListing_system {n : Errno} : ¬ LooseListing r a (.system n) := by
  rintro ⟨-, t, -, hf⟩
  simp [unencodable] at hf

/-- An empty file is left in the place of such a listing, or whatever a device there makes of it. -/
structure EmptyListing (host : Host) (r : Compiled) (l : Layout) (a : Artifact) (d : Disk)
    (f : Failure) (e : Disk) : Prop where
  loose : LooseListing r a f
  written : d.Written host.cwd (l.path a) [] e

/-- An artifact at which the writing stopped: its place is as before or empty, unless it is a
listing that cannot be encoded; its producer was called, and the user was told nothing. -/
structure StoppedAt (host : Host) (r : Compiled) (l : Layout) (a : Artifact) (s : Run)
    (f : Failure) (s' : Run) : Prop where
  left : Cleared s.disk host.cwd (l.path a) s'.disk ∨ EmptyListing host r l a s.disk f s'.disk
  lines : s'.lines = s.lines
  produced : s'.trail.produced = s.trail.produced ++ [a]
  refused : ∀ x, f = .refused x → r.produce a = .error f ∨ x = refusal l a

theorem StoppedAt.next (h : StoppedAt host r l a s f s') :
    s'.disk.file? ((l.path a).location host.cwd) = s.disk.file? ((l.path a).location host.cwd)
      ∨ s'.disk.get? ((l.path a).location host.cwd) = none
      ∨ (LooseListing r a f ∧ s'.disk.file? ((l.path a).location host.cwd) = some []) := by
  rcases h.left with hcleared | ⟨hloose, hwritten⟩
  · exact hcleared.cleared.imp Disk.file?_eq_of_get?_eq .inl
  · rcases hwritten.held with hheld | ⟨v, -, hsame⟩
    · exact .inr (.inr ⟨hloose, Disk.file?_eq_some_iff.2 hheld⟩)
    · exact .inl (by rw [hsame])

theorem StoppedAt.change (h : StoppedAt host r l a s f s') :
    Disk.FilesChange [(l.path a).location host.cwd] s.disk s'.disk := by
  rcases h.left with hcleared | hempty
  · exact hcleared.change
  · exact hempty.written.change

/-- Only a listing can be a text that its file does not take. -/
theorem content_eq_loose {v : Value} {t : Text.Loose} (h : content l a v = .ok (.loose t)) :
    a = .assembly ∧ v = .loose t := by
  cases a with
  | executable =>
    obtain ⟨b, -, hb⟩ := map_eq_ok_iff.1 h
    simp at hb
  | manifest =>
    obtain ⟨b, -, hb⟩ := map_eq_ok_iff.1 h
    simp at hb
  | debugInfo =>
    obtain ⟨b, -, hb⟩ := map_eq_ok_iff.1 h
    simp at hb
  | assembly =>
    refine ⟨rfl, ?_⟩
    simp only [content] at h
    split at h
    next => simp at h
    next => simpa using h
    next => simp at h

/-- What a storing leaves behind that did not come to its end. -/
theorem left_of_store {v : Value} {c : Content} {e : Disk} {cut? : Option Disk.Cutoff}
    (hd : s.disk.LinkFree) (hv : r.produce a = .ok v) (hc : content l a v = .ok c)
    (h : store s.disk host.cwd (l.path a) c cut? = (.error f, e)) :
    Cleared s.disk host.cwd (l.path a) e ∨ EmptyListing host r l a s.disk f e := by
  refine (store_error hd h).imp_right fun hempty => ?_
  obtain ⟨⟨t, rfl, hf⟩, hwritten⟩ := hempty
  obtain ⟨rfl, rfl⟩ := content_eq_loose hc
  exact ⟨⟨rfl, t, hv, hf⟩, hwritten⟩

theorem produced_refusedTrail (host : Host) (l : Layout) (a : Artifact) (n : Errno) (t : Trail) :
    (refusedTrail host l a n t).produced = t.produced := by
  unfold refusedTrail Attempt.noted
  split <;> rfl

theorem writeOne_error (hd : s.disk.LinkFree)
    (h : (writeOne host r l a).runFrom s = (.error f, s')) : StoppedAt host r l a s f s' := by
  rw [runFrom_writeOne] at h
  split at h
  next g hg =>
    -- the producer failed, so that the disk was not looked at
    obtain ⟨hf, rfl⟩ := Prod.mk.inj h
    obtain rfl := Except.error.inj hf
    exact ⟨.inl (.refl ..), rfl, rfl, fun x _ => .inl hg⟩
  next d hd' =>
    split at h
    next g hg =>
      obtain ⟨hf, rfl⟩ := Prod.mk.inj h
      obtain rfl := Except.error.inj hf
      exact ⟨.inl (.refl ..), rfl, rfl, fun x hx => absurd hx (content_ne_refused hg x)⟩
    next c hc =>
      split at h
      next => simp at h
      next n e hstore =>
        -- only what the operating system says becomes a refusal
        obtain ⟨hf, rfl⟩ := Prod.mk.inj h
        obtain rfl := Except.error.inj hf
        have hcleared : Cleared s.disk host.cwd (l.path a) e :=
          (left_of_store hd hd' hc hstore).resolve_right fun h => not_looseListing_system h.loose
        refine ⟨.inl hcleared, rfl, produced_refusedTrail .., fun x hx => .inr ?_⟩
        simpa using hx.symm
      next g e _ hstore =>
        obtain ⟨hf, rfl⟩ := Prod.mk.inj h
        obtain rfl := Except.error.inj hf
        exact ⟨left_of_store hd hd' hc hstore, rfl, rfl,
          fun x hx => absurd hx (store_ne_refused hstore x)⟩

/-- A writing that fails has written the artifacts before the one at which it failed. -/
theorem writeAll_eq_error_iff :
    (writeAll host r l as).runFrom s = (.error f, s') ↔
      ∃ done a rest ps s₁, as = done ++ a :: rest
        ∧ (writeAll host r l done).runFrom s = (.ok ps, s₁)
        ∧ (writeOne host r l a).runFrom s₁ = (.error f, s') := by
  constructor
  · intro h
    induction as generalizing s with
    | nil => simp [writeAll] at h
    | cons a as ih =>
      rcases Running.runFrom_bind_eq_error_iff.1 h with hone | ⟨p, s₁, hone, h⟩
      · exact ⟨[], a, as, [], s, rfl, rfl, hone⟩
      · rcases Running.runFrom_bind_eq_error_iff.1 h with hrest | ⟨_, _, -, h⟩
        · obtain ⟨done, b, rest, ps, s₂, rfl, hdone, hb⟩ := ih hrest
          refine ⟨a :: done, b, rest, p :: ps, s₂, rfl, ?_, hb⟩
          refine Running.runFrom_bind_eq_ok_iff.2 ⟨p, s₁, hone, ?_⟩
          exact Running.runFrom_bind_eq_ok_iff.2 ⟨ps, s₂, hdone, rfl⟩
        · simp at h
  · rintro ⟨done, a, rest, ps, s₁, rfl, hdone, hone⟩
    induction done generalizing s ps with
    | nil =>
      obtain ⟨-, rfl⟩ := Prod.mk.inj hdone
      exact Running.runFrom_bind_eq_error_iff.2 (.inl hone)
    | cons b done ih =>
      obtain ⟨p, s₂, hfirst, h⟩ := Running.runFrom_bind_eq_ok_iff.1 hdone
      obtain ⟨qs, s₃, hrest, h⟩ := Running.runFrom_bind_eq_ok_iff.1 h
      obtain ⟨-, rfl⟩ := Prod.mk.inj h
      refine Running.runFrom_bind_eq_error_iff.2 (.inr ⟨p, s₂, hfirst, ?_⟩)
      exact Running.runFrom_bind_eq_error_iff.2 (.inl (ih _ hrest))

/-! ## What a completed writing leaves behind -/

/-- The places of artifacts. -/
def places (host : Host) (l : Layout) (as : List Artifact) : List Location :=
  as.map fun a => (l.path a).location host.cwd

/-- An artifact was produced, and its file has the full content unless a device stood there. -/
def Delivered (host : Host) (r : Compiled) (l : Layout) (before after : Disk) (a : Artifact) :
    Prop :=
  ∃ d c, r.produce a = .ok d ∧ content l a d = .ok c ∧ c.Fits
    ∧ ((∀ v, before.get? ((l.path a).location host.cwd) ≠ some (.device v)) →
      after.Holds host.cwd (l.path a) c.bytes)

/-- A completed writing: the files of the artifacts hold their contents, and nothing else changed
but the lines that tell of them and the producers called. -/
structure WroteAll (host : Host) (r : Compiled) (l : Layout) (as : List Artifact) (s s' : Run) :
    Prop where
  change : Disk.FilesChange (places host l as) s.disk s'.disk
  lines : s'.lines = s.lines ++ as.map (createdLine l)
  produced : s'.trail.produced = s.trail.produced ++ as
  delivered : ∀ a ∈ as, Delivered host r l s.disk s'.disk a

theorem notMem_places {as : List Artifact} (h : a ∉ as) :
    (l.path a).location host.cwd ∉ places host l as := by
  intro hm
  obtain ⟨b, hb, he⟩ := List.mem_map.1 hm
  exact h (l.location_path_inj he ▸ hb)

/-- A written artifact stays as it is while others are written. -/
theorem Delivered.of_filesChange {before d e : Disk} {ls : List Location}
    (h : Delivered host r l before d a) (hd : d.LinkFree) (hchange : Disk.FilesChange ls d e)
    (hplace : (l.path a).location host.cwd ∉ ls) : Delivered host r l before e a := by
  obtain ⟨doc, c, hdoc, hc, hfits, hholds⟩ := h
  exact ⟨doc, c, hdoc, hc, hfits, fun hv => (hholds hv).of_filesChange hd hchange hplace⟩

/-- Of the disk before, only the devices matter. -/
theorem Delivered.of_before {before before' d : Disk} (h : Delivered host r l before d a)
    (hdevice : ∀ v, before.get? ((l.path a).location host.cwd) = some (.device v) →
      before'.get? ((l.path a).location host.cwd) = some (.device v)) :
    Delivered host r l before' d a := by
  obtain ⟨doc, c, hdoc, hc, hfits, hholds⟩ := h
  exact ⟨doc, c, hdoc, hc, hfits, fun hv => hholds fun v hbefore => hv v (hdevice v hbefore)⟩

/-- Two writings one after another, of different artifacts: each leaves the places of the other
alone. -/
theorem WroteAll.append (h : WroteAll host r l as s s₁) (hothers : WroteAll host r l bs s₁ s')
    (hd : s₁.disk.LinkFree) (hdisjoint : ∀ a ∈ as, a ∉ bs) :
    WroteAll host r l (as ++ bs) s s' where
  change := (h.change.mono (by simp [places])).trans (hothers.change.mono (by simp [places]))
  lines := by rw [hothers.lines, h.lines, List.map_append, List.append_assoc]
  produced := by rw [hothers.produced, h.produced, List.append_assoc]
  delivered a ha := by
    rcases List.mem_append.1 ha with ha | ha
    · exact (h.delivered a ha).of_filesChange hd hothers.change (notMem_places (hdisjoint a ha))
    · have hnew : a ∉ as := fun hm => hdisjoint a hm ha
      have hsame := h.change.elsewhere _ (notMem_places hnew)
      exact (hothers.delivered a ha).of_before fun v hv => hsame ▸ hv

/-- One step of a writing that goes on. -/
theorem writeOne_ok (hd : s.disk.LinkFree) {p : Path}
    (h : (writeOne host r l a).runFrom s = (.ok p, s')) :
    p = l.path a ∧ WroteAll host r l [a] s s' := by
  obtain ⟨d, c, e, hdoc, hc, hstore, rfl, rfl⟩ := writeOne_eq_ok_iff.1 h
  have hwritten := store_ok hd hstore
  refine ⟨rfl, hwritten.change, rfl, rfl, ?_⟩
  intro b hb
  obtain rfl := List.mem_singleton.1 hb
  exact ⟨d, c, hdoc, hc, fits_of_store_ok hstore, hwritten.holds hd⟩

/-- A whole writing, by induction over the artifacts. -/
theorem writeAll_ok (hd : s.disk.LinkFree) (hnodup : as.Nodup)
    (h : (writeAll host r l as).runFrom s = (.ok ps, s')) :
    ps = as.map l.path ∧ WroteAll host r l as s s' := by
  induction as generalizing s ps with
  | nil =>
    simp only [writeAll, Running.runFrom_pure, Prod.mk.injEq, Except.ok.injEq] at h
    obtain ⟨rfl, rfl⟩ := h
    exact ⟨rfl, .refl _ _, by simp, by simp, by simp⟩
  | cons a as ih =>
    obtain ⟨ha, hnodup⟩ := List.nodup_cons.1 hnodup
    obtain ⟨p, s₁, hone, h⟩ := Running.runFrom_bind_eq_ok_iff.1 h
    obtain ⟨qs, s₂, hrest, h⟩ := Running.runFrom_bind_eq_ok_iff.1 h
    simp only [Running.runFrom_pure, Prod.mk.injEq, Except.ok.injEq] at h
    obtain ⟨rfl, rfl⟩ := h
    obtain ⟨rfl, hfirst⟩ := writeOne_ok hd hone
    have hd₁ : s₁.disk.LinkFree := hfirst.change.linkFree hd
    obtain ⟨rfl, hothers⟩ := ih hd₁ hnodup hrest
    have hdisjoint : ∀ b ∈ [a], b ∉ as := fun b hb => List.mem_singleton.1 hb ▸ ha
    exact ⟨rfl, hfirst.append hothers hd₁ hdisjoint⟩

/-- Whether it succeeds or not, one step changes no file but its own. -/
theorem filesChange_writeOne (hd : s.disk.LinkFree) {x : Except Failure Path}
    (h : (writeOne host r l a).runFrom s = (x, s')) :
    Disk.FilesChange (places host l [a]) s.disk s'.disk := by
  cases x with
  | ok p => exact (writeOne_ok hd h).2.change
  | error f => exact (writeOne_error hd h).change

/-- What one step does to the disk is what storing does, if it gets that far. -/
theorem writeOne_related {R : Disk → Disk → Prop} (hrefl : ∀ d, R d d)
    (hstore : ∀ {d e c cut? x}, d.LinkFree → store d host.cwd (l.path a) c cut? = (x, e) → R d e)
    (hd : s.disk.LinkFree) {x : Except Failure Path}
    (h : (writeOne host r l a).runFrom s = (x, s')) : R s.disk s'.disk := by
  rw [runFrom_writeOne] at h
  split at h
  next =>
    obtain ⟨-, rfl⟩ := Prod.mk.inj h
    exact hrefl _
  next =>
    split at h
    next =>
      obtain ⟨-, rfl⟩ := Prod.mk.inj h
      exact hrefl _
    next =>
      split at h
      all_goals
        next hstored =>
          obtain ⟨-, rfl⟩ := Prod.mk.inj h
          exact hstore hd hstored

/-- Whether it succeeds or not, what a writing does to the disk is a sequence of storings. -/
theorem writeAll_related {R : Disk → Disk → Prop} (hrefl : ∀ d, R d d)
    (htrans : ∀ {d e f}, R d e → R e f → R d f)
    (hstore : ∀ {a d e c cut? x}, a ∈ as → d.LinkFree →
      store d host.cwd (l.path a) c cut? = (x, e) → R d e)
    (hd : s.disk.LinkFree) {x : Except Failure (List Path)}
    (h : (writeAll host r l as).runFrom s = (x, s')) : R s.disk s'.disk := by
  induction as generalizing s x with
  | nil =>
    simp only [writeAll, Running.runFrom_pure, Prod.mk.injEq] at h
    exact h.2 ▸ hrefl _
  | cons a as ih =>
    simp only [writeAll, Running.runFrom_bind] at h
    have hone : ∀ {x s₁}, (writeOne host r l a).runFrom s = (x, s₁) → R s.disk s₁.disk :=
      fun h => writeOne_related hrefl (hstore (List.mem_cons_self ..)) hd h
    have hrest : ∀ {a d e c cut? x}, a ∈ as → d.LinkFree →
        store d host.cwd (l.path a) c cut? = (x, e) → R d e :=
      fun ha => hstore (List.mem_cons_of_mem _ ha)
    split at h
    next p s₁ hfirst =>
      have hd₁ : s₁.disk.LinkFree := (filesChange_writeOne hd hfirst).linkFree hd
      split at h
      next hall =>
        obtain ⟨-, rfl⟩ := Prod.mk.inj h
        exact htrans (hone hfirst) (ih hrest hd₁ hall)
      next hall =>
        obtain ⟨-, rfl⟩ := Prod.mk.inj h
        exact htrans (hone hfirst) (ih hrest hd₁ hall)
    next hfirst =>
      obtain ⟨-, rfl⟩ := Prod.mk.inj h
      exact hone hfirst

/-- Whether it succeeds or not, a writing changes no files but those of its artifacts. -/
theorem filesChange_writeAll (hd : s.disk.LinkFree) {x : Except Failure (List Path)}
    (h : (writeAll host r l as).runFrom s = (x, s')) :
    Disk.FilesChange (places host l as) s.disk s'.disk := by
  refine writeAll_related (R := Disk.FilesChange (places host l as)) (.refl _) .trans ?_ hd h
  intro a d e c cut? x ha hd hstored
  have hplace : (l.path a).location host.cwd ∈ places host l as := List.mem_map_of_mem ha
  exact (filesChange_store hd hstored).mono (by simpa using hplace)

/-! ## The folder and the names -/

theorem runFrom_prepareFolder (host : Host) (folder : Path) (s : Run) :
    (prepareFolder host folder).runFrom s =
      match s.disk.ensureFolders host.cwd folder with
      | (.ok (), e) => (.ok (), { s with disk := e })
      | (.error .nul, e) => (.error .nulInPath, { s with disk := e })
      | (.error (.errno n), e) =>
        (.error (.refused (.unwritable folder.toText)),
          { s with
            disk := e
            trail := Attempt.noted s.trail (.unwritable folder.toText) (host.describe n) }) := by
  unfold prepareFolder
  simp only [Running.runFrom_bind, Running.runFrom_get, Running.runFrom_modify]
  rcases s.disk.ensureFolders host.cwd folder with ⟨e | ⟨⟩, e'⟩
  · cases e with
    | nul => rfl
    | errno n => simp
  · rfl

/-- Creating the folder touches no file, tells the user nothing and calls no producer. -/
theorem prepareFolder_spec (hd : s.disk.LinkFree) {folder : Path} {x : Except Failure Unit}
    (h : (prepareFolder host folder).runFrom s = (x, s')) :
    Disk.FoldersAdded (folder.Passes host.cwd) s.disk s'.disk ∧ s'.lines = s.lines
      ∧ s'.trail.produced = s.trail.produced
      ∧ (x = .ok () → s'.disk.LeadsToFolder host.cwd folder)
      ∧ ∀ y, x = .error (.refused y) → y = .unwritable folder.toText := by
  obtain ⟨hadded, hleads⟩ := Disk.ensureFolders_spec hd host.cwd folder
  rw [runFrom_prepareFolder] at h
  split at h
  next e hmade =>
    obtain ⟨rfl, rfl⟩ := Prod.mk.inj h
    rw [hmade] at hadded hleads
    exact ⟨hadded, rfl, rfl, fun _ => hleads rfl, by simp⟩
  next e hmade =>
    obtain ⟨rfl, rfl⟩ := Prod.mk.inj h
    rw [hmade] at hadded
    exact ⟨hadded, rfl, rfl, by simp, by simp⟩
  next n e hmade =>
    obtain ⟨rfl, rfl⟩ := Prod.mk.inj h
    rw [hmade] at hadded
    refine ⟨hadded, rfl, ?_, by simp, by simp⟩
    unfold Attempt.noted
    split <;> rfl

/-- The folder is refused exactly if the operating system refuses to create it. -/
theorem prepareFolder_eq_refused_iff {folder : Path} {x : Refusal} :
    (prepareFolder host folder).runFrom s = (.error (.refused x), s') ↔
      ∃ n e, s.disk.ensureFolders host.cwd folder = (.error (.errno n), e)
        ∧ x = .unwritable folder.toText
        ∧ s' = { s with
          disk := e
          trail := Attempt.noted s.trail (.unwritable folder.toText) (host.describe n) } := by
  rw [runFrom_prepareFolder]
  constructor
  · intro h
    split at h
    next => simp at h
    next => simp at h
    next n e hmade =>
      simp only [Prod.mk.injEq, Except.error.injEq, Failure.refused.injEq] at h
      exact ⟨n, e, hmade, h.1.symm, h.2.symm⟩
  · rintro ⟨n, e, hmade, rfl, rfl⟩
    simp only [hmade]

/-- A layout made from a name. -/
theorem ofName_eq_valid {folder : Path} {name : Value}
    (h : Layout.ofName folder name = .valid l) : l.folder = folder ∧ l.files = [] := by
  unfold Layout.ofName at h
  cases hn : (Layout.checkName name).under (.field "contract_name") with
  | valid n =>
    rw [hn] at h
    obtain rfl := Validation.Checked.valid.inj h
    exact ⟨rfl, rfl⟩
  | invalid issues =>
    rw [hn] at h
    simp [Validation.Checked.map] at h

/-- The run after the user was told that the writing is complete. -/
def completed (s : Run) (folder : Path) (count : Nat) : Run :=
  { s with
    lines := s.lines ++ [⟨.out, completedLine⟩]
    trail := { s.trail with log := s.trail.log ++ [writtenRecord folder count] } }

/-- All stages of the writing. -/
theorem runFrom_write (host : Host) (r : Compiled) (options : Options) (fallback : Path)
    (name : Value) (s : Run) :
    (write host r options fallback name).runFrom s =
      if !r.success then (.error (.misuse .unsuccessful), s)
      else
        match fileName? name r options with
        | none => (.error (.misuse .nameless), s)
        | some name =>
          match (prepareFolder host (options.outputFolder fallback)).runFrom s with
          | (.error f, s) => (.error f, s)
          | (.ok (), s) =>
            match Layout.ofName (options.outputFolder fallback) name with
            | .invalid issues => (.error (.invalid issues), s)
            | .valid l =>
              match (writeAll host r l (plan options)).runFrom s with
              | (.error f, s) => (.error f, s)
              | (.ok files, s) =>
                (.ok { l with files },
                  completed s (options.outputFolder fallback) files.length) := by
  unfold write
  split
  next => rfl
  next =>
    cases fileName? name r options with
    | none => rfl
    | some name =>
      simp only [Running.runFrom_bind]
      rcases (prepareFolder host (options.outputFolder fallback)).runFrom s with ⟨f | ⟨⟩, s⟩
      · rfl
      · cases Layout.ofName (options.outputFolder fallback) name with
        | invalid issues => rfl
        | valid l =>
          simp only [Running.runFrom_bind]
          rcases (writeAll host r l (plan options)).runFrom s with ⟨f | files, s⟩ <;> rfl

/-- The ways in which a writing ends, one for each stage, with the result and the run after it. -/
inductive Writes (host : Host) (r : Compiled) (options : Options) (fallback : Path)
    (name : Value) (s : Run) : Except Failure Layout → Run → Prop
  | unsuccessful (hfailed : r.success = false) :
    Writes host r options fallback name s (.error (.misuse .unsuccessful)) s
  | nameless (hsuccess : r.success = true) (hname : fileName? name r options = none) :
    Writes host r options fallback name s (.error (.misuse .nameless)) s
  | noFolder {chosen : Value} {f : Failure} {s₁ : Run} (hsuccess : r.success = true)
    (hname : fileName? name r options = some chosen)
    (hfolder : (prepareFolder host (options.outputFolder fallback)).runFrom s = (.error f, s₁)) :
    Writes host r options fallback name s (.error f) s₁
  | misnamed {chosen : Value} {issues : List Validation.Issue} {s₁ : Run}
    (hsuccess : r.success = true) (hname : fileName? name r options = some chosen)
    (hfolder : (prepareFolder host (options.outputFolder fallback)).runFrom s = (.ok (), s₁))
    (hl : Layout.ofName (options.outputFolder fallback) chosen = .invalid issues) :
    Writes host r options fallback name s (.error (.invalid issues)) s₁
  | stopped {chosen : Value} {l : Layout} {f : Failure} {s₁ s₂ : Run}
    (hsuccess : r.success = true) (hname : fileName? name r options = some chosen)
    (hfolder : (prepareFolder host (options.outputFolder fallback)).runFrom s = (.ok (), s₁))
    (hl : Layout.ofName (options.outputFolder fallback) chosen = .valid l)
    (hall : (writeAll host r l (plan options)).runFrom s₁ = (.error f, s₂)) :
    Writes host r options fallback name s (.error f) s₂
  | completed {chosen : Value} {l : Layout} {files : List Path} {s₁ s₂ : Run}
    (hsuccess : r.success = true) (hname : fileName? name r options = some chosen)
    (hfolder : (prepareFolder host (options.outputFolder fallback)).runFrom s = (.ok (), s₁))
    (hl : Layout.ofName (options.outputFolder fallback) chosen = .valid l)
    (hall : (writeAll host r l (plan options)).runFrom s₁ = (.ok files, s₂)) :
    Writes host r options fallback name s (.ok { l with files })
      (completed s₂ (options.outputFolder fallback) files.length)

/-- A writing ends in one of these ways. -/
theorem write_iff {options : Options} {fallback : Path} {name : Value}
    {x : Except Failure Layout} :
    (write host r options fallback name).runFrom s = (x, s')
      ↔ Writes host r options fallback name s x s' := by
  rw [runFrom_write]
  constructor
  · intro h
    split at h
    next hfailed =>
      obtain ⟨rfl, rfl⟩ := Prod.mk.inj h
      exact .unsuccessful (by simpa using hfailed)
    next hnot =>
      have hsuccess : r.success = true := by simpa using hnot
      split at h
      next hname =>
        obtain ⟨rfl, rfl⟩ := Prod.mk.inj h
        exact .nameless hsuccess hname
      next chosen hname =>
        split at h
        next hfolder =>
          obtain ⟨rfl, rfl⟩ := Prod.mk.inj h
          exact .noFolder hsuccess hname hfolder
        next s₁ hfolder =>
          split at h
          next hl =>
            obtain ⟨rfl, rfl⟩ := Prod.mk.inj h
            exact .misnamed hsuccess hname hfolder hl
          next l hl =>
            split at h
            next hall =>
              obtain ⟨rfl, rfl⟩ := Prod.mk.inj h
              exact .stopped hsuccess hname hfolder hl hall
            next hall =>
              obtain ⟨rfl, rfl⟩ := Prod.mk.inj h
              exact .completed hsuccess hname hfolder hl hall
  · intro h
    cases h with
    | unsuccessful hfailed => simp [hfailed]
    | nameless hsuccess hname => simp [hsuccess, hname]
    | noFolder hsuccess hname hfolder => simp [hsuccess, hname, hfolder]
    | misnamed hsuccess hname hfolder hl => simp [hsuccess, hname, hfolder, hl]
    | stopped hsuccess hname hfolder hl hall => simp [hsuccess, hname, hfolder, hl, hall]
    | completed hsuccess hname hfolder hl hall => simp [hsuccess, hname, hfolder, hl, hall]

/-- Whether it succeeds or not, what a whole writing does to the disk is creating the folder and
then a sequence of storings in it. -/
theorem write_related {options : Options} {fallback : Path} {name : Value}
    {x : Except Failure Layout} {R : Disk → Disk → Prop} (hrefl : ∀ d, R d d)
    (htrans : ∀ {d e f}, R d e → R e f → R d f)
    (hfolder : ∀ {d : Disk}, d.LinkFree →
      R d (d.ensureFolders host.cwd (options.outputFolder fallback)).2)
    (hstore : ∀ {l : Layout} {a d e c cut? x}, l.folder = options.outputFolder fallback →
      d.LinkFree → store d host.cwd (l.path a) c cut? = (x, e) → R d e)
    (hd : s.disk.LinkFree)
    (h : (write host r options fallback name).runFrom s = (x, s')) : R s.disk s'.disk := by
  have hprepare : ∀ {y s₁},
      (prepareFolder host (options.outputFolder fallback)).runFrom s = (y, s₁) →
        R s.disk s₁.disk ∧ s₁.disk.LinkFree := by
    intro y s₁ h
    refine ⟨?_, (prepareFolder_spec hd h).1.linkFree hd⟩
    have hmade := hfolder hd
    rw [runFrom_prepareFolder] at h
    split at h
    all_goals
      next hensure =>
        obtain ⟨-, rfl⟩ := Prod.mk.inj h
        rwa [hensure] at hmade
  have hall : ∀ {chosen l y s₁ s₂},
      (prepareFolder host (options.outputFolder fallback)).runFrom s = (.ok (), s₁) →
      Layout.ofName (options.outputFolder fallback) chosen = .valid l →
      (writeAll host r l (plan options)).runFrom s₁ = (y, s₂) → R s.disk s₂.disk := by
    intro chosen l y s₁ s₂ hmade hl h
    obtain ⟨hfirst, hd₁⟩ := hprepare hmade
    exact htrans hfirst
      (writeAll_related hrefl htrans (fun _ => hstore (ofName_eq_valid hl).1) hd₁ h)
  cases write_iff.1 h with
  | unsuccessful => exact hrefl _
  | nameless => exact hrefl _
  | noFolder _ _ hmade => exact (hprepare hmade).1
  | misnamed _ _ hmade => exact (hprepare hmade).1
  | stopped _ _ hmade hl hwritten => exact hall hmade hl hwritten
  | completed _ _ hmade hl hwritten =>
    have hwhole := hall hmade hl hwritten
    exact hwhole

/-- Once the output folder is made it stays, whatever becomes of the artifacts. -/
theorem folder_of_write {options : Options} {fallback : Path} {name chosen : Value}
    {x : Except Failure Layout} (hd : s.disk.LinkFree)
    (hdirect : (options.outputFolder fallback).Direct) (hsuccess : r.success = true)
    (hname : fileName? name r options = some chosen)
    (hmade : (s.disk.ensureFolders host.cwd (options.outputFolder fallback)).1 = .ok ())
    (h : (write host r options fallback name).runFrom s = (x, s')) :
    s'.disk.get? ((options.outputFolder fallback).location host.cwd) = some .folder := by
  have hprepare : ∀ {y s₁},
      (prepareFolder host (options.outputFolder fallback)).runFrom s = (y, s₁) →
        y = .ok () ∧ s₁.disk.LinkFree
          ∧ s₁.disk.get? ((options.outputFolder fallback).location host.cwd) = some .folder := by
    intro y s₁ h
    obtain ⟨hadded, -, -, hleads, -⟩ := prepareFolder_spec hd h
    obtain rfl : y = .ok () := by
      rw [runFrom_prepareFolder] at h
      split at h
      next => exact (Prod.mk.inj h).1.symm
      next hensure => simp [hensure] at hmade
      next hensure => simp [hensure] at hmade
    exact ⟨rfl, hadded.linkFree hd, (hleads rfl).get?_of_above hdirect (List.prefix_refl _)⟩
  cases write_iff.1 h with
  | unsuccessful hfailed => simp [hfailed] at hsuccess
  | nameless _ hnone => simp [hnone] at hname
  | noFolder _ _ hfolder => exact absurd (hprepare hfolder).1 (by simp)
  | misnamed _ _ hfolder => exact (hprepare hfolder).2.2
  | stopped _ _ hfolder _ hall =>
    obtain ⟨-, hd₁, hleads⟩ := hprepare hfolder
    exact ((filesChange_writeAll hd₁ hall).folders _).2 hleads
  | completed _ _ hfolder _ hall =>
    obtain ⟨-, hd₁, hleads⟩ := hprepare hfolder
    exact ((filesChange_writeAll hd₁ hall).folders _).2 hleads

/-- No artifact is written twice. -/
theorem nodup_plan (options : Options) : (plan options).Nodup := by
  unfold plan
  cases options.emitDebugInfo <;> cases options.emitAssembly <;> decide

/-- Whatever file a writing changes is the file of one of its artifacts. -/
theorem exists_layout_of_file?_ne {options : Options} {fallback : Path} {name : Value}
    {x : Except Failure Layout} {k : Location} (hd : s.disk.LinkFree)
    (h : (write host r options fallback name).runFrom s = (x, s'))
    (hk : s'.disk.file? k ≠ s.disk.file? k) :
    ∃ chosen l, fileName? name r options = some chosen
      ∧ Layout.ofName (options.outputFolder fallback) chosen = .valid l
      ∧ k ∈ places host l (plan options) := by
  cases write_iff.1 h with
  | unsuccessful => exact absurd rfl hk
  | nameless => exact absurd rfl hk
  | noFolder _ _ hfolder => exact absurd ((prepareFolder_spec hd hfolder).1.file?_eq k) hk
  | misnamed _ _ hfolder => exact absurd ((prepareFolder_spec hd hfolder).1.file?_eq k) hk
  | @stopped chosen l f s₁ s₂ _ hname hfolder hl hall =>
    have hadded := (prepareFolder_spec hd hfolder).1
    have hchange := filesChange_writeAll (hadded.linkFree hd) hall
    refine ⟨chosen, l, hname, hl, Decidable.byContradiction fun hplace => hk ?_⟩
    rw [hchange.file?_eq hplace, hadded.file?_eq]
  | @completed chosen l files s₁ s₂ _ hname hfolder hl hall =>
    have hadded := (prepareFolder_spec hd hfolder).1
    have hchange := filesChange_writeAll (hadded.linkFree hd) hall
    refine ⟨chosen, l, hname, hl, Decidable.byContradiction fun hplace => hk ?_⟩
    exact (hchange.file?_eq hplace).trans (hadded.file?_eq k)

end ContractBuild.Artifact
