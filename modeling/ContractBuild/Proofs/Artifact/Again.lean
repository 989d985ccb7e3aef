import ContractBuild.Proofs.Artifact.Writing
import ContractBuild.Proofs.Disk.Again
import ContractBuild.Proofs.Uniform

/-!
# Writing artifacts again

A writing that is repeated on the disk that it left comes to the same and changes nothing
(`yields_write_again`). What was stored is stored again to no effect (`store_ok_again`), and where
the writing stopped it stops again, because whatever stands in its way is still there
(`store_error_again`).

The proof goes up in the same steps as the writing itself: storing, writing one artifact, writing
all of them, the folder, the whole. At each level there is a lemma for success and one for
failure, in terms of `Yields`, which says what a run adds without saying what was there before.
The only induction is the one over the artifacts (`yields_writeAll_again`), and it carries that
the files that are already written are still reachable and still hold their contents.

A failed storing may change the disk in a way that matters to the next one, and the cases show how
little: what was written and removed leaves an empty place, from which the same writing is broken
off in the same place (`store_again_of_removed`); a listing that cannot be encoded leaves an empty
file, which is emptied again. The one thing that a failed storing takes out of its own way is a
device (`device_of_refused`), so it is assumed that no device was removed.
-/

namespace ContractBuild

namespace Disk

/-- Every device of `d` is one of `e` as well. -/
def DevicesKept (d e : Disk) : Prop :=
  ∀ k v, d.get? k = some (.device v) → e.get? k = some (.device v)

variable {d e : Disk} {cwd : Location} {p : Path}

theorem devicesKept_of_forall
    (h : ∀ n ∈ d.entries, n.2 ≠ .device .full ∧ n.2 ≠ .device .null) : DevicesKept d e := by
  intro k v hk
  have hroot : k ≠ [] := by
    rintro rfl
    simp at hk
  obtain ⟨hfull, hnull⟩ := h _ ((get?_eq_some_iff hroot).1 hk)
  cases v with
  | full => exact absurd rfl hfull
  | null => exact absurd rfl hnull

theorem write_of_missing (hd : d.LinkFree) (hp : p.Openable) {parent : Location} {name : String}
    (h : Leads d (p.origin cwd) p.parts (.missing parent name)) (content : Bytes) :
    d.write cwd p content = .ok (d.put (p.location cwd) (.file content)) := by
  have hplace : parent ++ [name] = p.location cwd := h.place_eq
  rw [write, (walk_eq_ok_iff hd).2 ⟨hp, h⟩, ← hplace]

end Disk

namespace Artifact

variable {d e : Disk} {cwd : Location} {p : Path} {c : Content} {f : Failure}
variable {cut? : Option Disk.Cutoff}

/-! ## Storing -/

/-- The device that keeps nothing is found at the place of a path that leads somewhere. -/
theorem keepsNothing_iff (hd : d.LinkFree) (hp : p.Openable)
    (h : ∃ a, Disk.Leads d (p.origin cwd) p.parts a) :
    keepsNothing d cwd p = true ↔ d.get? (p.location cwd) = some (.device .null) := by
  obtain ⟨a, ha⟩ := h
  have hplace : a.place = p.location cwd := ha.place_eq
  have hwalk : d.walk .follow cwd (.ofPath p) = .ok a := (Disk.walk_eq_ok_iff hd).2 ⟨hp, ha⟩
  rw [← hplace, ← Disk.nodeAt_eq (by simp)]
  cases a with
  | missing parent name =>
    have hnone : d.get? (parent ++ [name]) = none := ha.of_missing.2.1
    simp [keepsNothing, Disk.status, Disk.locate, hwalk, Except.map, Disk.Arrival.place,
      Disk.nodeAt, hnone]
  | reached l =>
    simp only [keepsNothing, Disk.status, Disk.locate, hwalk, Except.map, Disk.Arrival.place]
    split
    next hnode => simp [Except.ok.inj hnode]
    next hother => simpa using fun hnode => hother (by rw [hnode])

theorem keepsNothing_eq_false (hd : d.LinkFree) (hp : p.Openable)
    (h : ∃ a, Disk.Leads d (p.origin cwd) p.parts a)
    (hdevice : d.get? (p.location cwd) ≠ some (.device .null)) : keepsNothing d cwd p = false :=
  Bool.eq_false_iff.2 fun hyes => hdevice ((keepsNothing_iff hd hp h).1 hyes)

/-- Why an archive cannot be filled does not depend on more of a disk than what keeps nothing. -/
theorem fillFault?_congr (h : keepsNothing e cwd p = keepsNothing d cwd p) :
    fillFault? e cwd p c = fillFault? d cwd p c := by
  unfold fillFault?
  rw [h]

theorem fillFault?_eq_none_mono (h : fillFault? d cwd p c = none)
    (hkeeps : keepsNothing e cwd p = true → keepsNothing d cwd p = true) :
    fillFault? e cwd p c = none := by
  unfold fillFault? at h ⊢
  split
  next => rfl
  next => simp at h
  next entry =>
    simp only at h
    split at h
    next => simp at h
    next hfits =>
      split at h
      next => simp at h
      next hno =>
        refine if_neg fun hyes => hno ?_
        obtain ⟨hnothing, hnowhere⟩ := Bool.and_eq_true_iff.1 hyes
        rw [hkeeps hnothing, hnowhere, Bool.and_self]

/-- What was stored is stored again to no effect, as long as it stays and can be reached. -/
theorem store_ok_again {d' : Disk} (hd : d.LinkFree) (h : store d cwd p c cut? = (.ok (), d'))
    (he : e.LinkFree) (hkept : Disk.FoldersKept d' e)
    (hsame : e.get? (p.location cwd) = d'.get? (p.location cwd)) :
    store e cwd p c cut? = (.ok (), e) := by
  have hwritten := store_ok hd h
  obtain ⟨a, ha⟩ := hwritten.leads
  have hleads : ∃ a, Disk.Leads e (p.origin cwd) p.parts a :=
    ha.mono fun k hk => hkept k (hwritten.change.foldersKept k hk)
  cases store_iff.1 h with
  | stored hfill hfault =>
    cases hfill with
    | complete hcut hwrite =>
      have hagain : e.Fills cwd p c.bytes cut? (.ok ()) e :=
        .complete hcut (Disk.write_again hd hwrite he hkept hsame)
      refine store_iff.2 (.stored hagain (fillFault?_eq_none_mono hfault fun hnothing => ?_))
      -- only a device that was there before keeps nothing
      have hnode := (keepsNothing_iff he hwritten.openable hleads).1 hnothing
      rw [hsame] at hnode
      rcases hwritten.held with hheld | ⟨v, -, rfl⟩
      · simp [hheld] at hnode
      · exact (keepsNothing_iff hd hwritten.openable ⟨a, ha⟩).2 hnode

/-- A file that cannot be opened and cannot be removed leaves the disk as it was. -/
theorem discard_retract_of_refused {n : Errno} {fault : Disk.Fault}
    (hunlink : d.unlink cwd p = .error fault) :
    discard (retract d cwd p n c).2 cwd p = d := by
  have hdiscard : discard d cwd p = d := by rw [discard, hunlink]
  cases c with
  | plain b => exact hdiscard
  | loose t => exact hdiscard
  | archive entry =>
    simp only [retract, hunlink]
    split
    next hremoved => simp at hremoved
    all_goals exact hdiscard

/-- Nothing but a device both refuses a content and can be removed. -/
theorem device_of_refused {n : Errno} {content : Bytes} (hd : d.LinkFree)
    (h : d.write cwd p content = .error (.errno n)) (hunlink : d.unlink cwd p = .ok e) :
    ∃ v, d.get? (p.location cwd) = some (.device v) := by
  unfold Disk.unlink at hunlink
  split at hunlink
  next => simp at hunlink
  next => simp at hunlink
  next l hwalk =>
    obtain ⟨hp, hleads⟩ := (Disk.walk_eq_ok_iff hd).1 hwalk
    obtain rfl : l = p.location cwd := hleads.place_eq
    split at hunlink
    next => simp at hunlink
    next hfolder =>
      cases hn : d.get? (p.location cwd) with
      | none => simp [Disk.nodeAt, hn] at hfolder
      | some m =>
        rw [Disk.write_of_leads hd hp ⟨_, hleads⟩ (by simp [hn])] at h
        cases m with
        | folder => simp [Disk.nodeAt, hn] at hfolder
        | link target => exact absurd hn (hd _ _)
        | device v => exact ⟨v, rfl⟩
        | file b => simp [Disk.nodeAt, hn] at h

/-- What is put where nothing was is removed without a trace. -/
theorem unlink_of_missing (hd : d.LinkFree) (hp : p.Openable) {parent : Location} {name : String}
    (h : Disk.Leads d (p.origin cwd) p.parts (.missing parent name)) (content : Bytes) :
    d.write cwd p content = .ok (d.put (p.location cwd) (.file content))
      ∧ (d.put (p.location cwd) (.file content)).unlink cwd p = .ok d := by
  have hplace : parent ++ [name] = p.location cwd := h.place_eq
  have haccepts := Disk.accepts_of_missing hp h
  have hnone := h.of_missing.2.1
  rw [hplace] at haccepts hnone
  have hwrite := Disk.write_of_missing hd hp h content
  refine ⟨hwrite, ?_⟩
  rw [unlink_written hd (Disk.write_ok hd hwrite), Disk.remove_put haccepts hnone]

/-- A storing that fails and removes what it wrote, for a reason that a place where nothing stands
gives as well. -/
inductive Removes (d : Disk) (cwd : Location) (p : Path) (c : Content) (cut? : Option Disk.Cutoff) :
    Failure → Prop
  | unfilled {entry : Archive.Entry} {f : Failure} (hc : c = .archive entry) (hcut : cut? = none)
    (hfault : fillFault? d cwd p c = some f) : Removes d cwd p c cut? f
  | broken {cut : Disk.Cutoff} (hcut : cut? = some cut) :
    Removes d cwd p c cut? (.system cut.reason)

/-- Where nothing stands, such a storing leaves no trace. -/
theorem store_of_missing (hd : d.LinkFree) (hp : p.Openable) {parent : Location} {name : String}
    (h : Disk.Leads d (p.origin cwd) p.parts (.missing parent name))
    (hremoves : Removes d cwd p c cut? f) : store d cwd p c cut? = (.error f, d) := by
  have hput := unlink_of_missing hd hp h
  cases hremoves with
  | @unfilled entry _ hc hcut hfault =>
    obtain ⟨hwrite, hunlink⟩ := hput c.bytes
    subst hc
    rw [store_iff.2 (.unfilled (.complete hcut hwrite) hfault), abandon, discard, hunlink]
  | @broken cut hcut =>
    obtain ⟨hwrite, hunlink⟩ := hput (c.bytes.take cut.kept)
    obtain ⟨hreason, hremoved⟩ := discard_retract
      ((Disk.write_ok hd hwrite).change.linkFree hd) hunlink cut.reason c
    rw [store_iff.2 (.refused (.broken hcut hwrite)), hreason, hremoved]

/-- What was written and removed again comes to the same from the empty place that it left. -/
theorem store_again_of_removed {content : Bytes} {written : Disk} (hd : d.LinkFree)
    (hp : p.isAbsolute = true) (hwritten : d.Written cwd p content written)
    (hremoves : Removes d cwd p c cut? f) (hremoved : written.unlink cwd p = .ok e)
    (hdevices : Disk.DevicesKept d e) : store e cwd p c cut? = (.error f, e) := by
  obtain ⟨hchange, hnone⟩ := Disk.unlink_ok (hwritten.change.linkFree hd) hremoved
  have hchange := hwritten.change.trans hchange
  have he := hchange.linkFree hd
  obtain ⟨a, ha⟩ := hwritten.leads
  obtain ⟨b, hb⟩ := ha.mono hchange.foldersKept
  -- neither before nor after does a device stand in the place
  have hbefore : keepsNothing d cwd p = false :=
    keepsNothing_eq_false hd hwritten.openable ⟨a, ha⟩ fun hnode => by
      simp [hdevices _ _ hnode] at hnone
  have hafter : keepsNothing e cwd p = false :=
    keepsNothing_eq_false he hwritten.openable ⟨b, hb⟩ (by simp [hnone])
  have hagain : Removes e cwd p c cut? f := by
    cases hremoves with
    | unfilled hc hcut hfault =>
      exact .unfilled hc hcut ((fillFault?_congr (hafter.trans hbefore.symm)).trans hfault)
    | broken hcut => exact .broken hcut
  cases b with
  | missing parent name => exact store_of_missing he hwritten.openable hb hagain
  | reached l =>
    obtain rfl : l = p.location cwd := hb.place_eq
    exact absurd hnone (hb.exists_of_reached (by simp [Path.origin, hp]))

/-- Where no device was removed, what could not be stored cannot be stored again. -/
theorem store_error_again (hd : d.LinkFree) (hp : p.isAbsolute = true)
    (h : store d cwd p c cut? = (.error f, e)) (hdevices : Disk.DevicesKept d e) :
    store e cwd p c cut? = (.error f, e) := by
  have hstored := h
  cases store_iff.1 h with
  | unfilled hfill hfault =>
    cases hfill with
    | @complete written hcut hwrite =>
      have hwritten := Disk.write_ok hd hwrite
      cases c with
      | plain b => simp [fillFault?] at hfault
      | archive entry =>
        have hunlink := unlink_written hd hwritten
        simp only [abandon, discard, hunlink] at hdevices ⊢
        exact store_again_of_removed hd hp hwritten (.unfilled rfl hcut hfault) hunlink hdevices
      | loose t =>
        -- the empty file is emptied once more
        have hagain := Disk.write_again hd hwrite (hwritten.change.linkFree hd) (fun _ hk => hk) rfl
        exact store_iff.2 (.unfilled (.complete hcut hagain) hfault)
  | nul hfill =>
    cases hfill with
    | refused => exact hstored
  | refused hfill =>
    cases hfill with
    | @refused fault hwrite =>
      cases hunlink : d.unlink cwd p with
      | error _ => rwa [discard_retract_of_refused hunlink] at hstored ⊢
      | ok removed =>
        -- only a device would be removed
        obtain ⟨v, hv⟩ := device_of_refused hd hwrite hunlink
        have hnone := (Disk.unlink_ok hd hunlink).2
        have hkept := hdevices _ v hv
        rw [(discard_retract hd hunlink _ c).2, hnone] at hkept
        simp at hkept
    | broken hcut hwrite =>
      have hwritten := Disk.write_ok hd hwrite
      have hunlink := unlink_written hd hwritten
      obtain ⟨hreason, hremoved⟩ :=
        discard_retract (hwritten.change.linkFree hd) hunlink _ c
      rw [hremoved] at hdevices
      rw [hreason, hremoved]
      exact store_again_of_removed hd hp hwritten (.broken hcut) hunlink hdevices

/-! ## Writing one artifact -/

variable {host : Host} {r : Compiled} {l : Layout} {a : Artifact} {as : List Artifact} {u : Run}

theorem refusedTrail_eq_extend (host : Host) (l : Layout) (a : Artifact) (n : Errno) (t : Trail) :
    refusedTrail host l a n t = t.extend (refusedTrail host l a n {}) := by
  unfold refusedTrail Attempt.noted
  split
  next => simp [Trail.extend]
  next => simp [Trail.extend]

/-- What is added by an artifact that was produced and stored, or could not be stored. -/
def storedRun (host : Host) (l : Layout) (a : Artifact) (e : Disk) :
    Except Failure Unit → Except Failure Path × Run
  | .ok () => (.ok (l.path a),
      { disk := e, lines := [createdLine l a], trail := { produced := [a] } })
  | .error (.system n) => (.error (.refused (refusal l a)),
      { disk := e, trail := ({ produced := [a] } : Trail).extend (refusedTrail host l a n {}) })
  | .error f => (.error f, { disk := e, trail := { produced := [a] } })

theorem yields_writeOne_of_store {doc : Value} {z : Except Failure Unit}
    (hdoc : r.produce a = .ok doc) (hc : content l a doc = .ok c)
    (hstore : store d host.cwd (l.path a) c (host.cutoff? (l.path a) c.bytes) = (z, e)) :
    (writeOne host r l a).Yields d (storedRun host l a e z).1 (storedRun host l a e z).2 := by
  rintro s rfl
  rw [runFrom_writeOne]
  simp only [hdoc, hc, hstore]
  rcases z with f | ⟨⟩
  · cases f with
    | system n =>
      simp only [storedRun, Run.after]
      rw [refusedTrail_eq_extend]
      simp [called, Trail.extend]
    | _ => simp [storedRun, Run.after, called, Trail.extend]
  · simp [storedRun, Run.after, called, Trail.extend]

/-- An artifact without a content. -/
def Unproduced (r : Compiled) (l : Layout) (a : Artifact) (f : Failure) : Prop :=
  r.produce a = .error f ∨ ∃ doc, r.produce a = .ok doc ∧ content l a doc = .error f

theorem yields_writeOne_of_unproduced (h : Unproduced r l a f) (host : Host) (d : Disk) :
    (writeOne host r l a).Yields d (.error f) { disk := d, trail := { produced := [a] } } := by
  rintro s rfl
  rw [runFrom_writeOne]
  rcases h with hdoc | ⟨doc, hdoc, hc⟩
  · simp [hdoc, Run.after, called, Trail.extend]
  · simp [hdoc, hc, Run.after, called, Trail.extend]

/-- What is written for an artifact has a content, or has none whatever the disk. -/
theorem unproduced_or_content (r : Compiled) (l : Layout) (a : Artifact) :
    (∃ f, Unproduced r l a f) ∨ ∃ doc c, r.produce a = .ok doc ∧ content l a doc = .ok c := by
  cases hdoc : r.produce a with
  | error f => exact .inl ⟨f, .inl hdoc⟩
  | ok doc =>
    cases hc : content l a doc with
    | error f => exact .inl ⟨f, .inr ⟨doc, hdoc, hc⟩⟩
    | ok c => exact .inr ⟨doc, c, rfl, hc⟩

theorem uniform_writeOne (host : Host) (r : Compiled) (l : Layout) (a : Artifact) :
    (writeOne host r l a).Uniform := by
  intro d
  rcases unproduced_or_content r l a with ⟨f, hnone⟩ | ⟨doc, c, hdoc, hc⟩
  · exact ⟨_, _, yields_writeOne_of_unproduced hnone host d⟩
  · exact ⟨_, _, yields_writeOne_of_store hdoc hc rfl⟩

/-- An artifact that was written is written again to no effect, as long as it stays. -/
theorem yields_writeOne_ok_again (hd : d.LinkFree)
    (h : (writeOne host r l a).Yields d (.ok p) u) (he : e.LinkFree)
    (hkept : Disk.FoldersKept u.disk e)
    (hsame : e.get? ((l.path a).location host.cwd) = u.disk.get? ((l.path a).location host.cwd)) :
    (writeOne host r l a).Yields e (.ok p) { u with disk := e } := by
  rcases unproduced_or_content r l a with ⟨f, hnone⟩ | ⟨doc, c, hdoc, hc⟩
  · exact absurd (h.unique (yields_writeOne_of_unproduced hnone host d)).1 (by simp)
  · rcases hstore : store d host.cwd (l.path a) c (host.cutoff? (l.path a) c.bytes) with
      ⟨z, d'⟩
    obtain ⟨hx, rfl⟩ := h.unique (yields_writeOne_of_store hdoc hc hstore)
    rcases z with f | ⟨⟩
    · cases f <;> simp [storedRun] at hx
    · obtain rfl := Except.ok.inj hx
      exact yields_writeOne_of_store hdoc hc (store_ok_again hd hstore he hkept hsame)

/-- An artifact that could not be written cannot be written again. -/
theorem yields_writeOne_error_again (hd : d.LinkFree) (hl : l.folder.isAbsolute = true)
    (h : (writeOne host r l a).Yields d (.error f) u) (hdevices : Disk.DevicesKept d u.disk) :
    (writeOne host r l a).Yields u.disk (.error f) u := by
  rcases unproduced_or_content r l a with ⟨g, hnone⟩ | ⟨doc, c, hdoc, hc⟩
  · obtain ⟨hx, rfl⟩ := h.unique (yields_writeOne_of_unproduced hnone host d)
    obtain rfl := Except.error.inj hx
    exact yields_writeOne_of_unproduced hnone host d
  · rcases hstore : store d host.cwd (l.path a) c (host.cutoff? (l.path a) c.bytes) with
      ⟨z, d'⟩
    obtain ⟨hx, rfl⟩ := h.unique (yields_writeOne_of_store hdoc hc hstore)
    rcases z with g | ⟨⟩
    · have hdisk : (storedRun host l a d' (.error g)).2.disk = d' := by cases g <;> rfl
      rw [hdisk] at hdevices ⊢
      rw [hx]
      exact yields_writeOne_of_store hdoc hc
        (store_error_again hd (Path.isAbsolute_join hl) hstore hdevices)
    · simp [storedRun] at hx

/-! ## Writing all of them -/

theorem uniform_writeAll (host : Host) (r : Compiled) (l : Layout) (as : List Artifact) :
    (writeAll host r l as).Uniform := by
  induction as with
  | nil => exact fun d => ⟨_, _, Running.yields_pure [] d⟩
  | cons a as ih =>
    refine (uniform_writeOne host r l a).bind fun p => ih.bind fun ps d => ?_
    exact ⟨_, _, Running.yields_pure (p :: ps) d⟩

/-- Writing makes no device. -/
theorem get?_device_of_writeOne (hd : d.LinkFree) (h : (writeOne host r l a).Yields d (.ok p) u)
    {k : Location} {v : Device} (hv : u.disk.get? k = some (.device v)) :
    d.get? k = some (.device v) := by
  obtain ⟨doc, c, e, -, -, hstore, -, hu⟩ := writeOne_eq_ok_iff.1 (h (.blank d) rfl)
  have hwritten := store_ok hd hstore
  obtain rfl : u.disk = e := congrArg Run.disk hu
  by_cases hk : k = (l.path a).location host.cwd
  · subst hk
    rcases hwritten.held with hheld | ⟨_, -, hsame⟩
    · simp [hheld] at hv
    · exact hsame ▸ hv
  · rwa [hwritten.change.elsewhere k (by simpa using hk)] at hv

/-- A writing that is repeated comes to the same: every artifact before the one at which it stopped
is written again to no effect, since the others have other places. -/
theorem yields_writeAll_again {x : Except Failure (List Path)} (hd : d.LinkFree)
    (hl : l.folder.isAbsolute = true) (hnodup : as.Nodup)
    (h : (writeAll host r l as).Yields d x u) (hdevices : Disk.DevicesKept d u.disk) :
    (writeAll host r l as).Yields u.disk x u := by
  induction as generalizing d x u with
  | nil =>
    obtain ⟨rfl, rfl⟩ := h.unique (Running.yields_pure [] d)
    exact h
  | cons a as ih =>
    obtain ⟨ha, hnodup⟩ := List.nodup_cons.1 hnodup
    obtain ⟨y, v, hone⟩ := uniform_writeOne host r l a d
    cases y with
    | error f =>
      obtain ⟨rfl, rfl⟩ := h.unique hone.bind_error
      exact (yields_writeOne_error_again hd hl hone hdevices).bind_error
    | ok p =>
      obtain ⟨z, w, hrest⟩ := uniform_writeAll host r l as v.disk
      obtain ⟨rfl, rfl⟩ := h.unique (hone.bind (hrest.bind_pure (p :: ·)))
      have hd₁ : v.disk.LinkFree := (filesChange_writeOne hd (hone (.blank d) rfl)).linkFree hd
      have hchange := filesChange_writeAll hd₁ (hrest v rfl)
      have hplace : (l.path a).location host.cwd ∉ places host l as := notMem_places ha
      have hsame := hchange.elsewhere _ hplace
      have hrest' := ih hd₁ hnodup hrest fun k v hv =>
        hdevices k v (get?_device_of_writeOne hd hone hv)
      have hone' :=
        yields_writeOne_ok_again hd hone (hchange.linkFree hd₁) hchange.foldersKept hsame
      exact hone'.bind (hrest'.bind_pure (p :: ·))

/-! ## The folder -/

/-- What is added by creating the output folder. -/
def preparedRun (host : Host) (folder : Path) (e : Disk) :
    Except Disk.Fault Unit → Except Failure Unit × Run
  | .ok () => (.ok (), .blank e)
  | .error .nul => (.error .nulInPath, .blank e)
  | .error (.errno n) => (.error (.refused (.unwritable folder.toText)),
      { disk := e, trail := Attempt.noted {} (.unwritable folder.toText) (host.describe n) })

theorem yields_prepareFolder (host : Host) {folder : Path} {z : Except Disk.Fault Unit}
    (h : d.ensureFolders host.cwd folder = (z, e)) :
    (prepareFolder host folder).Yields d (preparedRun host folder e z).1
      (preparedRun host folder e z).2 := by
  rintro s rfl
  rw [runFrom_prepareFolder, h]
  rcases z with f | ⟨⟩
  · cases f with
    | nul => simp [preparedRun, Run.after, Run.blank]
    | errno n =>
      simp only [preparedRun, Run.after, List.append_nil]
      rw [Attempt.noted_eq_extend]
  · simp [preparedRun, Run.after, Run.blank]

theorem uniform_prepareFolder (host : Host) (folder : Path) :
    (prepareFolder host folder).Uniform := fun _ => ⟨_, _, yields_prepareFolder host rfl⟩

/-- A folder that is there is created to no effect. -/
theorem yields_prepareFolder_of_leadsTo (host : Host) {folder : Path} (hd : d.LinkFree)
    (h : d.LeadsToFolder host.cwd folder) :
    (prepareFolder host folder).Yields d (.ok ()) (.blank d) :=
  yields_prepareFolder host (Disk.ensureFolders_of_leadsTo hd h)

/-- A folder that was created adds nothing but itself, and one that could not be created cannot be
created again. -/
theorem yields_prepareFolder_again {folder : Path} {x : Except Failure Unit} (hd : d.LinkFree)
    (hfolder : folder.Direct) (h : (prepareFolder host folder).Yields d x u) :
    match x with
    | .ok () => u = .blank u.disk ∧ u.disk.LeadsToFolder host.cwd folder
    | .error f => (prepareFolder host folder).Yields u.disk (.error f) u := by
  rcases hmade : d.ensureFolders host.cwd folder with ⟨z, e⟩
  obtain ⟨rfl, rfl⟩ := h.unique (yields_prepareFolder host hmade)
  rcases z with f | ⟨⟩
  · have hagain := yields_prepareFolder host (Disk.ensureFolders_again hd hfolder hmade)
    cases f <;> exact hagain
  · have hspec := (Disk.ensureFolders_spec hd host.cwd folder).2
    rw [hmade] at hspec
    exact ⟨rfl, hspec rfl⟩

/-! ## The whole writing -/

variable {options : Options} {fallback folder : Path} {name chosen : Value}

/-- The end of a successful writing. -/
def complete (l : Layout) (folder : Path) (files : List Path) : Running Layout := do
  Running.writeLine .out completedLine
  Running.record (writtenRecord folder files.length)
  return { l with files }

theorem yields_complete (l : Layout) (folder : Path) (files : List Path) (d : Disk) :
    (complete l folder files).Yields d (.ok { l with files })
      (completed (.blank d) folder files.length) := by
  rintro s rfl
  have hrun : (complete l folder files).runFrom s
      = (.ok { l with files }, completed s folder files.length) := rfl
  rw [hrun]
  simp [Run.after, completed, Run.blank, Trail.extend]

/-- The writing of all artifacts under a name, once there is a folder. -/
def writeInto (host : Host) (r : Compiled) (options : Options) (folder : Path)
    (name : Value) : Running Layout :=
  match Layout.ofName folder name with
  | .invalid issues => Running.fail (.invalid issues)
  | .valid l => writeAll host r l (plan options) >>= complete l folder

/-- A writing fails before it looks at the disk, or it makes the folder and goes on there. -/
theorem write_eq (host : Host) (r : Compiled) (options : Options) (fallback : Path)
    (name : Value) :
    (∃ f, write host r options fallback name = Running.fail f)
      ∨ ∃ chosen, write host r options fallback name
        = prepareFolder host (options.outputFolder fallback) >>= fun _ =>
          writeInto host r options (options.outputFolder fallback) chosen := by
  unfold write
  split
  next => exact .inl ⟨_, rfl⟩
  next =>
    split
    next => exact .inl ⟨_, rfl⟩
    next chosen _ => exact .inr ⟨chosen, rfl⟩

theorem uniform_writeInto (host : Host) (r : Compiled) (options : Options) (folder : Path)
    (name : Value) : (writeInto host r options folder name).Uniform := by
  unfold writeInto
  split
  next => exact fun d => ⟨_, _, Running.yields_fail _ d⟩
  next =>
    exact (uniform_writeAll _ _ _ _).bind fun files d => ⟨_, _, yields_complete _ _ files d⟩

theorem uniform_write (host : Host) (r : Compiled) (options : Options) (fallback : Path)
    (name : Value) : (write host r options fallback name).Uniform := by
  rcases write_eq host r options fallback name with ⟨f, hfails⟩ | ⟨chosen, hgoes⟩
  · rw [hfails]
    exact fun d => ⟨_, _, Running.yields_fail f d⟩
  · rw [hgoes]
    exact (uniform_prepareFolder _ _).bind fun _ => uniform_writeInto _ _ _ _ _

/-- What is written into a folder takes no directory away. -/
theorem foldersKept_of_writeInto {x : Except Failure Layout} (hd : d.LinkFree)
    (h : (writeInto host r options folder name).Yields d x u) :
    u.disk.LinkFree ∧ Disk.FoldersKept d u.disk := by
  unfold writeInto at h
  split at h
  next =>
    obtain ⟨-, rfl⟩ := h.unique (Running.yields_fail _ d)
    exact ⟨hd, fun _ hk => hk⟩
  next l _ =>
    obtain ⟨y, v, hall⟩ := uniform_writeAll host r l (plan options) d
    have hchange := filesChange_writeAll (s := .blank d) hd (hall (.blank d) rfl)
    cases y with
    | error f =>
      obtain ⟨-, rfl⟩ := h.unique hall.bind_error
      exact ⟨hchange.linkFree hd, hchange.foldersKept⟩
    | ok files =>
      obtain ⟨-, rfl⟩ := h.unique (hall.bind (yields_complete l folder files v.disk))
      exact ⟨hchange.linkFree hd, hchange.foldersKept⟩

theorem yields_writeInto_again {x : Except Failure Layout} (hd : d.LinkFree)
    (hfolder : folder.isAbsolute = true)
    (h : (writeInto host r options folder name).Yields d x u)
    (hdevices : Disk.DevicesKept d u.disk) :
    (writeInto host r options folder name).Yields u.disk x u := by
  unfold writeInto at h ⊢
  split at h
  next issues hname =>
    obtain ⟨rfl, rfl⟩ := h.unique (Running.yields_fail _ d)
    exact h
  next l hname =>
    have hl : l.folder.isAbsolute = true := (ofName_eq_valid hname).1 ▸ hfolder
    obtain ⟨y, v, hall⟩ := uniform_writeAll host r l (plan options) d
    cases y with
    | error f =>
      obtain ⟨rfl, rfl⟩ := h.unique hall.bind_error
      exact (yields_writeAll_again hd hl (nodup_plan options) hall hdevices).bind_error
    | ok files =>
      obtain ⟨rfl, rfl⟩ := h.unique (hall.bind (yields_complete l folder files v.disk))
      exact (yields_writeAll_again hd hl (nodup_plan options) hall hdevices).bind
        (yields_complete l folder files v.disk)

/-- A whole writing that is repeated comes to the same and changes nothing. -/
theorem yields_write_again {x : Except Failure Layout} (hd : d.LinkFree)
    (hfolder : (options.outputFolder fallback).Direct)
    (h : (write host r options fallback name).Yields d x u)
    (hdevices : Disk.DevicesKept d u.disk) :
    (write host r options fallback name).Yields u.disk x u := by
  rcases write_eq host r options fallback name with ⟨f, hfails⟩ | ⟨chosen, hgoes⟩
  · rw [hfails] at h ⊢
    obtain ⟨rfl, rfl⟩ := h.unique (Running.yields_fail f d)
    exact h
  · rw [hgoes] at h ⊢
    obtain ⟨y, v, hmade⟩ := uniform_prepareFolder host (options.outputFolder fallback) d
    have hadded := (prepareFolder_spec (s := .blank d) hd (hmade (.blank d) rfl)).1
    have hagain := yields_prepareFolder_again hd hfolder hmade
    cases y with
    | error f =>
      obtain ⟨rfl, rfl⟩ := h.unique hmade.bind_error
      exact hagain.bind_error
    | ok _ =>
      obtain ⟨hblank, hleads⟩ := hagain
      obtain ⟨z, w, hwritten⟩ := uniform_writeInto host r options
        (options.outputFolder fallback) chosen v.disk
      obtain ⟨rfl, rfl⟩ := h.unique (hmade.bind hwritten)
      have hd₁ : v.disk.LinkFree := hadded.linkFree hd
      obtain ⟨hdw, hkept⟩ := foldersKept_of_writeInto hd₁ hwritten
      have hwritten' := yields_writeInto_again hd₁ hfolder.absolute hwritten fun k v hv =>
        hdevices k v (hadded.get?_device hv)
      -- the folder is there already, and creating it added nothing but itself
      rw [hblank, Run.blank_after]
      have hmade' := yields_prepareFolder_of_leadsTo host hdw (hleads.mono hfolder hkept)
      have hbind := hmade'.bind (f := fun _ => writeInto host r options _ chosen) hwritten'
      rwa [Run.blank_after] at hbind

end Artifact

end ContractBuild
