import ContractBuild.Proofs.Disk.Tests

/-!
# Doing it again

Operations that were carried out on a disk without links change nothing when they are carried out
again, and come to the same. A file that holds its content is written to no effect
(`write_of_leads`), and a directory that is there is created to no effect
(`ensureFolders_of_leadsTo`).

Where the ancestors of a directory could be made only in part, a name on the way was too long, and
the next time the walk gets exactly as far as that name (`ensureFolders_stuck`). So creating a
directory fails a second time for the same reason (`ensureFolders_again`).
-/

namespace ContractBuild.Disk

variable {d e : Disk} {cwd start l : Location} {last : LastLink} {p : Path} {n : Node}
variable {xs ys : List String}

/-! ## Nodes -/

theorem setEntry_eq_self {es : List (Location × Node)} (hdistinct : (es.map Prod.fst).Nodup)
    (h : (l, n) ∈ es) : setEntry l n es = es := by
  induction es with
  | nil => simp at h
  | cons e es ih =>
    rw [List.map_cons, List.nodup_cons] at hdistinct
    unfold setEntry
    rcases List.mem_cons.1 h with rfl | h
    · rw [if_pos rfl]
    · have hne : e.1 ≠ l := fun he => hdistinct.1 (he ▸ List.mem_map_of_mem h)
      rw [if_neg hne, ih hdistinct.2 h]

/-- Putting what is there changes nothing. -/
theorem put_eq_self (h : d.get? l = some n) : d.put l n = d := by
  unfold put
  split
  next haccepts => exact ext (setEntry_eq_self d.distinct ((get?_eq_some_iff haccepts.1).1 h))
  next => rfl

theorem setEntry_of_notMem {es : List (Location × Node)} (h : l ∉ es.map Prod.fst) :
    setEntry l n es = es ++ [(l, n)] := by
  induction es with
  | nil => rfl
  | cons e es ih =>
    rw [List.map_cons, List.mem_cons, not_or] at h
    rw [setEntry, if_neg (Ne.symm h.1), ih h.2, List.cons_append]

/-- Removing what was put where nothing was gives the disk as it was. -/
theorem remove_put (haccepts : d.Accepts l) (h : d.get? l = none) : (d.put l n).remove l = d := by
  have habsent : ∀ e ∈ d.entries, ¬ l <+: e.1 := by
    intro e he hprefix
    have hnode := (get?_eq_some_iff (d.named e he).1).2 he
    by_cases hl : l = e.1
    · simp [hl, hnode] at h
    · simp [get?_of_above hnode hprefix hl] at h
  have hnot : l ∉ d.entries.map Prod.fst := by
    intro hmem
    obtain ⟨e, he, rfl⟩ := List.mem_map.1 hmem
    exact habsent e he (List.prefix_refl _)
  have hkept : d.entries.filter (fun e => !l.isPrefixOf e.1) = d.entries :=
    List.filter_eq_self.2 fun e he => by
      simpa [Bool.eq_false_iff, List.isPrefixOf_iff_prefix] using habsent e he
  apply ext
  simp only [remove, put, dif_pos haccepts, setEntry_of_notMem hnot, List.filter_append, hkept]
  simp

/-! ## Files -/

/-- Writing where something stands already. -/
theorem write_of_leads (hd : d.LinkFree) (hp : p.Openable)
    (h : ∃ a, Leads d (p.origin cwd) p.parts a) (hexists : d.get? (p.location cwd) ≠ none)
    (content : Bytes) :
    d.write cwd p content =
      match d.nodeAt (p.location cwd) with
      | .file _ => .ok (d.put (p.location cwd) (.file content))
      | .device .null => .ok d
      | .device .full => if content.isEmpty then .ok d else .error (.errno .noSpace)
      | .folder | .link _ => .error (.errno .isDirectory) := by
  obtain ⟨a, ha⟩ := h
  have hplace : a.place = p.location cwd := ha.place_eq
  have hreached := ha.reached_of_exists (by rwa [hplace])
  rw [hplace] at hreached
  have hwalk : d.walk .create cwd (.ofPath p) = .ok (.reached (p.location cwd)) :=
    (walk_eq_ok_iff hd).2 ⟨hp, hreached⟩
  rcases hnode : d.nodeAt (p.location cwd) with _ | _ | _ | _ | _ <;> simp [write, hwalk, hnode]

/-- What was written is written again to no effect, as long as it stays and can be reached. -/
theorem write_again {content : Bytes} {d' : Disk} (hd : d.LinkFree)
    (hwrite : d.write cwd p content = .ok d') (he : e.LinkFree) (hkept : FoldersKept d' e)
    (hsame : e.get? (p.location cwd) = d'.get? (p.location cwd)) :
    e.write cwd p content = .ok e := by
  have h := write_ok hd hwrite
  obtain ⟨a, ha⟩ := h.leads
  have hleads : ∃ a, Leads e (p.origin cwd) p.parts a :=
    ha.mono fun k hk => hkept k (h.change.foldersKept k hk)
  rcases h.held with hheld | ⟨v, hv, rfl⟩
  · have hnode := hsame.trans hheld
    rw [write_of_leads he h.openable hleads (by simp [hnode]), (nodeAt_eq (by simp)).2 hnode]
    exact congrArg Except.ok (put_eq_self hnode)
  · -- a device is as it was, and it took the content before
    have hnode := hsame.trans hv
    rw [write_of_leads he h.openable hleads (by simp [hnode]), (nodeAt_eq (by simp)).2 hnode]
    rw [write_of_leads hd h.openable ⟨a, ha⟩ (by simp [hv]), (nodeAt_eq (by simp)).2 hv] at hwrite
    cases v with
    | null => rfl
    | full =>
      simp only at hwrite ⊢
      split at hwrite
      next hempty => rw [if_pos hempty]
      next => simp at hwrite

/-! ## Walks that are refused -/

/-- Where a walk down does not get to the end for want of an entry, nothing stands at its end. -/
theorem get?_eq_none_of_noEntry (h : d.advance last start xs = .refused .noEntry)
    (hdot : "." ∉ xs) (hup : ".." ∉ xs) : d.get? (start ++ xs) = none := by
  have habove : ∀ {start : Location} {name : String} {rest : List String},
      d.get? (start ++ name :: rest) ≠ none → d.get? start = some .folder := by
    intro start name rest hexists
    obtain ⟨n, hn⟩ := Option.ne_none_iff_exists'.1 hexists
    exact get?_of_above hn (List.prefix_append _ _) (by simp)
  induction xs generalizing start with
  | nil => simp [advance] at h
  | cons name rest ih =>
    rw [List.mem_cons, not_or] at hdot hup
    refine Decidable.byContradiction fun hexists => ?_
    have hstart := habove hexists
    by_cases hlong : maxName < name.utf8ByteSize
    · rw [advance, if_neg (Ne.symm hdot.1), if_neg (Ne.symm hup.1),
        if_neg (not_not_intro hstart), if_pos hlong] at h
      simp at h
    · have hstep : IsStep name := ⟨Ne.symm hup.1, Nat.le_of_not_lt hlong⟩
      rw [advance_cons (Ne.symm hdot.1) hstep hstart] at h
      rw [List.append_cons] at hexists
      cases hnext : d.get? (start ++ [name]) with
      | none =>
        -- with something further down there would be a directory here
        cases rest with
        | nil => simp [hnext] at hexists
        | cons next rest => simp [habove hexists] at hnext
      | some n =>
        rw [hnext] at h
        cases n with
        | folder => exact hexists (ih h hdot.2 hup.2)
        | file _ => simp only at h; split at h <;> simp at h
        | device _ => simp only at h; split at h <;> simp at h
        | link _ => simp only at h; split at h <;> simp at h

/-- A walk that ends at something else than a directory cannot go on. -/
theorem advance_append_of_leaf (last : LastLink) (ys : List String) (hmore : ys ≠ [])
    (h : Leads d start xs (.reached l)) (hl : d.get? l = some n) (hn : n ≠ .folder)
    (hd : d.LinkFree) (hstart : d.get? start = some .folder) (hdot : "." ∉ xs) :
    d.advance last start (xs ++ ys) = .refused .notDirectory := by
  generalize ha : Arrival.reached l = a at h
  induction h with
  | here =>
    obtain rfl := Arrival.reached.inj ha
    exact absurd (Option.some.inj (hl.symm.trans hstart)) hn
  | up _ ih =>
    rw [List.mem_cons, not_or] at hdot
    rw [List.cons_append, advance, if_neg (by decide), if_pos rfl]
    exact ih (get?_dropLast hstart) hdot.2 ha
  | down hstep hstart hnext _ ih =>
    rw [List.mem_cons, not_or] at hdot
    rw [List.cons_append, advance_cons (Ne.symm hdot.1) hstep hstart, hnext]
    exact ih hnext hdot.2 ha
  | @leaf start name m hstep hstart hnext _ =>
    obtain rfl := Arrival.reached.inj ha
    obtain rfl : m = n := Option.some.inj (hnext.symm.trans hl)
    rw [List.mem_singleton] at hdot
    rw [List.singleton_append, advance_cons (Ne.symm hdot) hstep hstart, hnext]
    have hempty : ¬ ys.isEmpty = true := by simpa using hmore
    cases m with
    | folder => exact absurd rfl hn
    | link target => exact absurd hl (hd _ _)
    | file _ => exact if_neg hempty
    | device _ => exact if_neg hempty
  | absent => simp at ha

/-! ## Directories -/

theorem makeFolder_of_leadsTo (hd : d.LinkFree) (h : d.LeadsToFolder cwd p) :
    d.makeFolder cwd p = .error (.errno .alreadyExists) := by
  obtain ⟨l, hleads, -⟩ := h.leads
  simp only [makeFolder, (walk_eq_ok_iff hd).2 ⟨h.openable, hleads⟩]

theorem ensureFolder_of_leadsTo (hd : d.LinkFree) (h : d.LeadsToFolder cwd p) :
    d.ensureFolder cwd p = .ok d := by
  simp only [ensureFolder, makeFolder_of_leadsTo hd h, (isFolder_eq_true_iff hd).2 h]

theorem ensureFolder_of_refused (hp : p.Openable)
    (h : ∀ last, d.advance last (p.origin cwd) p.parts = .refused .nameTooLong) :
    d.ensureFolder cwd p = .error (.errno .nameTooLong) := by
  simp only [ensureFolder, makeFolder, walk_of_refused hp (h .keep), isFolder, leadsTo, status,
    locate, walk_of_refused hp (h .follow), Except.map, Errno.meansAbsent, Bool.false_eq_true,
    if_false]

/-- A directory that is there is created to no effect. -/
theorem ensureFolders_of_leadsTo (hd : d.LinkFree) (h : d.LeadsToFolder cwd p) :
    d.ensureFolders cwd p = (.ok (), d) := by
  rw [ensureFolders.eq_def]
  simp only [makeFolder_of_leadsTo hd h, ensureFolder_of_leadsTo hd h]

/-- A path that is refused for want of an entry can be opened. -/
theorem refused_of_makeFolder (hd : d.LinkFree)
    (h : d.makeFolder cwd p = .error (.errno .noEntry)) :
    p.Openable ∧ d.advance .keep (p.origin cwd) p.parts = .refused .noEntry := by
  have hsize := Path.size_ne_zero p
  have hsteps : (Route.ofPath p).allSteps = p.parts := rfl
  have horigin : (if (Route.ofPath p).rooted then [] else cwd) = p.origin cwd := rfl
  have hwalk : d.walk .keep cwd (.ofPath p) = .error (.errno .noEntry) := by
    unfold makeFolder at h
    split at h
    next hwalk => exact hwalk.trans (congrArg Except.error (Except.error.inj h))
    next => simp at h
    next => simp at h
  rw [walk, hsteps, horigin, if_neg hsize] at hwalk
  split at hwalk
  next => simp at hwalk
  next hnul =>
    split at hwalk
    next => simp at hwalk
    next hlong =>
      refine ⟨⟨by simpa using hnul, hsize, Nat.lt_of_not_le hlong⟩, ?_⟩
      rw [follow.eq_def] at hwalk
      cases hadvance : d.advance .keep (p.origin cwd) p.parts with
      | arrived a => simp [hadvance] at hwalk
      | refused n =>
        rw [hadvance] at hwalk
        simpa using hwalk
      | detour => exact absurd hadvance (advance_ne_detour hd)

/-- Where a path fits, so do those of its ancestors. -/
theorem openable_parent (hp : p.isAbsolute = true) (h : p.Openable) : p.parent.Openable := by
  have hle : Location.weight p.parent.parts ≤ Location.weight p.parts :=
    Location.weight_dropLast_le p.parts
  have hnul : (Route.ofPath p.parent).hasNul = false := by
    have hnul := h.noNul
    simp only [Route.hasNul, Route.ofPath, List.any_eq_false] at hnul ⊢
    exact fun name hname => hnul name (List.dropLast_subset _ hname)
  refine ⟨hnul, Path.size_ne_zero _, ?_⟩
  have hlong := h.notLong
  by_cases hparts : p.parent.parts = []
  · have hsize := Path.size_of_nil (p := p.parent) hp hparts
    have hmax : 2 < maxPath := by decide
    split at hsize <;> omega
  · have hparent := Path.size_ofPath (p := p.parent) hp hparts
    have hsize := Path.size_ofPath hp (fun hnil => hparts (by simp [Path.parent, hnil]))
    have hanchor : p.parent.anchor = p.anchor := rfl
    rw [hanchor] at hparent
    omega

/-- Something in a directory is reached unless its name is too long. -/
theorem leadsToFolder_joinText {directory : Path} {name : String} (hd : d.LinkFree)
    (hp : directory.Direct) (h : d.LeadsToFolder cwd directory)
    (hfits : (directory.joinText name).Fits)
    (hfolder : d.get? (directory.location cwd ++ [name]) = some .folder) :
    d.LeadsToFolder cwd (directory.joinText name) := by
  have hlocate := locate_joinText (h.opens hd hp) hfolder (by simp) hfits
  refine (isFolder_eq_true_iff hd).1 ?_
  simp only [isFolder, leadsTo, status, hlocate, Except.map, nodeAt, hfolder, Option.getD_some]

/-- Where the parent of a missing directory cannot be made, it is missing for the same reason. -/
theorem makeFolder_parent (hd : d.LinkFree) (hp : p.Direct)
    (hmake : d.makeFolder cwd p = .error (.errno .noEntry))
    (hfails : (d.ensureFolders cwd p.parent).1 ≠ .ok ()) :
    d.makeFolder cwd p.parent = .error (.errno .noEntry) := by
  obtain ⟨hopenable, hrefused⟩ := refused_of_makeFolder hd hmake
  have hparent := openable_parent hp.absolute hopenable
  have hparts : p.parts ≠ [] := fun hnil => by simp [hnil, advance] at hrefused
  have hsplit : p.parent.parts ++ [p.parts.getLast hparts] = p.parts :=
    List.dropLast_concat_getLast hparts
  rw [hp.origin_eq, ← hsplit] at hrefused
  have horigin : p.parent.origin cwd = [] := hp.parent.origin_eq
  cases hadvance : d.advance .keep [] p.parent.parts with
  | refused n =>
    -- the walk to the directory is refused for the same reason
    have hsame := (advance_append_of_refused hadvance _).symm.trans hrefused
    rw [Progress.refused.inj hsame] at hadvance
    rw [makeFolder, walk_of_refused hparent (by rwa [horigin])]
  | detour => exact absurd hadvance (advance_ne_detour hd)
  | arrived a =>
    have hleads := leads_of_advance hadvance p.parent.dot_notMem_parts
    refine absurd ?_ hfails
    cases a with
    | missing above name =>
      have hwalk : d.walk .keep cwd (.ofPath p.parent) = .ok (.missing above name) :=
        (walk_eq_ok_iff hd).2 ⟨hparent, horigin ▸ hleads⟩
      rw [ensureFolders.eq_def]
      simp only [makeFolder, hwalk]
    | reached l =>
      obtain ⟨n, hn⟩ := Option.ne_none_iff_exists'.1 (hleads.exists_of_reached (by simp))
      by_cases hfolder : n = .folder
      · have hnode : d.nodeAt l = .folder := by simp [nodeAt, hn, hfolder]
        rw [ensureFolders_of_leadsTo hd ⟨hparent, l, horigin ▸ hleads, hnode⟩]
      · -- what is no directory refuses the walk for another reason
        have hother := advance_append_of_leaf .keep [p.parts.getLast hparts] (by simp) hleads hn
          hfolder hd rfl p.parent.dot_notMem_parts
        simp [hother] at hrefused

/-- A path that can be opened is that of a name in its parent. -/
theorem exists_joinText_parent (hp : p.Direct) (h : p.Openable) (hparts : p.parts ≠ []) :
    ∃ name, IsName name ∧ p.parent.joinText name = p := by
  have hmem : p.parts.getLast hparts ∈ p.parts := List.getLast_mem hparts
  have hnul := h.noNul
  simp only [Route.hasNul, Route.ofPath, List.any_eq_false] at hnul
  refine ⟨p.parts.getLast hparts, ⟨p.isPart _ hmem, fun hup => hp.down (hup ▸ hmem),
    by simpa using hnul _ hmem⟩, ?_⟩
  obtain ⟨hjoined, hanchor⟩ := Path.parts_joinText (p.isPart _ hmem) p.parent
  exact Path.ext hanchor (hjoined.trans (List.dropLast_concat_getLast hparts))

/-- Where nothing but a directory can be in the way, a directory is created in its parent unless its
path does not fit. -/
theorem not_fits_of_ensureFolder {directory : Path} {name : String} {f : Fault} (hd : d.LinkFree)
    (hp : directory.Direct) (hparent : d.LeadsToFolder cwd directory) (hname : IsName name)
    (hfree : d.get? (directory.location cwd ++ [name]) = none
      ∨ d.get? (directory.location cwd ++ [name]) = some .folder)
    (h : d.ensureFolder cwd (directory.joinText name) = .error f) :
    ¬ (directory.joinText name).Fits := by
  intro hfits
  rcases hfree with hnone | hfolder
  · have hmade := makeFolder_joinText hd hp hparent hname hfits hnone
    simp [ensureFolder, hmade] at h
  · have hleads := leadsToFolder_joinText hd hp hparent hfits hfolder
    simp [ensureFolder_of_leadsTo hd hleads] at h

/-- Where the ancestors of a missing directory can be made but not the directory itself, its name is
too long. -/
theorem long_of_ensureFolder {P : Location → Prop} {f : Fault} (hd : d.LinkFree) (hp : p.Direct)
    (hmake : d.makeFolder cwd p = .error (.errno .noEntry)) (hadded : FoldersAdded P d e)
    (hparent : e.LeadsToFolder cwd p.parent) (h : e.ensureFolder cwd p = .error f) :
    f = .errno .nameTooLong ∧ ∀ last, e.advance last [] p.parts = .refused .nameTooLong := by
  have he := hadded.linkFree hd
  obtain ⟨hopenable, hrefused⟩ := refused_of_makeFolder hd hmake
  have hparts : p.parts ≠ [] := fun hnil => by simp [hnil, advance] at hrefused
  have hnone : d.get? p.parts = none := by
    rw [hp.origin_eq] at hrefused
    exact get?_eq_none_of_noEntry hrefused p.dot_notMem_parts hp.down
  obtain ⟨name, hname, hjoin⟩ := exists_joinText_parent hp hopenable hparts
  have hplace : p.parent.location cwd ++ [name] = p.parts := by
    rw [hp.parent.location_eq, ← (Path.parts_joinText hname.1 p.parent).1, hjoin]
  have hfree : e.get? p.parts = none ∨ e.get? p.parts = some .folder := by
    rcases hadded p.parts with hsame | ⟨-, -, hfolder⟩
    · exact .inl (hsame.trans hnone)
    · exact .inr hfolder
  rw [← hplace] at hfree
  rw [← hjoin] at hopenable h
  have hunfit := not_fits_of_ensureFolder he hp.parent hparent hname hfree h
  have hlong : maxName < name.utf8ByteSize := by
    refine Nat.lt_of_not_le fun hshort => hunfit ⟨hopenable.notLong, ?_⟩
    rwa [Path.name_joinText hname.1]
  have hstuck : ∀ last, e.advance last ((p.parent.joinText name).origin cwd)
      (p.parent.joinText name).parts = .refused .nameTooLong :=
    fun last => advance_joinText_of_long last he hp.parent hparent hname hlong
  rw [ensureFolder_of_refused hopenable hstuck] at h
  rw [hjoin, hp.origin_eq] at hstuck
  exact ⟨(Except.error.inj h).symm, hstuck⟩

/-- Where the ancestors of a directory could be made only in part, a name on the way is too long. -/
theorem ensureFolders_stuck (hd : d.LinkFree) (hp : p.Direct)
    (hmake : d.makeFolder cwd p = .error (.errno .noEntry)) {f : Fault}
    (h : d.ensureFolders cwd p = (.error f, e)) :
    f = .errno .nameTooLong ∧ ∀ last, e.advance last [] p.parts = .refused .nameTooLong := by
  have haux : ∀ p, p.Direct → d.makeFolder cwd p = .error (.errno .noEntry) →
      ∀ f, (d.ensureFolders cwd p).1 = .error f →
        f = .errno .nameTooLong
          ∧ ∀ last, (d.ensureFolders cwd p).2.advance last [] p.parts = .refused .nameTooLong := by
    intro p
    fun_induction ensureFolders d cwd p with
    | case1 p e hmade => exact fun _ h => by simp [hmade] at h
    | case2 p hmade hparts =>
      intro hp _
      have hrefused := (refused_of_makeFolder hd hmade).2
      simp [hparts, advance] at hrefused
    | case3 p hmade hparts f e hrest ih =>
      intro hp _ g hg
      have hparent := makeFolder_parent hd hp hmade (by simp [hrest])
      rw [hrest] at ih
      obtain ⟨rfl, hstuck⟩ := ih hp.parent hparent f rfl
      have hsplit : p.parent.parts ++ [p.parts.getLast hparts] = p.parts :=
        List.dropLast_concat_getLast hparts
      refine ⟨(Except.error.inj hg).symm, fun last => ?_⟩
      -- a walk that stops on the way to an ancestor goes no further
      rw [← hsplit]
      exact advance_append_of_refused (hstuck last) _
    | case4 => exact fun _ _ f h => by simp at h
    | case5 p hmade hparts e hrest f hlast ih =>
      intro hp _ g hg
      obtain ⟨hadded, hleads⟩ := ensureFolders_spec hd cwd p.parent
      rw [hrest] at hadded hleads
      obtain rfl := Except.error.inj hg
      exact long_of_ensureFolder hd hp hmade hadded (hleads rfl) hlast
    | case6 => exact fun _ _ f h => by simp at h
    | case7 p f hother hmade =>
      exact fun _ h => (hother (Except.error.inj (hmade.symm.trans h))).elim
  have hstuck := haux p hp hmake f (by rw [h])
  rwa [h] at hstuck

/-- A directory that could not be created cannot be created again, for the same reason. -/
theorem ensureFolders_again {f : Fault} (hd : d.LinkFree) (hp : p.Direct)
    (h : d.ensureFolders cwd p = (.error f, e)) : e.ensureFolders cwd p = (.error f, e) := by
  by_cases hmake : d.makeFolder cwd p = .error (.errno .noEntry)
  · obtain ⟨rfl, hstuck⟩ := ensureFolders_stuck hd hp hmake h
    have hopenable := (refused_of_makeFolder hd hmake).1
    have hrefused : ∀ last, e.advance last (p.origin cwd) p.parts = .refused .nameTooLong :=
      fun last => hp.origin_eq ▸ hstuck last
    have hmake' : e.makeFolder cwd p = .error (.errno .nameTooLong) := by
      rw [makeFolder, walk_of_refused hopenable (hrefused .keep)]
    rw [ensureFolders.eq_def]
    simp only [hmake', ensureFolder_of_refused hopenable hrefused]
  · -- without a missing ancestor nothing was created
    suffices hsame : e = d by rw [hsame] at h ⊢; exact h
    rw [ensureFolders.eq_def] at h
    split at h
    next => simp at h
    next hmade => exact absurd hmade hmake
    next =>
      split at h
      next => simp at h
      next => exact (Prod.mk.inj h).2.symm

end ContractBuild.Disk
