import ContractBuild.Command.Catalog
import ContractBuild.Proofs.Console.Display
import Mathlib.Data.List.Induction
import Mathlib.Data.List.Nodup

/-!
# Commands that are loaded once

A catalog is asked for commands again and again, while the modules that can be imported may change
between two requests. `Serves` lists the five ways in which one request is served, and in only one
of them the catalog keeps more than before: a command is loaded, for a name that nothing was kept
for. So what is kept after any requests is what was given for the names of references
(`lookup_loaded_iff`), once for each name (`after_nodup`), and it is given again without a look at
any module.

A loading that raises an error (`Loading` says when it does) leaves no trace but the modules that it
imported on its way, and the next request for the name is a new attempt. `loaded_once` puts this
together for a request after any others.
-/

namespace ContractBuild.Command

variable {u : Universe} {imported imported' : Imported} {name reference moduleName attr : String}
variable {h : Handle}

/-! ## Loading -/

/-- What a reference designates: an attribute, named behind the first colon, of the module named
before it. Without a colon the attribute has the empty name. -/
structure Designates (reference moduleName attr : String) : Prop where
  noColon : ':' ∉ moduleName.toList
  parts : reference = moduleName ++ ":" ++ attr ∨ reference = moduleName ∧ attr = ""

theorem designates_splitReference (reference : String) :
    Designates reference (splitReference reference).1 ((splitReference reference).2.getD "") := by
  have hcolon : ':' ∉ reference.toList.takeWhile (· ≠ ':') := fun hmem => by
    simpa using List.mem_takeWhile_imp hmem
  simp only [splitReference]
  split
  next rest hdrop =>
    refine ⟨by simpa using hcolon, .inl ?_⟩
    rw [String.ext_iff]
    simpa using Text.eq_append_of_dropWhile hdrop
  next hdrop =>
    have hnil : reference.toList.dropWhile (· ≠ ':') = [] := by
      cases hrest : reference.toList.dropWhile (· ≠ ':') with
      | nil => rfl
      | cons c rest =>
        have hhead := List.head?_dropWhile_not (· ≠ ':') reference.toList
        rw [hrest] at hhead
        obtain rfl : c = ':' := by simpa using hhead
        exact absurd hrest (hdrop rest)
    refine ⟨by simpa using hcolon, .inr ⟨?_, rfl⟩⟩
    rw [Text.takeWhile_ne_of_dropWhile hnil, String.ofList_toList]

theorem splitReference_of_designates (hnames : Designates reference moduleName attr) :
    (splitReference reference).1 = moduleName ∧ (splitReference reference).2.getD "" = attr := by
  have hpart : ∀ c ∈ moduleName.toList, decide (c ≠ ':') = true := fun c hc =>
    decide_eq_true fun e => hnames.noColon (e ▸ hc)
  rcases hnames.parts with hparts | ⟨rfl, rfl⟩
  · have htext : reference.toList = moduleName.toList ++ ':' :: attr.toList := by
      simp [hparts]
    have htake : reference.toList.takeWhile (· ≠ ':') = moduleName.toList := by
      rw [htext, List.takeWhile_append_of_pos hpart]
      simp
    have hdrop : reference.toList.dropWhile (· ≠ ':') = ':' :: attr.toList := by
      rw [htext, List.dropWhile_append_of_pos hpart]
      simp
    simp only [splitReference, htake, hdrop, String.ofList_toList, Option.getD_some, and_self]
  · have htake := List.takeWhile_eq_self_iff.2 hpart
    have hdrop := List.dropWhile_eq_nil_iff.2 hpart
    simp only [splitReference, htake, hdrop, String.ofList_toList, Option.getD_none, and_self]

/-- How the loading of a command ends: with the command that the reference designates, or else with
the error of the first step that raises one; and what is imported from then on. -/
inductive Loading (u : Universe) (imported : Imported) (name reference : String) :
    Except Failure Handle → Imported → Prop where
  /-- The module cannot be imported. -/
  | noModule {moduleName attr : String} {f : Failure} {imported' : Imported}
      (hnames : Designates reference moduleName attr)
      (hload : Module.load u imported moduleName = (.error f, imported')) :
      Loading u imported name reference (.error f) imported'
  /-- The module does not give the attribute. -/
  | noAttribute {moduleName attr : String} {m : Module} {f : Failure} {imported' : Imported}
      (hnames : Designates reference moduleName attr)
      (hload : Module.load u imported moduleName = (.ok m, imported'))
      (hget : m.get imported' attr = .error f) :
      Loading u imported name reference (.error f) imported'
  /-- The attribute is no command. -/
  | noCommand {moduleName attr : String} {m : Module} {a : Attribute} {imported' : Imported}
      (hnames : Designates reference moduleName attr)
      (hload : Module.load u imported moduleName = (.ok m, imported'))
      (hget : m.get imported' attr = .ok a) (ha : ∀ own, a ≠ .object (.command own)) :
      Loading u imported name reference (.error (.misuse (.notCommand name reference))) imported'
  /-- The attribute is a command. -/
  | command {moduleName attr own : String} {m : Module} {imported' : Imported}
      (hnames : Designates reference moduleName attr)
      (hload : Module.load u imported moduleName = (.ok m, imported'))
      (hget : m.get imported' attr = .ok (.object (.command own))) :
      Loading u imported name reference (.ok ⟨own, .held moduleName attr⟩) imported'

namespace Catalog

theorem exists_loading (u : Universe) (imported : Imported) (name reference : String) :
    ∃ x imported', Loading u imported name reference x imported' := by
  have hnames := designates_splitReference reference
  generalize (splitReference reference).1 = moduleName at hnames
  generalize (splitReference reference).2.getD "" = attr at hnames
  rcases hload : Module.load u imported moduleName with ⟨found, imported'⟩
  cases found with
  | error f => exact ⟨_, _, .noModule hnames hload⟩
  | ok m =>
    cases hget : m.get imported' attr with
    | error f => exact ⟨_, _, .noAttribute hnames hload hget⟩
    | ok a =>
      by_cases ha : ∃ own, a = .object (.command own)
      · obtain ⟨own, rfl⟩ := ha
        exact ⟨_, _, .command hnames hload hget⟩
      · exact ⟨_, _, .noCommand hnames hload hget fun own e => ha ⟨own, e⟩⟩

theorem load_of_designates (hnames : Designates reference moduleName attr) :
    load u imported name reference = ((do
      match ← (← (Module.load u imported moduleName).1).get
        (Module.load u imported moduleName).2 attr with
      | .object (.command own) => return ⟨own, .held moduleName attr⟩
      | _ => throw (.misuse (.notCommand name reference))),
        (Module.load u imported moduleName).2) := by
  obtain ⟨rfl, rfl⟩ := splitReference_of_designates hnames
  rfl

theorem load_of_loading {x : Except Failure Handle}
    (hloading : Loading u imported name reference x imported') :
    load u imported name reference = (x, imported') := by
  cases hloading with
  | noModule hnames hload =>
    rw [load_of_designates hnames, hload]
    rfl
  | noAttribute hnames hload hget =>
    rw [load_of_designates hnames, hload]
    simp only [bind, Except.bind, hget]
  | noCommand hnames hload hget ha =>
    rw [load_of_designates hnames, hload]
    simp only [bind, Except.bind, hget]
    rfl
  | command hnames hload hget =>
    rw [load_of_designates hnames, hload]
    simp only [bind, Except.bind, hget]
    rfl

theorem load_eq_iff {x : Except Failure Handle} :
    load u imported name reference = (x, imported') ↔
      Loading u imported name reference x imported' := by
  refine ⟨fun hload => ?_, load_of_loading⟩
  obtain ⟨y, i, hloading⟩ := exists_loading u imported name reference
  obtain ⟨rfl, rfl⟩ := Prod.mk.inj (hload.symm.trans (load_of_loading hloading))
  exact hloading

/-! ## One request -/

/-- How a catalog serves a request for a name, with the modules that can be imported then: the
answer, and the catalog from then on. -/
inductive Serves (u : Universe) (c : Catalog) (name : String) :
    Except Failure (Option Handle) → Catalog → Prop where
  | registered (hname : name ∈ c.registered) :
      Serves u c name (.ok (some ⟨name, .registered⟩)) c
  | unknown (hname : name ∉ c.registered) (hreference : c.references.lookup name = none) :
      Serves u c name (.ok none) c
  /-- A command that was loaded before is given again. -/
  | again {reference : String} {h : Handle} (hname : name ∉ c.registered)
      (hreference : c.references.lookup name = some reference)
      (hkept : c.loaded.lookup name = some h) :
      Serves u c name (.ok (some h)) c
  | anew {reference : String} {h : Handle} {imported : Imported} (hname : name ∉ c.registered)
      (hreference : c.references.lookup name = some reference)
      (hkept : c.loaded.lookup name = none)
      (hloading : Loading u c.imported name reference (.ok h) imported) :
      Serves u c name (.ok (some h)) { c with loaded := c.loaded ++ [(name, h)], imported }
  | failed {reference : String} {f : Failure} {imported : Imported} (hname : name ∉ c.registered)
      (hreference : c.references.lookup name = some reference)
      (hkept : c.loaded.lookup name = none)
      (hloading : Loading u c.imported name reference (.error f) imported) :
      Serves u c name (.error f) { c with imported }

variable {c c' : Catalog} {x : Except Failure (Option Handle)}

theorem serves_get (u : Universe) (c : Catalog) (name : String) :
    Serves u c name (c.get u name).1 (c.get u name).2 := by
  unfold get
  split
  next hname => exact .registered (by simpa using hname)
  next hname =>
    have hname : name ∉ c.registered := by simpa using hname
    split
    next hreference => exact .unknown hname hreference
    next reference hreference =>
      split
      next h hkept => exact .again hname hreference hkept
      next hkept =>
        split
        next h imported hload => exact .anew hname hreference hkept (load_eq_iff.1 hload)
        next f imported hload => exact .failed hname hreference hkept (load_eq_iff.1 hload)

theorem get_eq_of_serves (hserves : Serves u c name x c') : c.get u name = (x, c') := by
  cases hserves with
  | registered hname => simp [get, hname]
  | unknown hname hreference => simp [get, hname, hreference]
  | again hname hreference hkept => simp [get, hname, hreference, hkept]
  | anew hname hreference hkept hloading =>
    simp [get, hname, hreference, hkept, load_of_loading hloading]
  | failed hname hreference hkept hloading =>
    simp [get, hname, hreference, hkept, load_of_loading hloading]

/-- A request changes nothing about what is registered and what is referred to. -/
theorem Serves.same_names (hserves : Serves u c name x c') :
    c'.registered = c.registered ∧ c'.references = c.references := by
  cases hserves <;> exact ⟨rfl, rfl⟩

theorem lookup_eq_none_iff {β : Type} {entries : List (String × β)} :
    entries.lookup name = none ↔ name ∉ entries.map Prod.fst := by
  simp only [List.lookup_eq_none_iff, bne_iff_ne, List.mem_map, not_exists, not_and]
  constructor
  · intro h entry hentry e
    exact h entry hentry e.symm
  · intro h entry hentry e
    exact h entry hentry e.symm

/-- Nothing is loaded for a name that something was loaded for. -/
theorem Serves.nodup (hserves : Serves u c name x c') (hc : (c.loaded.map Prod.fst).Nodup) :
    (c'.loaded.map Prod.fst).Nodup := by
  cases hserves with
  | anew _ _ hkept _ =>
    rw [List.map_append, List.map_singleton, ← List.concat_eq_append]
    exact hc.concat (lookup_eq_none_iff.1 hkept)
  | _ => exact hc

/-- What is kept after a request is what was kept before, and what is given for the name of a
reference. -/
theorem Serves.lookup_loaded_iff (hserves : Serves u c name x c') {n : String} {k : Handle} :
    c'.loaded.lookup n = some k ↔
      c.loaded.lookup n = some k ∨ (name = n ∧ x = .ok (some k)) ∧ n ∉ c.registered := by
  cases hserves with
  | registered hname =>
    refine (or_iff_left ?_).symm
    rintro ⟨⟨rfl, -⟩, hn⟩
    exact hn hname
  | unknown => simp
  | @again _ h _ _ hkept =>
    refine (or_iff_left_of_imp ?_).symm
    rintro ⟨⟨rfl, hx⟩, -⟩
    obtain rfl : h = k := by simpa using hx
    exact hkept
  | @anew _ h _ hname _ hkept _ =>
    rw [List.lookup_append]
    by_cases hn : name = n
    · subst hn
      simp [hkept, hname]
    · have hother : [(name, h)].lookup n = none :=
        lookup_eq_none_iff.2 (by simpa using Ne.symm hn)
      simp [hother, hn]
  | failed => simp

/-! ## Requests one after another -/

/-- A request to a catalog: the name that is asked for, and the modules that can be imported at that
time. -/
structure Request where
  modules : Universe
  name : String

/-- One of the requests is such as `P` tells of the requests before it and of itself. -/
def Occurs (P : List Request → Request → Prop) (requests : List Request) : Prop :=
  ∃ past r later, requests = past ++ r :: later ∧ P past r

theorem not_occurs_nil {P : List Request → Request → Prop} : ¬ Occurs P [] := by
  intro ⟨past, r, later, hsplit, _⟩
  simp at hsplit

theorem occurs_concat {P : List Request → Request → Prop} {requests : List Request} {r : Request} :
    Occurs P (requests ++ [r]) ↔ Occurs P requests ∨ P requests r := by
  constructor
  · intro ⟨past, r', later, hsplit, h⟩
    rcases List.eq_nil_or_concat later with rfl | ⟨later, last, rfl⟩
    · obtain ⟨rfl, hlast⟩ := List.append_inj' hsplit rfl
      obtain rfl := List.singleton_inj.1 hlast
      exact .inr h
    · have hsplit : requests ++ [r] = (past ++ r' :: later) ++ [last] := by simpa using hsplit
      exact .inl ⟨past, r', later, (List.append_inj' hsplit rfl).1, h⟩
  · intro h
    rcases h with ⟨past, r', later, rfl, h⟩ | h
    · exact ⟨past, r', later ++ [r], by simp, h⟩
    · exact ⟨requests, r, [], rfl, h⟩

/-- The catalog after requests. -/
def after (c : Catalog) (requests : List Request) : Catalog :=
  requests.foldl (fun c r => (c.get r.modules r.name).2) c

/-- One of the requests was for the name and was answered with the command. -/
def Given (c : Catalog) (name : String) (h : Handle) : List Request → Prop :=
  Occurs fun past r => r.name = name ∧ ((c.after past).get r.modules r.name).1 = .ok (some h)

/-- One of the requests was for the name, for which no command had been given, and the command was
loaded from the reference. -/
def LoadedFrom (c : Catalog) (name reference : String) (h : Handle) : List Request → Prop :=
  Occurs fun past r => r.name = name ∧ (∀ h', ¬ c.Given name h' past)
    ∧ ∃ imported, Loading r.modules (c.after past).imported name reference (.ok h) imported

theorem after_concat (c : Catalog) (requests : List Request) (r : Request) :
    c.after (requests ++ [r]) = ((c.after requests).get r.modules r.name).2 := by
  simp [after]

theorem given_concat {requests : List Request} {r : Request} :
    c.Given name h (requests ++ [r]) ↔
      c.Given name h requests
        ∨ r.name = name ∧ ((c.after requests).get r.modules r.name).1 = .ok (some h) :=
  occurs_concat

theorem after_same_names (c : Catalog) (requests : List Request) :
    (c.after requests).registered = c.registered
      ∧ (c.after requests).references = c.references := by
  induction requests using List.reverseRecOn with
  | nil => exact ⟨rfl, rfl⟩
  | append_singleton requests r ih =>
    obtain ⟨hregistered, hreferences⟩ :=
      (serves_get r.modules (c.after requests) r.name).same_names
    rw [after_concat]
    exact ⟨hregistered.trans ih.1, hreferences.trans ih.2⟩

section Fresh

variable (hfresh : c.loaded = [])

include hfresh

theorem after_nodup (requests : List Request) :
    ((c.after requests).loaded.map Prod.fst).Nodup := by
  induction requests using List.reverseRecOn with
  | nil => simp [after, hfresh]
  | append_singleton requests r ih =>
    rw [after_concat]
    exact (serves_get r.modules _ r.name).nodup ih

/-- What is kept after requests is what was given for the names of references. -/
theorem lookup_loaded_iff (requests : List Request) :
    (c.after requests).loaded.lookup name = some h ↔
      c.Given name h requests ∧ name ∉ c.registered := by
  induction requests using List.reverseRecOn with
  | nil => simp [after, hfresh, Given, not_occurs_nil]
  | append_singleton requests r ih =>
    rw [after_concat, (serves_get r.modules _ r.name).lookup_loaded_iff, ih, given_concat,
      (after_same_names c requests).1, or_and_right]

/-- Nothing is kept for a name for which no command was given. -/
theorem lookup_loaded_eq_none (requests : List Request) (hnone : ∀ h, ¬ c.Given name h requests) :
    (c.after requests).loaded.lookup name = none := by
  refine Option.eq_none_iff_forall_ne_some.2 fun h hkept => ?_
  exact hnone h ((lookup_loaded_iff hfresh requests).1 hkept).1

/-- What is given for the name of a reference was loaded from that reference, when a command was
given for the name first. -/
theorem loadedFrom_of_given (requests : List Request) (hname : name ∉ c.registered)
    (hreference : c.references.lookup name = some reference) (hgiven : c.Given name h requests) :
    c.LoadedFrom name reference h requests := by
  induction requests using List.reverseRecOn with
  | nil => exact absurd hgiven not_occurs_nil
  | append_singleton requests r ih =>
    have hearlier (hgiven : c.Given name h requests) :
        c.LoadedFrom name reference h (requests ++ [r]) :=
      occurs_concat.2 (.inl (ih hgiven))
    rcases given_concat.1 hgiven with hgiven | ⟨rfl, hanswer⟩
    · exact hearlier hgiven
    · obtain ⟨hregistered, hreferences⟩ := after_same_names c requests
      have hserves := serves_get r.modules (c.after requests) r.name
      rw [hanswer] at hserves
      generalize ((c.after requests).get r.modules r.name).2 = next at hserves
      cases hserves with
      | registered hmem => exact absurd (hregistered ▸ hmem) hname
      | again _ _ hkept => exact hearlier ((lookup_loaded_iff hfresh requests).1 hkept).1
      | anew _ hlookup hkept hloading =>
        obtain rfl := Option.some.inj (hreference.symm.trans (hreferences ▸ hlookup))
        refine occurs_concat.2 (.inr ⟨rfl, fun h' hgiven => ?_, _, hloading⟩)
        -- a command that had been given before would have been kept
        rw [(lookup_loaded_iff hfresh requests).2 ⟨hgiven, hname⟩] at hkept
        exact absurd hkept (by simp)

end Fresh

/-! ## Names -/

/-- Sorted texts increase strictly when each of them is kept once only. -/
theorem eraseDups_increasing {texts : List String} (hsorted : texts.Pairwise (· ≤ ·)) :
    texts.eraseDups.Pairwise (· < ·) := by
  match texts, hsorted with
  | [], _ => exact .nil
  | text :: texts, hsorted =>
    obtain ⟨hleast, hrest⟩ := List.pairwise_cons.1 hsorted
    rw [List.eraseDups_cons, List.pairwise_cons]
    refine ⟨fun later hlater => ?_, eraseDups_increasing (hrest.filter _)⟩
    obtain ⟨hmem, hother⟩ := List.mem_filter.1 (List.mem_eraseDups.1 hlater)
    have hne : later ≠ text := by simpa using hother
    exact String.not_le.1 fun hge => hne (String.le_antisymm hge (hleast later hmem))
termination_by texts.length
decreasing_by exact Nat.lt_succ_of_le (List.length_filter_le ..)

theorem names_increasing (c : Catalog) : c.names.Pairwise (· < ·) := by
  have htrans (a b d : String) (hab : decide (a ≤ b) = true) (hbd : decide (b ≤ d) = true) :
      decide (a ≤ d) = true :=
    decide_eq_true (String.le_trans (of_decide_eq_true hab) (of_decide_eq_true hbd))
  have htotal (a b : String) : (decide (a ≤ b) || decide (b ≤ a)) = true := by
    simpa using String.le_total a b
  have hsorted := List.pairwise_mergeSort htrans htotal (c.registered ++ c.references.map Prod.fst)
  exact eraseDups_increasing (hsorted.imp of_decide_eq_true)

theorem mem_names_iff :
    name ∈ c.names ↔ name ∈ c.registered ∨ name ∈ c.references.map Prod.fst := by
  rw [names, List.mem_eraseDups, List.mem_mergeSort, List.mem_append]

/-! ## A request after others -/

/-- What a new catalog does for a request, after any other requests. A registered command is given
in any case, and for a name that is neither registered nor the name of a reference there is none; in
both cases nothing is imported. For the name of a reference the command that was given before is
given again, whatever can be imported by then. It was loaded from that reference when it was given
first. As long as none was given, each request is a new attempt to load it: a command that is found
is kept from then on, and an error is passed on with everything kept as before. What is kept is what
was loaded, once for each name, and the names of all commands are at any time the same, each once
and in order. -/
theorem loaded_once (registered : List String) (references : List (String × String))
    (imported : Imported) (past : List Request) (modules : Universe) (name : String) :
    let start : Catalog := { registered, references, imported }
    let c := start.after past
    let served := c.get modules name
    (name ∈ registered → served = (.ok (some ⟨name, .registered⟩), c))
      ∧ (name ∉ registered → name ∉ references.map Prod.fst → served = (.ok none, c))
      ∧ (∀ reference, name ∉ registered → references.lookup name = some reference →
        (∀ h, start.Given name h past →
          served = (.ok (some h), c) ∧ start.LoadedFrom name reference h past)
        ∧ ((∀ h, ¬ start.Given name h past) →
          (∃ x imported', Loading modules c.imported name reference x imported')
          ∧ (∀ h imported', Loading modules c.imported name reference (.ok h) imported' →
            served = (.ok (some h),
              { c with loaded := c.loaded ++ [(name, h)], imported := imported' }))
          ∧ ∀ f imported', Loading modules c.imported name reference (.error f) imported' →
            served = (.error f, { c with imported := imported' })))
      ∧ (c.loaded.map Prod.fst).Nodup
      ∧ (∀ n h, c.loaded.lookup n = some h ↔ start.Given n h past ∧ n ∉ registered)
      ∧ c.names.Pairwise (· < ·)
      ∧ ∀ n, n ∈ c.names ↔ n ∈ registered ∨ n ∈ references.map Prod.fst := by
  intro start c served
  obtain ⟨hregistered, hreferences⟩ := after_same_names start past
  have hkept (n : String) (h : Handle) : c.loaded.lookup n = some h ↔ _ :=
    lookup_loaded_iff (c := start) rfl past
  refine ⟨?_, ?_, ?_, after_nodup rfl past, hkept, names_increasing c, fun n => ?_⟩
  · intro hname
    exact get_eq_of_serves (.registered (hregistered ▸ hname))
  · intro hname hnone
    have hlookup : c.references.lookup name = none := hreferences ▸ lookup_eq_none_iff.2 hnone
    exact get_eq_of_serves (.unknown (hregistered ▸ hname) hlookup)
  · intro reference hname hreference
    have hname' : name ∉ c.registered := hregistered ▸ hname
    have hlookup : c.references.lookup name = some reference := hreferences ▸ hreference
    constructor
    · intro h hgiven
      have hagain := (hkept name h).2 ⟨hgiven, hname⟩
      exact ⟨get_eq_of_serves (.again hname' hlookup hagain),
        loadedFrom_of_given rfl past hname hreference hgiven⟩
    · intro hnone
      have hfree := lookup_loaded_eq_none rfl past hnone
      exact ⟨exists_loading ..,
        fun h imported' hloading => get_eq_of_serves (.anew hname' hlookup hfree hloading),
        fun f imported' hloading => get_eq_of_serves (.failed hname' hlookup hfree hloading)⟩
  · rw [mem_names_iff, hregistered, hreferences]

/-- A command whose module is missing at first is loaded when the module is there, and given again
when it is gone. -/
example :
    let tools : Universe := [{ name := "tools", attributes := [("run", .object (.command "r"))] }]
    let start : Catalog := { references := [("run", "tools:run")] }
    let command : Handle := ⟨"r", .held "tools" "run"⟩
    (start.get [] "run").1 = .error (Module.notFound "No module named 'tools'")
      ∧ ((start.after [⟨[], "run"⟩]).get tools "run").1 = .ok (some command)
      ∧ ((start.after [⟨[], "run"⟩, ⟨tools, "run"⟩]).get [] "run").1 = .ok (some command) := by
  refine ⟨?_, ?_, ?_⟩ <;> rfl

end Catalog

end ContractBuild.Command
