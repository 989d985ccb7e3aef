import ContractBuild.Settings.Basic

/-!
# Settings and variables

Where no field is given directly, every setting comes from the variable of its name: from the
environment, or else from the settings file in the working directory. Of several spellings of a name
that differ in letter case the last one counts. `read_eq_valid_iff` says which settings are read, in
terms of the variables alone: a setting without a variable has its default, and every other one is
what its variable says, even if that is an empty text.
-/

namespace ContractBuild.Settings

open Validation

variable {α : Type} {host : Host} {disk : Disk} {v : Settings}

/-! ## Variables -/

/-- The text that is bound to a name: by the last of its spellings, unless that is bound to
nothing. -/
def boundText? (known : List (String × Option String)) (name : String) : Option String :=
  (known.reverse.find? fun v => lowerCase v.1 = name).bind (·.2)

/-- The text of a variable, in the environment or else in the texts of settings files. -/
def valueOf? (host : Host) (texts : List String) (name : String) : Option String :=
  boundText? (host.environment.map fun v => (v.1, some v.2)) name
    <|> boundText? (Lookup.fileValues host texts) name

/-- The variable of a setting. -/
def variableOf (field : String) : String := lowerCase ("NCCS_" ++ field)

theorem find?_default (known : List (String × Option String)) (name : String) :
    ({} : Lookup).find? known name = (boundText? known name).map .str := by
  have hcounted : (known.filter fun v => !(false && decide (v.2 = some ""))) = known := by
    simp
  have hkey : ({} : Lookup).key = lowerCase := rfl
  simp only [Lookup.find?, boundText?, hcounted, hkey]
  cases known.reverse.find? (fun v => lowerCase v.1 = name) with
  | none => rfl
  | some b =>
    obtain ⟨n, _ | text⟩ := b
    · rfl
    · rfl

/-! ## Fields -/

/-- The fields of some names that variables give. -/
def fieldsOf (names : List String) (value? : String → Option String) :
    List (Document × Document) :=
  names.filterMap fun field => (value? (variableOf field)).map fun s => (.str field, .str s)

theorem filterMapM_ok {ε β : Type} {f : α → Except ε (Option β)} {g : α → Option β}
    (h : ∀ a, f a = .ok (g a)) (as : List α) : as.filterMapM f = .ok (as.filterMap g) := by
  induction as with
  | nil => rfl
  | cons a as ih =>
    rw [List.filterMapM_cons, h a, ih, List.filterMap_cons]
    cases g a <;> rfl

/-- The field of one variable, with what gives it: nothing is given directly, and there are no
directories of variables. -/
theorem fieldValue_default (host : Host) (disk : Disk) (texts : List String) (field : String) :
    (do
      let own ← ({} : Lookup).ownFileValue host disk [] (variableOf field)
      return (givenField [] field
        <|> ({} : Lookup).find? (host.environment.map fun v => (v.1, some v.2)) (variableOf field)
        <|> ({} : Lookup).find? (Lookup.fileValues host texts) (variableOf field)
        <|> own).map fun v => (Document.str field, v) : Except Failure _)
      = .ok ((valueOf? host texts (variableOf field)).map fun s => (.str field, .str s)) := by
  have hown : ({} : Lookup).ownFileValue host disk [] (variableOf field) = .ok none := rfl
  rw [hown, find?_default, find?_default, valueOf?]
  cases boundText? (host.environment.map fun v => (v.1, some v.2)) (variableOf field) with
  | some s => rfl
  | none => cases boundText? (Lookup.fileValues host texts) (variableOf field) <;> rfl

theorem members_default (host : Host) (disk : Disk) :
    members {} host disk []
      = (({} : Lookup).fileTexts host disk).map fun texts =>
        fieldsOf fieldNames (valueOf? host texts) := by
  unfold members
  cases ({} : Lookup).fileTexts host disk with
  | error f => rfl
  | ok texts => exact filterMapM_ok (fieldValue_default host disk texts) fieldNames

theorem member?_cons (name field : String) (d : Document) (ms : List (Document × Document)) :
    member? ((.str name, d) :: ms) field = if name = field then some d else member? ms field := by
  by_cases h : name = field <;> simp [member?, Document.get?, h]

/-- A field is there if it is asked for and its variable is there. -/
theorem member?_fieldsOf (names : List String) (value? : String → Option String) (field : String) :
    member? (fieldsOf names value?) field
      = if field ∈ names then (value? (variableOf field)).map .str else none := by
  induction names with
  | nil => rfl
  | cons name names ih =>
    have hcons : fieldsOf (name :: names) value?
        = ((value? (variableOf name)).map fun s => (Document.str name, .str s)).toList
          ++ fieldsOf names value? := by
      rw [fieldsOf, List.filterMap_cons]
      cases value? (variableOf name) <;> rfl
    rw [hcons]
    cases hvalue : value? (variableOf name) with
    | none =>
      by_cases hname : field = name
      · subst hname
        simp [ih, hvalue]
      · simp [ih, hname]
    | some s =>
      by_cases hname : field = name
      · subst hname
        simp [member?_cons, hvalue]
      · simp [member?_cons, ih, hname, Ne.symm hname]

/-! ## Settings -/

/-- A setting that a variable gives as a text, or else its default. -/
def settingOf (default : α) (check : Check α) : Option String → Checked α
  | some s => check (.str s)
  | none => .valid default

/-- What settings are made of the values of variables. -/
structure Follows (value? : String → Option String) (v : Settings) : Prop where
  engine : v.engine = value? (variableOf "engine")
  addressVersion : settingOf defaultAddressVersion byte (value? (variableOf "address_version"))
    = .valid v.addressVersion
  logLevel : v.logLevel = (value? (variableOf "log_level")).getD "WARNING"
  logJson : settingOf false boolean (value? (variableOf "log_json")) = .valid v.logJson

theorem optional_fieldsOf (value? : String → Option String) {field : String}
    (hfield : field ∈ fieldNames) (default : α) (check : Check α) :
    Validation.optional (fieldsOf fieldNames value?) field default check
      = (settingOf default check (value? (variableOf field))).under (.field field) := by
  rw [Validation.optional, member?_fieldsOf, if_pos hfield]
  cases value? (variableOf field) <;> rfl

theorem settingOf_nullable_text {x e : Option String} :
    settingOf none (nullable text) x = .valid e ↔ e = x := by
  cases x <;> simp [settingOf, nullable, text, Checked.map, eq_comm]

theorem settingOf_text {default level : String} {x : Option String} :
    settingOf default text x = .valid level ↔ level = x.getD default := by
  cases x <;> simp [settingOf, text, eq_comm]

theorem ofMembers_eq_valid_iff {value? : String → Option String} :
    ofMembers (fieldsOf fieldNames value?) = .valid v ↔ Follows value? v := by
  unfold ofMembers
  rw [optional_fieldsOf value? (by decide), optional_fieldsOf value? (by decide),
    optional_fieldsOf value? (by decide), optional_fieldsOf value? (by decide)]
  simp only [Checked.seq_eq_valid_iff, Checked.map_eq_valid_iff, Checked.under_eq_valid_iff,
    settingOf_nullable_text, settingOf_text]
  constructor
  · intro ⟨_, json, ⟨_, level, ⟨_, version, ⟨engine, hengine, h₁⟩, hversion, h₂⟩, hlevel, h₃⟩,
      hjson, h₄⟩
    subst h₁ h₂ h₃ h₄
    exact ⟨hengine, hversion, hlevel, hjson⟩
  · intro h
    exact ⟨_, _, ⟨_, _, ⟨_, _, ⟨_, h.engine, rfl⟩, h.addressVersion, rfl⟩, h.logLevel, rfl⟩,
      h.logJson, rfl⟩

/-- Settings are what the variables make of them, once the settings files can be read. -/
theorem read_default (host : Host) (disk : Disk) :
    read host disk = (({} : Lookup).fileTexts host disk).map fun texts =>
      ofMembers (fieldsOf fieldNames (valueOf? host texts)) := by
  have hread : read host disk = members {} host disk [] >>= fun ms => pure (ofMembers ms) := rfl
  rw [hread, members_default]
  cases ({} : Lookup).fileTexts host disk <;> rfl

/-- Valid settings are read exactly if they follow the variables. -/
theorem read_eq_valid_iff :
    read host disk = .ok (.valid v) ↔
      ∃ texts, ({} : Lookup).fileTexts host disk = .ok texts ∧ Follows (valueOf? host texts) v := by
  rw [read_default, map_eq_ok_iff]
  exact exists_congr fun texts => and_congr_right fun _ => ofMembers_eq_valid_iff

/-! ## Failures -/

/-- A settings file that cannot be read is no request for an exit code of its own. -/
theorem exitCode_of_fileTexts {f : Failure} (h : ({} : Lookup).fileTexts host disk = .error f) :
    f.exitCode = 1 := by
  obtain ⟨-, name, -, -, -, hname⟩ := mapM_eq_error_iff.1 h
  rcases bind_eq_error_iff.1 hname with hhome | ⟨p, -, htext⟩
  · exact Host.exitCode_of_expandHome hhome
  · unfold Lookup.fileText at htext
    split at htext
    next => exact Except.error.inj htext ▸ rfl
    next => simp [pure, Except.pure] at htext
    next =>
      unfold Lookup.decode at htext
      split at htext
      next => simp at htext
      next => exact Except.error.inj htext ▸ rfl
      next => simp at htext

theorem exitCode_of_read {f : Failure} (h : read host disk = .error f) : f.exitCode = 1 := by
  rw [read_default] at h
  exact exitCode_of_fileTexts (map_eq_error_iff.1 h)

theorem exitCode_of_fileWarnings {f : Failure} (h : fileWarnings host disk = .error f) :
    f.exitCode = 1 := by
  rcases bind_eq_error_iff.1 h with htexts | ⟨texts, -, hwarnings⟩
  · exact exitCode_of_fileTexts htexts
  · simp [pure, Except.pure] at hwarnings

end ContractBuild.Settings
