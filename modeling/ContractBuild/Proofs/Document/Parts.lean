import ContractBuild.Failure.Basic

/-!
# The parts of a document

`parts` lists everything that stands in a document in the order in which a reader of its text meets
it: a value before what it holds, and a key before the value of the key. What is true of a document
because of what it holds is shown by `inductOn`, once for each kind of document. The text of a list
or a dictionary is that of its items or members with commas between them (`writeItems_eq`,
`writeMembers_eq`).
-/

namespace ContractBuild.Document

/-- Something that stands in a document. -/
inductive Part where
  /-- The document itself, an item of a list or a tuple, or what belongs to a key. -/
  | value (d : Document)
  /-- A key of a dictionary. -/
  | key (d : Document)

/-- Everything that stands in a document, in the order of its text. Keys are not taken apart. -/
def parts : Document → List Part
  | list xs => .value (.list xs) :: partsOfItems xs
  | tuple xs => .value (.tuple xs) :: partsOfItems xs
  | dict ms => .value (.dict ms) :: partsOfMembers ms
  | d => [.value d]
where
  partsOfItems : List Document → List Part
    | [] => []
    | x :: xs => parts x ++ partsOfItems xs
  partsOfMembers : List (Document × Document) → List Part
    | [] => []
    | (k, v) :: ms => .key k :: (parts v ++ partsOfMembers ms)

/-- What is true of a document whenever it is true of all that it holds is true of all documents. -/
theorem inductOn {motive : Document → Prop} (d : Document) (null : motive .null)
    (bool : ∀ b, motive (.bool b)) (int : ∀ i, motive (.int i)) (float : ∀ x, motive (.float x))
    (str : ∀ s, motive (.str s)) (bytes : ∀ b, motive (.bytes b))
    (list : ∀ xs : List Document, (∀ x ∈ xs, motive x) → motive (.list xs))
    (tuple : ∀ xs : List Document, (∀ x ∈ xs, motive x) → motive (.tuple xs))
    (dict : ∀ ms : List (Document × Document), (∀ m ∈ ms, motive m.2) → motive (.dict ms)) :
    motive d :=
  @Document.rec motive (fun xs => ∀ x ∈ xs, motive x) (fun ms => ∀ m ∈ ms, motive m.2)
    (fun m => motive m.2) null bool int float str bytes list tuple dict
    (by simp) (fun _ _ hx hxs => List.forall_mem_cons.2 ⟨hx, hxs⟩)
    (by simp) (fun _ _ hm hms => List.forall_mem_cons.2 ⟨hm, hms⟩) (fun _ _ _ hv => hv) d

variable {p : Part} {xs : List Document} {ms : List (Document × Document)}

theorem mem_partsOfItems : p ∈ parts.partsOfItems xs ↔ ∃ x ∈ xs, p ∈ x.parts := by
  induction xs with
  | nil => simp [parts.partsOfItems]
  | cons x xs ih => simp [parts.partsOfItems, ih]

theorem mem_partsOfMembers :
    p ∈ parts.partsOfMembers ms ↔ ∃ m ∈ ms, p = .key m.1 ∨ p ∈ m.2.parts := by
  induction ms with
  | nil => simp [parts.partsOfMembers]
  | cons m ms ih => simp [parts.partsOfMembers, ih, or_assoc]

/-! ## Texts of parts -/

/-- The text of a member of a dictionary. -/
def writeMember (m : Document × Document) : Except Unwritable (List Char) := do
  let name ← Json.key m.1
  let value ← Json.write m.2
  return name ++ ':' :: value

/-- A comma stands behind a text only if another one follows. -/
theorem intercalate_of_mapM {α : Type} {f : α → Except Unwritable (List Char)} {as : List α}
    {texts : List (List Char)} (h : as.mapM f = .ok texts) (head : List Char) :
    [','].intercalate (head :: texts)
      = if as.isEmpty then head else head ++ ',' :: [','].intercalate texts := by
  obtain ⟨hfrom, hto⟩ := mapM_matches h
  cases as with
  | nil =>
    obtain rfl : texts = [] := List.eq_nil_iff_forall_not_mem.2 (by simpa using hfrom)
    exact List.intercalate_singleton
  | cons a as =>
    obtain ⟨t, ht, -⟩ := hto a (List.mem_cons_self ..)
    rw [List.intercalate_cons_of_ne_nil (List.ne_nil_of_mem ht), List.append_assoc]
    rfl

theorem writeItems_eq (xs : List Document) :
    Json.writeItems xs = (xs.mapM Json.write).map [','].intercalate := by
  induction xs with
  | nil => rfl
  | cons x xs ih =>
    rw [Json.writeItems, List.mapM_cons, ih]
    cases Json.write x with
    | error e => rfl
    | ok head =>
      cases htexts : xs.mapM Json.write with
      | error e => rfl
      | ok texts =>
        show _ = Except.ok ([','].intercalate (head :: texts))
        rw [intercalate_of_mapM htexts]
        -- the writing looks whether an item follows
        cases xs <;> rfl

theorem writeMembers_eq (ms : List (Document × Document)) :
    Json.writeMembers ms = (ms.mapM writeMember).map [','].intercalate := by
  induction ms with
  | nil => rfl
  | cons m ms ih =>
    rw [Json.writeMembers, List.mapM_cons, ih, writeMember]
    cases Json.key m.1 with
    | error e => rfl
    | ok name =>
      cases Json.write m.2 with
      | error e => rfl
      | ok value =>
        cases htexts : ms.mapM writeMember with
        | error e => rfl
        | ok texts =>
          show _ = Except.ok ([','].intercalate ((name ++ ':' :: value) :: texts))
          rw [intercalate_of_mapM htexts]
          cases ms <;> rfl

/-- A list is written as the texts of its items, in brackets and with commas between them. -/
theorem texts_of_list {cs : List Char} (h : Json.write (.list xs) = .ok cs) :
    ∃ texts, xs.mapM Json.write = .ok texts ∧ '[' :: [','].intercalate texts ++ [']'] = cs := by
  obtain ⟨inner, hinner, rfl⟩ := map_eq_ok_iff.1 h
  obtain ⟨texts, htexts, rfl⟩ := map_eq_ok_iff.1 (writeItems_eq xs ▸ hinner)
  exact ⟨texts, htexts, rfl⟩

/-- A dictionary is written as the texts of its members, in braces and with commas between them. -/
theorem texts_of_dict {cs : List Char} (h : Json.write (.dict ms) = .ok cs) :
    ∃ texts, ms.mapM writeMember = .ok texts
      ∧ '{' :: [','].intercalate texts ++ ['}'] = cs := by
  obtain ⟨inner, hinner, rfl⟩ := map_eq_ok_iff.1 h
  obtain ⟨texts, htexts, rfl⟩ := map_eq_ok_iff.1 (writeMembers_eq ms ▸ hinner)
  exact ⟨texts, htexts, rfl⟩

theorem writeMember_eq_ok_iff {m : Document × Document} {cs : List Char} :
    writeMember m = .ok cs ↔
      ∃ name value, Json.key m.1 = .ok name ∧ Json.write m.2 = .ok value
        ∧ name ++ ':' :: value = cs := by
  unfold writeMember
  cases Json.key m.1 <;> cases Json.write m.2 <;> simp [bind, Except.bind, pure, Except.pure]

end ContractBuild.Document
