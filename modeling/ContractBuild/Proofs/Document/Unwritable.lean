import ContractBuild.Artifact.Content
import ContractBuild.Proofs.Document.Parts

/-!
# What has no JSON form

A part of a document offends if it is a value that is bytes, or a key that is bytes or a tuple. The
text of a document is refused exactly if one of its parts offends, and the refusal is about the
first of them (`jsonBytes_rejects`). `Answers` says so of one stage of the writing, and passes
through `bind`, the parts of the stages standing one after another.
-/

namespace ContractBuild.Document

namespace Part

/-- Whether a part has no JSON form. -/
def offends : Part → Bool
  | value (.bytes _) | key (.bytes _) | key (.tuple _) => true
  | _ => false

/-- Whether a part can stand in a document at all. Keys cannot hold what changes. -/
def permitted : Part → Bool
  | value _ => true
  | key k => k.mutableKind?.isNone

/-- What is wrong with a part that offends. -/
def complaint : Part → Unwritable
  | value _ => .value
  | key k => .key k.kindName

end Part

/-- Every key of a document is one that a dictionary can hold. -/
def Keyed (d : Document) : Prop := ∀ p ∈ d.parts, p.permitted = true

instance (d : Document) : Decidable d.Keyed := by
  unfold Keyed; infer_instance

/-- What is wrong with the first part that offends. -/
def firstComplaint (ps : List Part) : Option Unwritable :=
  (ps.find? Part.offends).map Part.complaint

theorem firstComplaint_append (ps qs : List Part) :
    firstComplaint (ps ++ qs) = (firstComplaint ps).or (firstComplaint qs) := by
  rw [firstComplaint, List.find?_append]
  cases h : ps.find? Part.offends <;> simp [firstComplaint, h]

/-- A stage is refused exactly with what is wrong with the first of the parts that offends. -/
def Answers {α : Type} (x : Except Unwritable α) (ps : List Part) : Prop :=
  ∀ e, x = .error e ↔ firstComplaint ps = some e

section

variable {α β : Type} {x : Except Unwritable α} {f : α → Except Unwritable β} {ps qs : List Part}

theorem answers_nil (a : α) : Answers (.ok a) [] := by
  simp [Answers, firstComplaint]

theorem Answers.bind (hx : Answers x ps) (hf : ∀ a, Answers (f a) qs) :
    Answers (x >>= f) (ps ++ qs) := by
  intro e
  rw [firstComplaint_append]
  cases x with
  | error e' =>
    rw [(hx e').1 rfl, Option.some_or]
    show Except.error e' = _ ↔ _
    simp
  | ok a =>
    -- nothing offends in the first stage, as it is not refused
    have hnone : firstComplaint ps = none := by
      refine Option.eq_none_iff_forall_ne_some.2 fun e' he' => ?_
      simpa using (hx e').2 he'
    rw [hnone, Option.none_or]
    exact hf a e

/-- The last step of a stage only puts its text together. -/
theorem Answers.map (hx : Answers x ps) (g : α → β) : Answers (x.map g) ps := by
  intro e
  rw [← hx e]
  cases x <;> simp [Except.map]

/-- A value offends by itself only if it is bytes. -/
theorem Answers.opened {d : Document} (hx : Answers x ps) (hd : (Part.value d).offends = false) :
    Answers x (.value d :: ps) := by
  have hskip : firstComplaint (.value d :: ps) = firstComplaint ps := by
    rw [firstComplaint, List.find?_cons_of_neg (by simp [hd]), firstComplaint]
  intro e
  rw [hskip]
  exact hx e

end

variable {d k : Document} {xs : List Document} {ms : List (Document × Document)}

/-- Of the keys that a dictionary can hold only bytes and tuples are refused. -/
theorem answers_key (h : k.mutableKind? = none) : Answers (Json.key k) [.key k] := by
  intro e
  cases k with
  | list xs => simp [mutableKind?] at h
  | dict ms => simp [mutableKind?] at h
  | _ => simp [Json.key, firstComplaint, Part.offends, Part.complaint, kindName]

theorem answers_writeItems (h : ∀ x ∈ xs, Answers (Json.write x) x.parts) :
    Answers (Json.writeItems xs) (parts.partsOfItems xs) := by
  induction xs with
  | nil => exact answers_nil _
  | cons x xs ih =>
    obtain ⟨hx, hxs⟩ := List.forall_mem_cons.1 h
    rw [parts.partsOfItems, Json.writeItems]
    exact hx.bind fun head => (ih hxs).map _

theorem answers_writeMembers (hkeys : ∀ m ∈ ms, m.1.mutableKind? = none)
    (h : ∀ m ∈ ms, Answers (Json.write m.2) m.2.parts) :
    Answers (Json.writeMembers ms) (parts.partsOfMembers ms) := by
  induction ms with
  | nil => exact answers_nil _
  | cons m ms ih =>
    obtain ⟨hkey, hkeys⟩ := List.forall_mem_cons.1 hkeys
    obtain ⟨hv, hvs⟩ := List.forall_mem_cons.1 h
    rw [parts.partsOfMembers, Json.writeMembers]
    exact (answers_key hkey).bind fun name => hv.bind fun value => (ih hkeys hvs).map _

/-- The writing of a document is refused for the first of its parts that offends. -/
theorem answers_write (d : Document) (h : d.Keyed) : Answers (Json.write d) d.parts := by
  induction d using inductOn with
  | list xs ih | tuple xs ih =>
    have hitems : ∀ x ∈ xs, x.Keyed := fun x hx p hp =>
      h p (List.mem_cons_of_mem _ (mem_partsOfItems.2 ⟨x, hx, hp⟩))
    exact ((answers_writeItems fun x hx => ih x hx (hitems x hx)).map _).opened rfl
  | dict ms ih =>
    have hkeys : ∀ m ∈ ms, m.1.mutableKind? = none := fun m hm => by
      simpa [Part.permitted] using
        h (.key m.1) (List.mem_cons_of_mem _ (mem_partsOfMembers.2 ⟨m, hm, .inl rfl⟩))
    have hvalues : ∀ m ∈ ms, m.2.Keyed := fun m hm p hp =>
      h p (List.mem_cons_of_mem _ (mem_partsOfMembers.2 ⟨m, hm, .inr hp⟩))
    exact ((answers_writeMembers hkeys fun m hm => ih m hm (hvalues m hm)).map _).opened rfl
  | bytes b => simp [Answers, firstComplaint, parts, Json.write, Part.offends, Part.complaint]
  | _ => simp [Answers, firstComplaint, parts, Json.write, Part.offends]

/-- The bytes of a document are refused for the first of its parts that offends. -/
theorem jsonBytes_eq_error_iff (h : d.Keyed) {f : Failure} :
    Artifact.jsonBytes d = .error f ↔
      ∃ p, d.parts.find? Part.offends = some p ∧ f = .misuse (.unwritable p.complaint) := by
  have hwrite : Answers d.toJson d.parts := (answers_write d h).map _
  have hbytes : Artifact.jsonBytes d = .error f ↔
      ∃ e, d.toJson = .error e ∧ f = .misuse (.unwritable e) := by
    unfold Artifact.jsonBytes
    cases d.toJson <;> simp [eq_comm]
  rw [hbytes]
  constructor
  · rintro ⟨e, he, rfl⟩
    obtain ⟨p, hp, rfl⟩ := Option.map_eq_some_iff.1 ((hwrite e).1 he)
    exact ⟨p, hp, rfl⟩
  · rintro ⟨p, hp, rfl⟩
    exact ⟨p.complaint, (hwrite _).2 (Option.map_eq_some_iff.2 ⟨p, hp, rfl⟩), rfl⟩

theorem Part.offends_iff {p : Part} :
    p.offends = true ↔ (∃ b, p = .value (.bytes b)) ∨ (∃ b, p = .key (.bytes b))
      ∨ ∃ xs, p = .key (.tuple xs) := by
  rcases p with d | d <;> cases d <;> simp [offends]

/-- **What has no JSON form is refused, and nothing else.** A document is refused exactly if some
value in it is bytes or some key in it is bytes or a tuple. The refusal is always of one kind, and
it is about the first such part in the order of the text, a key before its value. -/
theorem jsonBytes_rejects (h : d.Keyed) :
    ((∃ f, Artifact.jsonBytes d = .error f) ↔
      ∃ p ∈ d.parts, (∃ b, p = .value (.bytes b)) ∨ (∃ b, p = .key (.bytes b))
        ∨ ∃ xs, p = .key (.tuple xs))
      ∧ ∀ f, Artifact.jsonBytes d = .error f ↔
        ∃ p, d.parts.find? Part.offends = some p ∧ f = .misuse (.unwritable p.complaint) := by
  refine ⟨?_, fun f => jsonBytes_eq_error_iff h⟩
  simp only [← Part.offends_iff]
  constructor
  · rintro ⟨f, hf⟩
    obtain ⟨p, hp, -⟩ := (jsonBytes_eq_error_iff h).1 hf
    exact ⟨p, List.mem_of_find?_eq_some hp, List.find?_some hp⟩
  · rintro ⟨p, hp, hoffends⟩
    obtain ⟨q, hq⟩ := Option.isSome_iff_exists.1 (List.find?_isSome.2 ⟨p, hp, hoffends⟩)
    exact ⟨_, (jsonBytes_eq_error_iff h).2 ⟨q, hq, rfl⟩⟩

/-- A dictionary with a tuple as a key deep inside, in front of bytes that are less deep. -/
def mixedKeys : Document :=
  .dict
    [(.str "a", .list
      [.null, .dict [(.float ⟨0⟩, .tuple []), (.tuple [.bytes []], .bytes [])]]),
    (.str "b", .bytes [1])]

/-- The key is what it is refused for. -/
theorem mixedKeys_rejected :
    mixedKeys.Keyed
      ∧ (∃ p ∈ mixedKeys.parts, (∃ b, p = .value (.bytes b)) ∨ (∃ b, p = .key (.bytes b))
        ∨ ∃ xs, p = .key (.tuple xs))
      ∧ Artifact.jsonBytes mixedKeys = .error (.misuse (.unwritable (.key "tuple"))) := by
  have hkeyed : mixedKeys.Keyed := by decide
  obtain ⟨hiff, hfirst⟩ := jsonBytes_rejects hkeyed
  have hrejected := (hfirst _).2 ⟨.key (.tuple [.bytes []]), rfl, rfl⟩
  exact ⟨hkeyed, hiff.1 ⟨_, hrejected⟩, hrejected⟩

end ContractBuild.Document
