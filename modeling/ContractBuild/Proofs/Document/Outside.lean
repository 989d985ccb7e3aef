import ContractBuild.Proofs.Document.Grammar

/-!
# What stands outside quotes

`bare` reads a text from its start and keeps the characters outside quotes, the quotes left out. A
text is `Neat` if it ends outside quotes and all characters outside are of some kind. Neat texts can
be put together (`Neat.append`, `Neat.intercalate`); whatever stands between the quotes of a text of
the grammar does not count (`neat_quoted`).

The text of a document is put together from texts between quotes and the few characters that are
written outside of them (`assembled_write`), so that it is neat (`Assembled.neat`). The text of a
value in it stands in it with the same characters outside quotes (`bare_subset_write`).
-/

namespace ContractBuild.Document

/-! ## Reading a text -/

/-- Where in a text a character stands. -/
inductive Place where
  | outside
  | inside
  /-- Between quotes and behind a backslash. -/
  | escaped
  deriving DecidableEq

/-- Where the character behind `c` stands. -/
def Place.next : Place → Char → Place
  | outside, c => if c = '"' then inside else outside
  | inside, c => if c = '"' then outside else if c = '\\' then escaped else inside
  | escaped, _ => inside

/-- The characters outside quotes, if the first stands at `p`. -/
def bareFrom : Place → List Char → List Char
  | _, [] => []
  | p, c :: cs =>
    if p = .outside ∧ c ≠ '"' then c :: bareFrom (p.next c) cs else bareFrom (p.next c) cs

/-- The characters of a text outside quotes. -/
def bare (cs : List Char) : List Char := bareFrom .outside cs

theorem bareFrom_append (p : Place) (xs ys : List Char) :
    bareFrom p (xs ++ ys) = bareFrom p xs ++ bareFrom (xs.foldl Place.next p) ys := by
  induction xs generalizing p with
  | nil => rfl
  | cons x xs ih =>
    simp only [List.cons_append, bareFrom, List.foldl_cons, ih]
    split <;> rfl

/-- A text that ends outside quotes and has only characters of one kind outside. -/
structure Neat (P : Char → Prop) (cs : List Char) : Prop where
  closed : cs.foldl Place.next .outside = .outside
  all_bare : ∀ c ∈ bare cs, P c

section

variable {P : Char → Prop} {xs ys cs : List Char}

theorem Neat.bare_append (h : Neat P xs) (ys : List Char) :
    bare (xs ++ ys) = bare xs ++ bare ys := by
  rw [bare, bareFrom_append, h.closed]
  rfl

theorem Neat.nil : Neat P [] := ⟨rfl, by simp [bare, bareFrom]⟩

theorem Neat.append (hx : Neat P xs) (hy : Neat P ys) : Neat P (xs ++ ys) := by
  constructor
  · rw [List.foldl_append, hx.closed, hy.closed]
  · rw [hx.bare_append]
    exact List.forall_mem_append.2 ⟨hx.all_bare, hy.all_bare⟩

theorem Neat.single {c : Char} (hquote : c ≠ '"') (hc : P c) : Neat P [c] :=
  ⟨by simp [Place.next, hquote], by simpa [bare, bareFrom, hquote] using hc⟩

theorem Neat.plain (h : ∀ c ∈ cs, c ≠ '"' ∧ P c) : Neat P cs := by
  induction cs with
  | nil => exact .nil
  | cons c cs ih =>
    obtain ⟨⟨hquote, hc⟩, hcs⟩ := List.forall_mem_cons.1 h
    exact (Neat.single hquote hc).append (ih hcs)

/-- A text without quotes stands outside of them. -/
theorem bare_of_plain (h : ∀ c ∈ cs, c ≠ '"') : bare cs = cs := by
  induction cs with
  | nil => rfl
  | cons c cs ih =>
    obtain ⟨hquote, hcs⟩ := List.forall_mem_cons.1 h
    rw [bare, bareFrom, if_pos ⟨rfl, hquote⟩, Place.next, if_neg hquote]
    exact congrArg _ (ih hcs)

theorem Neat.intercalate {texts : List (List Char)} (hcomma : P ',') (h : ∀ t ∈ texts, Neat P t) :
    Neat P ([','].intercalate texts) := by
  induction texts with
  | nil => exact .nil
  | cons t texts ih =>
    obtain ⟨ht, htexts⟩ := List.forall_mem_cons.1 h
    cases texts with
    | nil => rwa [List.intercalate_singleton]
    | cons next texts =>
      rw [List.intercalate_cons_cons]
      exact (ht.append (.single (by decide) hcomma)).append (ih htexts)

/-- A text between others keeps the characters that stand outside its quotes. -/
theorem bare_subset_intercalate {texts : List (List Char)} (h : ∀ t ∈ texts, Neat P t)
    {t : List Char} (ht : t ∈ texts) : bare t ⊆ bare ([','].intercalate texts) := by
  induction texts with
  | nil => simp at ht
  | cons u texts ih =>
    obtain ⟨hu, htexts⟩ := List.forall_mem_cons.1 h
    cases texts with
    | nil =>
      rw [List.intercalate_singleton, List.mem_singleton.1 ht]
      exact List.Subset.refl _
    | cons next texts =>
      rw [List.intercalate_cons_cons, List.append_assoc, hu.bare_append]
      rcases List.mem_cons.1 ht with rfl | ht
      · exact List.subset_append_left _ _
      · exact List.subset_append_of_subset_right _ (List.subset_cons_of_subset _ (ih htexts ht))

end

/-! ## Quotes -/

theorem inside_of_plain {cs : List Char} (h : ∀ c ∈ cs, c ≠ '"' ∧ c ≠ '\\') :
    cs.foldl Place.next .inside = .inside ∧ bareFrom .inside cs = [] := by
  induction cs with
  | nil => exact ⟨rfl, rfl⟩
  | cons c cs ih =>
    obtain ⟨⟨hquote, hbackslash⟩, hcs⟩ := List.forall_mem_cons.1 h
    simpa [bareFrom, Place.next, hquote, hbackslash] using ih hcs

/-- No letter closes the quotes in which it stands. -/
theorem letter_inside {l : List Char} (h : Grammar.Letter l) :
    l.foldl Place.next .inside = .inside ∧ bareFrom .inside l = [] := by
  cases h with
  | plain hcontrol hquote hbackslash => exact inside_of_plain (by simpa using ⟨hquote, hbackslash⟩)
  | short hc => exact ⟨rfl, rfl⟩
  | @code digits hcount hdigits =>
    -- the letter behind the backslash is skipped, and the digits are plain
    show digits.foldl Place.next .inside = .inside ∧ bareFrom .inside digits = []
    refine inside_of_plain fun c hc => ?_
    have hhex := hdigits c hc
    unfold Grammar.IsHex at hhex
    constructor <;> rintro rfl <;> exact absurd hhex (by decide)

theorem letters_inside {letters : List (List Char)} (h : ∀ l ∈ letters, Grammar.Letter l) :
    letters.flatten.foldl Place.next .inside = .inside ∧ bareFrom .inside letters.flatten = [] := by
  induction letters with
  | nil => exact ⟨rfl, rfl⟩
  | cons l letters ih =>
    obtain ⟨hl, hletters⟩ := List.forall_mem_cons.1 h
    obtain ⟨hplace, hbare⟩ := letter_inside hl
    obtain ⟨hplaces, hbares⟩ := ih hletters
    rw [List.flatten_cons, List.foldl_append, bareFrom_append, hplace, hbare, hplaces, hbares]
    exact ⟨rfl, rfl⟩

theorem neat_quoted {P : Char → Prop} {cs : List Char} (h : Grammar.Quoted cs) : Neat P cs := by
  obtain ⟨letters, hletters, rfl⟩ := h
  obtain ⟨hplace, hbare⟩ := letters_inside hletters
  constructor
  · rw [List.cons_append, List.foldl_cons, List.foldl_append]
    show List.foldl _ (letters.flatten.foldl Place.next .inside) _ = _
    rw [hplace]
    rfl
  · show ∀ c ∈ bareFrom .inside (letters.flatten ++ ['"']), P c
    rw [bareFrom_append, hplace, hbare]
    simp [bareFrom]

/-! ## Documents -/

/-- The signs around values and the letters of all words. -/
def fixed : List Char := "[]{},:nulltruefalseNaNInfinity-".toList

/-- A character that is written outside quotes: it belongs to a number, to a word or stands around
values. -/
def IsBare (c : Char) : Prop := Grammar.IsNumeric c ∨ c ∈ fixed

/-- A text that is put together from bare characters and texts between quotes. -/
inductive Assembled : List Char → Prop
  | nil : Assembled []
  | bare {c : Char} (h : IsBare c) : Assembled [c]
  | quoted {cs : List Char} (h : Grammar.Quoted cs) : Assembled cs
  | append {xs ys : List Char} (hx : Assembled xs) (hy : Assembled ys) : Assembled (xs ++ ys)

namespace Assembled

variable {cs : List Char}

theorem of_bare (h : ∀ c ∈ cs, IsBare c) : Assembled cs := by
  induction cs with
  | nil => exact .nil
  | cons c cs ih =>
    obtain ⟨hc, hcs⟩ := List.forall_mem_cons.1 h
    exact (Assembled.bare hc).append (ih hcs)

theorem of_fixed (h : cs ⊆ fixed) : Assembled cs := of_bare fun _ hc => .inr (h hc)

theorem of_number (h : Grammar.Number cs) : Assembled cs :=
  of_bare fun c hc => .inl (h.isNumeric c hc)

theorem intercalate {texts : List (List Char)} (h : ∀ t ∈ texts, Assembled t) :
    Assembled ([','].intercalate texts) := by
  induction texts with
  | nil => exact .nil
  | cons t texts ih =>
    obtain ⟨ht, htexts⟩ := List.forall_mem_cons.1 h
    cases texts with
    | nil => rwa [List.intercalate_singleton]
    | cons next texts =>
      rw [List.intercalate_cons_cons]
      exact (ht.append (.bare (.inr (by decide)))).append (ih htexts)

theorem of_member {m : Document × Document} (h : writeMember m = .ok cs)
    (hvalue : ∀ t, Json.write m.2 = .ok t → Assembled t) : Assembled cs := by
  obtain ⟨name, value, hname, hwrite, rfl⟩ := writeMember_eq_ok_iff.1 h
  have hcolon : Assembled [':'] := .bare (.inr (by decide))
  exact (Assembled.quoted (Grammar.quoted_key hname)).append (hcolon.append (hvalue value hwrite))

end Assembled

/-- The text of a document is put together from bare characters and texts between quotes. -/
theorem assembled_write (d : Document) {cs : List Char} (h : Json.write d = .ok cs) :
    Assembled cs := by
  induction d using inductOn generalizing cs with
  | null => exact Except.ok.inj h ▸ .of_fixed (by decide)
  | bool b =>
    obtain rfl := Except.ok.inj h
    cases b <;> exact .of_fixed (by decide)
  | int i => exact Except.ok.inj h ▸ .of_number (Grammar.number_int i)
  | float x =>
    obtain rfl := Except.ok.inj h
    cases hx : x.isFinite with
    | true => exact .of_number (Grammar.number_float hx)
    | false =>
      have hwords : ∀ t ∈ Grammar.words, t ⊆ fixed := by decide
      exact .of_fixed (hwords _ (Grammar.float_mem_words hx))
  | str s => exact Except.ok.inj h ▸ .quoted (Grammar.quoted_string s)
  | bytes b => cases h
  | list xs ih | tuple xs ih =>
    obtain ⟨texts, htexts, rfl⟩ := texts_of_list h
    have hall : ∀ t ∈ texts, Assembled t := by
      intro t ht
      obtain ⟨x, hx, ht⟩ := (mapM_matches htexts).1 t ht
      exact ih x hx ht
    have hopening : Assembled ['['] := .of_fixed (by decide)
    have hclosing : Assembled [']'] := .of_fixed (by decide)
    exact (hopening.append (.intercalate hall)).append hclosing
  | dict ms ih =>
    obtain ⟨texts, htexts, rfl⟩ := texts_of_dict h
    have hall : ∀ t ∈ texts, Assembled t := by
      intro t ht
      obtain ⟨m, hm, ht⟩ := (mapM_matches htexts).1 t ht
      exact .of_member ht fun _ => ih m hm
    have hopening : Assembled ['{'] := .of_fixed (by decide)
    have hclosing : Assembled ['}'] := .of_fixed (by decide)
    exact (hopening.append (.intercalate hall)).append hclosing

theorem IsBare.ne_quote {c : Char} (h : IsBare c) : c ≠ '"' := by
  rcases h with hnumeric | hfixed
  · exact hnumeric.plain.2.1
  · have hquote : '"' ∉ fixed := by decide
    exact ne_of_mem_of_not_mem hfixed hquote

theorem Assembled.neat {P : Char → Prop} {cs : List Char} (h : Assembled cs)
    (hbare : ∀ c, IsBare c → P c) : Neat P cs := by
  induction h with
  | nil => exact .nil
  | bare hc => exact .single hc.ne_quote (hbare _ hc)
  | quoted hquoted => exact neat_quoted hquoted
  | append _ _ hx hy => exact hx.append hy

section

variable {P : Char → Prop} {cs : List Char}

/-- The text of a document is closed. -/
theorem closed_write (d : Document) (h : Json.write d = .ok cs) : Neat (fun _ => True) cs :=
  (assembled_write d h).neat fun _ _ => trivial

theorem bare_subset_enclosed {texts : List (List Char)} {opening : Char} (hopening : opening ≠ '"')
    (hcomma : P ',') (h : ∀ t ∈ texts, Neat P t) {t : List Char} (ht : t ∈ texts) (closing : Char) :
    bare t ⊆ bare (opening :: [','].intercalate texts ++ [closing]) := by
  have hfront : Neat (fun _ => True) [opening] := .single hopening trivial
  have hinner : Neat P ([','].intercalate texts) := .intercalate hcomma h
  rw [List.cons_append, ← List.singleton_append, hfront.bare_append, hinner.bare_append]
  exact List.subset_append_of_subset_right _
    (List.subset_append_of_subset_left _ (bare_subset_intercalate h ht))

/-- The text of a value in a document stands in the text of the document, and what is outside quotes
there is outside quotes here. -/
theorem bare_subset_write (d : Document) (h : Json.write d = .ok cs) {e : Document}
    (he : .value e ∈ d.parts) : ∃ t, Json.write e = .ok t ∧ bare t ⊆ bare cs := by
  induction d using inductOn generalizing cs with
  | list xs ih | tuple xs ih =>
    rcases List.mem_cons.1 he with he | he
    · exact ⟨cs, Part.value.inj he ▸ h, List.Subset.refl _⟩
    · -- the value stands in an item, and the text of the item in that of the list
      obtain ⟨x, hx, he⟩ := mem_partsOfItems.1 he
      obtain ⟨texts, htexts, rfl⟩ := texts_of_list h
      obtain ⟨t, ht, hwrite⟩ := (mapM_matches htexts).2 x hx
      obtain ⟨u, hu, hsubset⟩ := ih x hx hwrite he
      have hall : ∀ t ∈ texts, Neat (fun _ => True) t := by
        intro t ht
        obtain ⟨y, hy, ht⟩ := (mapM_matches htexts).1 t ht
        exact closed_write y ht
      exact ⟨u, hu,
        List.Subset.trans hsubset (bare_subset_enclosed (by decide) trivial hall ht ']')⟩
  | dict ms ih =>
    rcases List.mem_cons.1 he with he | he
    · exact ⟨cs, Part.value.inj he ▸ h, List.Subset.refl _⟩
    · obtain ⟨m, hm, he | he⟩ := mem_partsOfMembers.1 he
      · cases he
      obtain ⟨texts, htexts, rfl⟩ := texts_of_dict h
      obtain ⟨t, ht, hwrite⟩ := (mapM_matches htexts).2 m hm
      obtain ⟨name, value, hname, hvalue, rfl⟩ := writeMember_eq_ok_iff.1 hwrite
      obtain ⟨u, hu, hsubset⟩ := ih m hm hvalue he
      have hall : ∀ t ∈ texts, Neat (fun _ => True) t := by
        intro t ht
        obtain ⟨m, hm, ht⟩ := (mapM_matches htexts).1 t ht
        exact (Assembled.of_member ht fun _ => assembled_write m.2).neat fun _ _ => trivial
      -- a key is closed, so that its value is read from outside quotes
      have hfront : Neat (fun _ => True) (name ++ [':']) :=
        (neat_quoted (Grammar.quoted_key hname)).append (.single (by decide) trivial)
      have hmember : bare value ⊆ bare (name ++ ':' :: value) := by
        rw [List.append_cons, hfront.bare_append]
        exact List.subset_append_right _ _
      exact ⟨u, hu, List.Subset.trans (List.Subset.trans hsubset hmember)
        (bare_subset_enclosed (by decide) trivial hall ht '}')⟩
  | _ =>
    obtain rfl := Part.value.inj (List.mem_singleton.1 he)
    exact ⟨cs, h, List.Subset.refl _⟩

end

end ContractBuild.Document
