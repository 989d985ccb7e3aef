import ContractBuild.Artifact.Content
import ContractBuild.Proofs.Document.Tokens

/-!
# Reading back what was written

A document is plain if it is built from nothing, booleans, whole numbers, texts, lists, tuples and
dictionaries with text keys. Such a document is always written, and `read?` gives it back from its
JSON text with nothing changed but that tuples have become lists (`ofBytes?_jsonBytes`). So the
bytes of a manifest tell its document apart from every other one (`jsonBytes_lossless`).

The reader sees a text from the left and has to stop where a value ends. `Reads cs d` says that it
does: `cs` followed by anything that can stand behind a value is read as `d`, and what follows is
left over. This is shown for each kind of document, the parts of a list or a dictionary first.
-/

namespace ContractBuild.Document

/-- Documents without binary64 numbers and bytes, whose dictionaries have text keys only. -/
inductive Plain : Document → Prop
  | null : Plain .null
  | bool (b : Bool) : Plain (.bool b)
  | int (i : Int) : Plain (.int i)
  | str (s : String) : Plain (.str s)
  | list {xs : List Document} (hitems : ∀ x ∈ xs, Plain x) : Plain (.list xs)
  | tuple {xs : List Document} (hitems : ∀ x ∈ xs, Plain x) : Plain (.tuple xs)
  | dict {ms : List (Document × Document)} (hkeys : ∀ m ∈ ms, ∃ s, m.1 = .str s)
      (hvalues : ∀ m ∈ ms, Plain m.2) : Plain (.dict ms)

/-- The document with every tuple in it as a list. -/
def listed : Document → Document
  | list xs => .list (listedItems xs)
  | tuple xs => .list (listedItems xs)
  | dict ms => .dict (listedMembers ms)
  | d => d
where
  listedItems : List Document → List Document
    | [] => []
    | x :: xs => listed x :: listedItems xs
  listedMembers : List (Document × Document) → List (Document × Document)
    | [] => []
    | (k, v) :: ms => (k, listed v) :: listedMembers ms

namespace Reader

/-! ## Values -/

/-- White space between tokens. -/
def IsGap (c : Char) : Prop := c = ' ' ∨ c = '\t' ∨ c = '\n' ∨ c = '\r'

theorem skip_cons {c : Char} (h : ¬ IsGap c) (cs : List Char) : skip (c :: cs) = c :: cs := by
  rw [skip, List.dropWhile_cons_of_neg]
  simpa [IsGap, and_assoc] using h

/-- A text starts with a character at which neither white space nor a closing bracket is read. -/
def Starts (cs : List Char) : Prop := ∃ c cs', cs = c :: cs' ∧ ¬ IsGap c ∧ c ≠ ']'

/-- A text is read as a document, whatever can stand behind it. -/
structure Reads (cs : List Char) (d : Document) : Prop where
  starts : Starts cs
  value : ∀ depth rest, cs.length < depth → Delimited rest →
    value? depth (cs ++ rest) = some (d, rest)

/-- A text is never empty, so its reader may go one level down. -/
theorem reads_of_succ {cs : List Char} {d : Document} (hstarts : Starts cs)
    (h : ∀ depth rest, cs.length ≤ depth → Delimited rest →
      value? (depth + 1) (cs ++ rest) = some (d, rest)) : Reads cs d := by
  refine ⟨hstarts, ?_⟩
  intro depth rest hdepth hrest
  cases depth with
  | zero => omega
  | succ depth => exact h depth rest (Nat.le_of_lt_succ hdepth) hrest

theorem reads_null : Reads "null".toList .null := by
  refine reads_of_succ ⟨'n', _, rfl, by simp [IsGap], by decide⟩ ?_
  intro depth rest _ _
  rfl

theorem reads_bool (b : Bool) : Reads (Json.bool b) (.bool b) := by
  cases b with
  | false =>
    refine reads_of_succ ⟨'f', _, rfl, by simp [IsGap], by decide⟩ ?_
    intro depth rest _ _
    rfl
  | true =>
    refine reads_of_succ ⟨'t', _, rfl, by simp [IsGap], by decide⟩ ?_
    intro depth rest _ _
    rfl

theorem reads_string (s : String) : Reads (Json.string s) (.str s) := by
  refine reads_of_succ ⟨'"', _, rfl, by simp [IsGap], by decide⟩ ?_
  intro depth rest _ _
  obtain ⟨cs, hcs, hread⟩ := string?_string s rest
  rw [hcs]
  show (string? cs).map _ = _
  rw [hread, Option.map_some]
  simp only [String.ofList_toList]

/-- The first character of a whole number is a digit or the minus sign. -/
theorem int_eq_cons (i : Int) :
    ∃ c cs, Json.int i = c :: cs ∧ (c = '-' ∨ c.isDigit = true) := by
  cases i with
  | negSucc n => exact ⟨'-', _, rfl, .inl rfl⟩
  | ofNat n =>
    cases hdigits : Decimal.digitsOf n with
    | nil => exact absurd hdigits Nat.toDigits_ne_nil
    | cons c cs =>
      exact ⟨c, cs, hdigits, .inr (isDigit_of_mem_digitsOf (n := n) (by simp [hdigits]))⟩

theorem reads_int (i : Int) : Reads (Json.int i) (.int i) := by
  obtain ⟨c, cs, hcs, hc⟩ := int_eq_cons i
  have hne : ∀ c' : Char, c' ≠ '-' → c'.isDigit = false → c ≠ c' := by
    intro c' hminus hdigit h
    rcases hc with hc | hc
    · exact hminus (h ▸ hc)
    · rw [h, hdigit] at hc
      exact absurd hc (by decide)
  have hgap : ¬ IsGap c := by
    intro h
    rcases h with h | h | h | h
    · exact hne ' ' (by decide) (by decide) h
    · exact hne '\t' (by decide) (by decide) h
    · exact hne '\n' (by decide) (by decide) h
    · exact hne '\r' (by decide) (by decide) h
  refine reads_of_succ ⟨c, cs, hcs, hgap, hne ']' (by decide) (by decide)⟩ ?_
  intro depth rest _ hrest
  -- no other kind of value starts like a number
  rw [← number?_int i hrest, hcs, List.cons_append, value?, skip_cons hgap]
  split
  next h => exact absurd (List.cons.inj h).1 (hne '"' (by decide) (by decide))
  next h => exact absurd (List.cons.inj h).1 (hne '[' (by decide) (by decide))
  next h => exact absurd (List.cons.inj h).1 (hne '{' (by decide) (by decide))
  next h => exact absurd (List.cons.inj h).1 (hne 'n' (by decide) (by decide))
  next h => exact absurd (List.cons.inj h).1 (hne 't' (by decide) (by decide))
  next h => exact absurd (List.cons.inj h).1 (hne 'f' (by decide) (by decide))
  next => rfl

/-! ## Lists -/

/-- A text is read as the items of a list up to its closing bracket. -/
structure ReadsItems (cs : List Char) (xs : List Document) : Prop where
  starts : Starts cs
  items : ∀ depth rest, cs.length + 1 < depth → items? depth (cs ++ ']' :: rest) = some (xs, rest)

variable {cs ds : List Char} {d : Document} {xs : List Document}

theorem readsItems_single (h : Reads cs d) : ReadsItems cs [d] := by
  refine ⟨h.starts, ?_⟩
  intro depth rest hdepth
  cases depth with
  | zero => omega
  | succ depth =>
    rw [items?, h.value depth _ (by omega) (delimited_cons (.inr (.inl rfl)) rest)]
    rfl

theorem readsItems_cons (h : Reads cs d) (hs : ReadsItems ds xs) :
    ReadsItems (cs ++ ',' :: ds) (d :: xs) := by
  obtain ⟨c, cs', hcs, hgap, hclose⟩ := h.starts
  refine ⟨⟨c, cs' ++ ',' :: ds, by rw [hcs, List.cons_append], hgap, hclose⟩, ?_⟩
  intro depth rest hdepth
  rw [List.length_append, List.length_cons] at hdepth
  cases depth with
  | zero => omega
  | succ depth =>
    rw [List.append_assoc, List.cons_append, items?,
      h.value depth _ (by omega) (delimited_cons (.inl rfl) _)]
    show (items? depth (ds ++ ']' :: rest)).bind _ = _
    rw [hs.items depth rest (by omega)]
    rfl

theorem reads_list_nil : Reads ['[', ']'] (.list []) := by
  refine reads_of_succ ⟨'[', _, rfl, by simp [IsGap], by decide⟩ ?_
  intro depth rest _ _
  rfl

theorem reads_list (h : ReadsItems cs xs) : Reads ('[' :: cs ++ [']']) (.list xs) := by
  refine reads_of_succ ⟨'[', _, rfl, by simp [IsGap], by decide⟩ ?_
  intro depth rest hdepth _
  rw [List.length_append, List.length_cons, List.length_singleton] at hdepth
  obtain ⟨c, cs', hcs, hgap, hclose⟩ := h.starts
  have hitems := h.items depth rest (by omega)
  rw [List.append_assoc, List.cons_append, List.singleton_append]
  rw [hcs, List.cons_append] at hitems ⊢
  have hopen : ¬ IsGap '[' := by simp [IsGap]
  simp only [value?, skip_cons hopen, skip_cons hgap]
  split
  next h => exact absurd (List.cons.inj h).1 hclose
  next => rw [hitems, Option.map_some]

/-! ## Dictionaries -/

/-- A text is read as the members of a dictionary up to its closing brace. -/
structure ReadsMembers (cs : List Char) (ms : List (Document × Document)) : Prop where
  starts : ∃ cs', cs = '"' :: cs'
  members : ∀ depth rest, cs.length + 1 < depth →
    members? depth (cs ++ '}' :: rest) = some (ms, rest)

variable {ms : List (Document × Document)} {s : String}

theorem readsMembers_single (h : Reads cs d) :
    ReadsMembers (Json.string s ++ ':' :: cs) [(.str s, d)] := by
  refine ⟨⟨_, rfl⟩, ?_⟩
  intro depth rest hdepth
  rw [List.length_append, List.length_cons] at hdepth
  cases depth with
  | zero => omega
  | succ depth =>
    obtain ⟨name, hname, hread⟩ := string?_string s (':' :: (cs ++ '}' :: rest))
    have hvalue := h.value depth _ (by omega) (delimited_cons (.inr (.inr rfl)) rest)
    rw [List.append_assoc, List.cons_append, hname]
    show (string? name).bind _ = _
    rw [hread]
    show (value? depth (cs ++ '}' :: rest)).bind _ = _
    rw [hvalue]
    simp only [String.ofList_toList]
    rfl

theorem readsMembers_cons (h : Reads cs d) (hs : ReadsMembers ds ms) :
    ReadsMembers (Json.string s ++ ':' :: cs ++ ',' :: ds) ((.str s, d) :: ms) := by
  refine ⟨⟨_, rfl⟩, ?_⟩
  intro depth rest hdepth
  rw [List.length_append, List.length_append, List.length_cons, List.length_cons] at hdepth
  cases depth with
  | zero => omega
  | succ depth =>
    obtain ⟨name, hname, hread⟩ :=
      string?_string s (':' :: (cs ++ ',' :: (ds ++ '}' :: rest)))
    have hvalue := h.value depth _ (by omega) (delimited_cons (.inl rfl) (ds ++ '}' :: rest))
    rw [List.append_assoc, List.append_assoc, List.cons_append, List.cons_append, hname]
    show (string? name).bind _ = _
    rw [hread]
    show (value? depth (cs ++ ',' :: (ds ++ '}' :: rest))).bind _ = _
    rw [hvalue]
    show (members? depth (ds ++ '}' :: rest)).bind _ = _
    rw [hs.members depth rest (by omega)]
    simp only [String.ofList_toList]
    rfl

theorem reads_dict_nil : Reads ['{', '}'] (.dict []) := by
  refine reads_of_succ ⟨'{', _, rfl, by simp [IsGap], by decide⟩ ?_
  intro depth rest _ _
  rfl

theorem reads_dict (h : ReadsMembers cs ms) : Reads ('{' :: cs ++ ['}']) (.dict ms) := by
  refine reads_of_succ ⟨'{', _, rfl, by simp [IsGap], by decide⟩ ?_
  intro depth rest hdepth _
  rw [List.length_append, List.length_cons, List.length_singleton] at hdepth
  obtain ⟨cs', hcs⟩ := h.starts
  have hmembers := h.members depth rest (by omega)
  rw [List.append_assoc, List.cons_append, List.singleton_append]
  rw [hcs, List.cons_append] at hmembers ⊢
  show (members? depth ('"' :: (cs' ++ '}' :: rest))).map _ = _
  rw [hmembers, Option.map_some]

end Reader

/-! ## Documents -/

open Reader

variable {d e : Document} {xs : List Document} {ms : List (Document × Document)}

theorem writeItems_cons {head tail : List Char} {x y : Document} (hx : Json.write x = .ok head)
    (hxs : Json.writeItems (y :: xs) = .ok tail) :
    Json.writeItems (x :: y :: xs) = .ok (head ++ ',' :: tail) := by
  rw [Json.writeItems, hx, hxs]
  rfl

/-- The items of a list are written and read, if each of them is. -/
theorem exists_writeItems (h : ∀ x ∈ xs, ∃ cs, Json.write x = .ok cs ∧ Reads cs x.listed)
    (hne : xs ≠ []) :
    ∃ cs, Json.writeItems xs = .ok cs ∧ ReadsItems cs (listed.listedItems xs) := by
  induction xs with
  | nil => exact absurd rfl hne
  | cons x xs ih =>
    obtain ⟨head, hwrite, hread⟩ := h x (List.mem_cons_self ..)
    cases xs with
    | nil => exact ⟨head, by rw [Json.writeItems, hwrite]; rfl, readsItems_single hread⟩
    | cons y xs =>
      obtain ⟨tail, hwrites, hreads⟩ := ih (fun z hz => h z (List.mem_cons_of_mem _ hz)) (by simp)
      exact ⟨_, writeItems_cons hwrite hwrites, readsItems_cons hread hreads⟩

theorem writeMembers_cons {value tail : List Char} {s : String} {m : Document × Document}
    (hd : Json.write d = .ok value) (hms : Json.writeMembers (m :: ms) = .ok tail) :
    Json.writeMembers ((.str s, d) :: m :: ms)
      = .ok (Json.string s ++ ':' :: value ++ ',' :: tail) := by
  rw [Json.writeMembers, hd, hms]
  rfl

/-- The members of a dictionary with text keys are written and read, if each value is. -/
theorem exists_writeMembers (hkeys : ∀ m ∈ ms, ∃ s, m.1 = .str s)
    (h : ∀ m ∈ ms, ∃ cs, Json.write m.2 = .ok cs ∧ Reads cs m.2.listed) (hne : ms ≠ []) :
    ∃ cs, Json.writeMembers ms = .ok cs ∧ ReadsMembers cs (listed.listedMembers ms) := by
  induction ms with
  | nil => exact absurd rfl hne
  | cons m ms ih =>
    obtain ⟨k, v⟩ := m
    obtain ⟨value, hwrite, hread⟩ := h (k, v) (List.mem_cons_self ..)
    obtain ⟨s, hs⟩ := hkeys (k, v) (List.mem_cons_self ..)
    obtain rfl : k = .str s := hs
    cases ms with
    | nil =>
      have hsingle : Json.writeMembers [(.str s, v)] = .ok (Json.string s ++ ':' :: value) := by
        rw [Json.writeMembers, hwrite]
        rfl
      exact ⟨_, hsingle, readsMembers_single hread⟩
    | cons m ms =>
      obtain ⟨tail, hwrites, hreads⟩ := ih (fun n hn => hkeys n (List.mem_cons_of_mem _ hn))
        (fun n hn => h n (List.mem_cons_of_mem _ hn)) (by simp)
      exact ⟨_, writeMembers_cons hwrite hwrites, readsMembers_cons hread hreads⟩

/-- A list is written and read, if its items are. Tuples are written the same way. -/
theorem exists_writeList (h : ∀ x ∈ xs, ∃ cs, Json.write x = .ok cs ∧ Reads cs x.listed) :
    ∃ cs, (Json.writeItems xs).map (fun cs => '[' :: cs ++ [']']) = .ok cs
      ∧ Reads cs (.list (listed.listedItems xs)) := by
  by_cases hne : xs = []
  · subst hne
    exact ⟨_, rfl, reads_list_nil⟩
  · obtain ⟨cs, hwrite, hread⟩ := exists_writeItems h hne
    exact ⟨_, by rw [hwrite]; rfl, reads_list hread⟩

/-- A plain document has a JSON text, which is read as the document. -/
theorem exists_write (h : d.Plain) : ∃ cs, Json.write d = .ok cs ∧ Reads cs d.listed := by
  induction h with
  | null => exact ⟨_, rfl, reads_null⟩
  | bool b => exact ⟨_, rfl, reads_bool b⟩
  | int i => exact ⟨_, rfl, reads_int i⟩
  | str s => exact ⟨_, rfl, reads_string s⟩
  | list _ ih => exact exists_writeList ih
  | tuple _ ih => exact exists_writeList ih
  | @dict ms hkeys _ ih =>
    by_cases hne : ms = []
    · subst hne
      exact ⟨_, rfl, reads_dict_nil⟩
    · obtain ⟨cs, hwrite, hread⟩ := exists_writeMembers hkeys ih hne
      exact ⟨'{' :: cs ++ ['}'], by rw [Json.write, hwrite]; rfl, reads_dict hread⟩

/-- The reader takes a whole text. -/
theorem read?_of_reads {cs : List Char} (h : Reads cs d) : read? cs = some d := by
  have hvalue := h.value (cs.length + 1) [] (Nat.lt_succ_self _) delimited_nil
  rw [List.append_nil] at hvalue
  rw [read?, hvalue]
  rfl

/-- The document that bytes hold as a JSON text. -/
def ofBytes? (b : Bytes) : Option Document := (Text.decode? b).bind fun s => read? s.toList

/-- The bytes of a plain document are read as the document. -/
theorem ofBytes?_jsonBytes (h : d.Plain) :
    ∃ b, Artifact.jsonBytes d = .ok b ∧ ofBytes? b = some d.listed := by
  obtain ⟨cs, hwrite, hread⟩ := exists_write h
  refine ⟨Text.encode (String.ofList cs), ?_, ?_⟩
  · rw [Artifact.jsonBytes, toJson, hwrite]
    rfl
  · rw [ofBytes?, Text.decode?_encode]
    show read? (String.ofList cs).toList = _
    rw [String.toList_ofList]
    exact read?_of_reads hread

/-- **Nothing is lost.** The bytes of a plain document are read as the document, tuples as lists, so
that they are the bytes of no other one. -/
theorem jsonBytes_lossless (h : d.Plain) :
    (∃ b, Artifact.jsonBytes d = .ok b ∧ ofBytes? b = some d.listed)
      ∧ ∀ e : Document, e.Plain → d.listed ≠ e.listed →
        Artifact.jsonBytes d ≠ Artifact.jsonBytes e := by
  obtain ⟨b, hb, hread⟩ := ofBytes?_jsonBytes h
  refine ⟨⟨b, hb, hread⟩, ?_⟩
  intro e he hne hsame
  obtain ⟨b', hb', hread'⟩ := ofBytes?_jsonBytes he
  obtain rfl : b = b' := Except.ok.inj (hb.symm.trans (hsame.trans hb'))
  exact hne (Option.some.inj (hread.symm.trans hread'))

/-- A document with a value of every plain kind, and with characters that are escaped. -/
def everyKind : Document :=
  .dict [(.str "\"\\\x07é", .tuple [.int (-120), .null, .bool true]),
    (.str "", .list [.dict [], .str "\n"])]

theorem plain_everyKind : everyKind.Plain := by
  have htuple : (Document.tuple [.int (-120), .null, .bool true]).Plain := by
    refine .tuple fun x hx => ?_
    simp only [List.mem_cons, List.not_mem_nil, or_false] at hx
    rcases hx with rfl | rfl | rfl
    · exact .int _
    · exact .null
    · exact .bool _
  have hlist : (Document.list [.dict [], .str "\n"]).Plain := by
    refine .list fun x hx => ?_
    simp only [List.mem_cons, List.not_mem_nil, or_false] at hx
    rcases hx with rfl | rfl
    · exact .dict (by simp) (by simp)
    · exact .str _
  refine .dict (by simp) fun m hm => ?_
  simp only [List.mem_cons, List.not_mem_nil, or_false] at hm
  rcases hm with rfl | rfl
  · exact htuple
  · exact hlist

/-- The bytes of such a document give it back, and are not those of its first value. -/
theorem everyKind_lossless :
    everyKind.Plain
      ∧ (∃ b, Artifact.jsonBytes everyKind = .ok b ∧ ofBytes? b = some everyKind.listed)
      ∧ Document.null.Plain ∧ everyKind.listed ≠ Document.null.listed
      ∧ Artifact.jsonBytes everyKind ≠ Artifact.jsonBytes .null :=
  have hne : everyKind.listed ≠ Document.null.listed := by simp [everyKind, listed]
  ⟨plain_everyKind, (jsonBytes_lossless plain_everyKind).1, .null, hne,
    (jsonBytes_lossless plain_everyKind).2 .null .null hne⟩

end ContractBuild.Document
