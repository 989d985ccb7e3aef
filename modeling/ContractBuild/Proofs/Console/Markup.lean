import ContractBuild.Proofs.Console.Display
import Mathlib.Data.List.Induction

/-!
# Messages behind a mark

A message is escaped, put behind its mark and rendered. Escaping makes every tag of the message
literal and leaves all that is no tag as it is, so that the escaped text is read as the escaped
pieces of the message (`pieces_escaped`): no message has a tag of its own. What is rendered is the
message up to two things that happen to backslashes (`render_escape`): one that stands right before
a bracket that starts no tag is lost, and a single one at the end is doubled. `print_marked` tells
what a console prints.
-/

namespace ContractBuild

namespace Text.Markup

variable {cs body after : List Char} {c : Char} {ps : List Piece}

/-! ## Tags -/

theorem isBracket_of_startsTag (h : startsTag c = true) : isBracket c = false := by
  by_cases hopen : c = '['
  · simp [hopen, startsTag] at h
  · by_cases hclose : c = ']'
    · simp [hclose, startsTag] at h
    · simp [isBracket, hopen, hclose]

/-- Whether a bracket starts a tag depends on the character behind it and on the next bracket. -/
theorem tag?_isSome (cs : List Char) :
    (tag? ('[' :: cs)).isSome = (cs.head?.any startsTag && (cs.find? isBracket == some ']')) := by
  cases cs with
  | nil => rfl
  | cons c cs =>
    rw [tag?, List.head?_cons, Option.any_some]
    cases hc : startsTag c with
    | false => rfl
    | true =>
      rw [List.find?_cons_of_neg (by simp [isBracket_of_startsTag hc]),
        List.find?_eq_head?_dropWhile_not, if_pos rfl, Bool.true_and]
      cases cs.dropWhile (!isBracket ·) with
      | nil => rfl
      | cons d ds =>
        by_cases hd : d = ']'
        · rw [hd]; rfl
        · simp [hd]

/-- The body of a tag starts like one and has no bracket. -/
theorem exists_of_tag? (h : tag? cs = some (body, after)) :
    ∃ c tail, body = c :: tail ∧ startsTag c = true ∧ tail.any isBracket = false := by
  unfold tag? at h
  split at h
  · next c cs =>
    split at h
    · next hc =>
      split at h
      · obtain ⟨rfl, -⟩ := Prod.mk.inj (Option.some.inj h)
        refine ⟨c, _, rfl, hc, List.any_eq_false.2 fun d hd => ?_⟩
        simpa using List.mem_takeWhile_imp hd
      · simp at h
    · simp at h
  · simp at h

/-- Such a body makes a tag, whatever follows. -/
theorem tag?_tagText {tail : List Char} (hc : startsTag c = true)
    (htail : tail.any isBracket = false) (rest : List Char) :
    tag? (tagText (c :: tail) ++ rest) = some (c :: tail, rest) := by
  have hpos : ∀ d ∈ tail, (!isBracket d) = true := fun d hd => by
    simpa using List.any_eq_false.1 htail d hd
  have hdrop : (tail ++ ']' :: rest).dropWhile (!isBracket ·) = ']' :: rest := by
    rw [List.dropWhile_append_of_pos hpos]
    rfl
  have htake : (tail ++ ']' :: rest).takeWhile (!isBracket ·) = tail := by
    rw [List.takeWhile_append_of_pos hpos]
    exact List.append_nil tail
  have htext : tagText (c :: tail) ++ rest = '[' :: c :: (tail ++ ']' :: rest) := by simp [tagText]
  rw [htext, tag?, if_pos hc, hdrop, htake]
  rfl

theorem tag?_again (h : tag? cs = some (body, after)) (rest : List Char) :
    tag? (tagText body ++ rest) = some (body, rest) := by
  obtain ⟨c, tail, rfl, hc, htail⟩ := exists_of_tag? h
  exact tag?_tagText hc htail rest

/-! ## Reading -/

theorem map_escaped_replicate (n : Nat) :
    (List.replicate n (.plain '\\')).map Piece.escaped = List.replicate n (.plain '\\') :=
  List.map_replicate

theorem piecesFrom_replicate (n m : Nat) (cs : List Char) :
    piecesFrom n (List.replicate m '\\' ++ cs) = piecesFrom (n + m) cs := by
  induction m generalizing n with
  | zero => rfl
  | succ m ih =>
    rw [List.replicate_succ, List.cons_append, piecesFrom, if_pos rfl, ih, Nat.add_assoc,
      Nat.add_comm 1]

/-! ## Reading what is escaped -/

theorem find?_backslashes (n : Nat) : (List.replicate n '\\').find? isBracket = none := by
  rw [List.find?_eq_none]
  intro c hc
  rw [List.eq_of_mem_replicate hc]
  decide

/-- Escaping adds nothing but backslashes before tags, so the next bracket stays the same. -/
theorem find?_text_escaped (ps : List Piece) :
    (text (ps.map Piece.escaped)).find? isBracket = (text ps).find? isBracket := by
  induction ps with
  | nil => rfl
  | cons p ps ih =>
    cases p with
    | plain c =>
      rw [List.map_cons, text_cons, text_cons, List.find?_append, List.find?_append, ih]
      rfl
    | tag n body =>
      have hopen (cs : List Char) : ('[' :: cs).find? isBracket = some '[' := rfl
      simp only [List.map_cons, Piece.escaped, text_cons, Piece.text, List.find?_append,
        find?_backslashes, tagText, List.cons_append, hopen, Option.none_or, Option.some_or]

/-- What starts with a tag never looks like the rest of a tag, escaped or not. -/
theorem head?_text_escaped (ps : List Piece) :
    (text (ps.map Piece.escaped)).head?.any startsTag = (text ps).head?.any startsTag := by
  cases ps with
  | nil => rfl
  | cons p ps =>
    cases p with
    | plain c => rfl
    | tag n body =>
      cases n <;> rfl

theorem tag?_text_escaped (ps : List Piece) (k : Nat) :
    (tag? ('[' :: (text (ps.map Piece.escaped) ++ List.replicate k '\\'))).isSome
      = (tag? ('[' :: text ps)).isSome := by
  have hhead : (text (ps.map Piece.escaped) ++ List.replicate k '\\').head?.any startsTag
      = (text (ps.map Piece.escaped)).head?.any startsTag := by
    cases text (ps.map Piece.escaped) with
    | nil => cases k <;> rfl
    | cons c cs => rfl
  rw [tag?_isSome, tag?_isSome, hhead, head?_text_escaped, List.find?_append, find?_text_escaped,
    find?_backslashes, Option.or_none]

/-- A character that starts no tag starts none before an escaped text either. -/
theorem tag?_cons_escaped (h : tag? (c :: cs) = none) (k : Nat) :
    tag? (c :: (text ((pieces cs).map Piece.escaped) ++ List.replicate k '\\')) = none := by
  by_cases hopen : c = '['
  · have hsame := tag?_text_escaped (pieces cs) k
    rw [text_pieces, ← hopen, h] at hsame
    simpa using hsame
  · exact tag?_of_ne hopen _

/-- An escaped text is read as the escaped pieces, also if backslashes are added. -/
theorem pieces_escaped (n k : Nat) (cs : List Char) :
    pieces (text ((piecesFrom n cs).map Piece.escaped) ++ List.replicate k '\\')
      = (piecesFrom n cs).map Piece.escaped ++ List.replicate k (.plain '\\') := by
  induction n, cs using piecesFrom.induct with
  | case1 n =>
    have hend : pieces (List.replicate (n + k) '\\') = List.replicate (n + k) (.plain '\\') := by
      have hread := piecesFrom_replicate 0 (n + k) []
      rwa [List.append_nil, Nat.zero_add, piecesFrom] at hread
    rw [piecesFrom, map_escaped_replicate, text_replicate, List.replicate_append_replicate, hend,
      List.replicate_append_replicate]
  | case2 n rest ih => rwa [piecesFrom, if_pos rfl]
  | case3 n c rest hc body after h ih =>
    rw [piecesFrom_tag h, List.map_cons, Piece.escaped, text_cons, Piece.text, List.append_assoc,
      List.append_assoc, pieces, piecesFrom_replicate, piecesFrom_tag (tag?_again h _),
      Nat.zero_add]
    exact congrArg (_ :: ·) ih
  | case4 n c rest hc h ih =>
    rw [piecesFrom_plain hc h, List.map_append, List.map_cons, map_escaped_replicate, text_append,
      text_replicate, text_cons, List.append_assoc, List.append_assoc, pieces,
      piecesFrom_replicate, Nat.zero_add]
    rw [pieces] at ih
    rw [List.append_assoc (List.replicate n (Piece.plain '\\')), List.cons_append, ← ih]
    exact piecesFrom_plain hc (tag?_cons_escaped h k) n

/-! ## Showing what is escaped -/

/-- The text without the backslashes that stand right before a bracket that starts no tag. -/
def withoutLost : List Char → List Char
  | [] => []
  | '\\' :: '[' :: cs =>
    if (tag? ('[' :: cs)).isSome then '\\' :: '[' :: withoutLost cs else '[' :: withoutLost cs
  | c :: cs => c :: withoutLost cs

theorem withoutLost_sublist (cs : List Char) : (withoutLost cs).Sublist cs := by
  fun_induction withoutLost cs with
  | case1 => exact .slnil
  | case2 cs _ ih => exact (ih.cons_cons '[').cons_cons '\\'
  | case3 cs _ ih => exact (ih.cons_cons '[').cons '\\'
  | case4 c cs _ ih => exact ih.cons_cons c

/-- Every bracket right behind a backslash starts a tag. -/
def Tagged (cs : List Char) : Prop :=
  ∀ before after, cs = before ++ '\\' :: '[' :: after → (tag? ('[' :: after)).isSome = true

theorem tagged_cons : Tagged (c :: cs) ↔
    (∀ after, c = '\\' → cs = '[' :: after → (tag? ('[' :: after)).isSome = true) ∧ Tagged cs := by
  constructor
  · intro h
    refine ⟨fun after hc hcs => h [] after (by rw [hc, hcs]; rfl), fun before after hcs => ?_⟩
    exact h (c :: before) after (by rw [hcs]; rfl)
  · rintro ⟨hhead, hrest⟩ before after h
    cases before with
    | nil => exact hhead after (List.cons.inj h).1 (List.cons.inj h).2
    | cons b before => exact hrest before after (List.cons.inj h).2

/-- Nothing is lost, and nothing comes behind, exactly if every bracket right behind a backslash
starts a tag. -/
theorem withoutLost_append_eq_self_iff {added : List Char} :
    withoutLost cs ++ added = cs ↔ Tagged cs ∧ added = [] := by
  fun_induction withoutLost cs with
  | case1 => simp [Tagged]
  | case2 cs hsome ih => simp [tagged_cons, ih, hsome]
  | case3 cs hnone ih => simp [tagged_cons, hnone]
  | case4 c cs hother ih =>
    have hhead : ∀ after, c = '\\' → cs = '[' :: after → (tag? ('[' :: after)).isSome = true :=
      fun after hc hcs => absurd hcs (hother after hc)
    rw [tagged_cons, and_iff_right hhead, ← ih, List.cons_append, List.cons_inj_right]

theorem withoutLost_cons (h : ∀ rest, c = '\\' → cs ≠ '[' :: rest) :
    withoutLost (c :: cs) = c :: withoutLost cs := by
  rw [withoutLost]
  exact fun rest hc hcs => h rest hc hcs

theorem withoutLost_replicate (n : Nat) (hcs : ∀ rest, cs ≠ '[' :: rest) :
    withoutLost (List.replicate n '\\' ++ cs) = List.replicate n '\\' ++ withoutLost cs := by
  induction n with
  | zero => rfl
  | succ n ih =>
    rw [List.replicate_succ, List.cons_append, withoutLost_cons, ih]
    · rfl
    · intro rest _ h
      cases n with
      | zero => exact hcs rest h
      | succ n => simp [List.replicate_succ] at h

theorem withoutLost_lost (n : Nat) (h : tag? ('[' :: cs) = none) :
    withoutLost (List.replicate (n + 1) '\\' ++ '[' :: cs)
      = List.replicate n '\\' ++ '[' :: withoutLost cs := by
  rw [List.replicate_succ', List.append_assoc, withoutLost_replicate n (by simp),
    List.singleton_append, withoutLost, h]
  rfl

theorem withoutLost_append_close {body : List Char} (hbody : '[' ∉ body) (cs : List Char) :
    withoutLost (body ++ ']' :: cs) = body ++ ']' :: withoutLost cs := by
  induction body with
  | nil => exact withoutLost_cons fun _ h => by simp at h
  | cons c body ih =>
    have hcons : ∀ rest, c = '\\' → body ++ ']' :: cs ≠ '[' :: rest := by
      rintro rest - h
      cases body with
      | nil => simp at h
      | cons d body => simp [(List.cons.inj h).1] at hbody
    rw [List.cons_append, withoutLost_cons hcons, ih fun h => hbody (List.mem_cons_of_mem c h)]
    rfl

/-- Nothing is lost of a tag and of the backslashes before it. -/
theorem withoutLost_tag (n : Nat) (h : tag? cs = some (body, after)) :
    withoutLost (List.replicate n '\\' ++ cs)
      = List.replicate n '\\' ++ (tagText body ++ withoutLost after) := by
  have hbody : '[' ∉ body := by
    obtain ⟨c, tail, rfl, hc, htail⟩ := exists_of_tag? h
    intro hmem
    rcases List.mem_cons.1 hmem with rfl | hmem
    · simp [startsTag] at hc
    · exact List.any_eq_false.1 htail '[' hmem rfl
  have hcs : cs = '[' :: (body ++ ']' :: after) := by simp [eq_of_tag? h, tagText]
  have htag : tagText body ++ withoutLost after = '[' :: withoutLost (body ++ ']' :: after) := by
    simp [withoutLost_append_close hbody, tagText]
  rw [htag]
  cases n with
  | zero => exact hcs ▸ withoutLost_cons fun _ h => by simp at h
  | succ n =>
    rw [hcs] at h
    rw [hcs, List.replicate_succ', List.append_assoc, withoutLost_replicate n (by simp),
      List.singleton_append, withoutLost, h, Option.isSome_some, if_pos rfl]
    simp

theorem shown_plain (hc : c ≠ '\\') (ps : List Piece) :
    shown (.plain c :: ps) = c :: shown ps := by
  rw [shown]
  exact fun rest _ h => absurd h hc

theorem shown_replicate (n : Nat) (hps : ∀ rest, ps ≠ .plain '[' :: rest) :
    shown (List.replicate n (.plain '\\') ++ ps) = List.replicate n '\\' ++ shown ps := by
  induction n with
  | zero => rfl
  | succ n ih =>
    rw [List.replicate_succ, List.cons_append, shown, ih]
    · rfl
    · intro rest h _
      cases n with
      | zero => exact hps rest h
      | succ n => simp [List.replicate_succ] at h

theorem shown_lost (n : Nat) (ps : List Piece) :
    shown (List.replicate (n + 1) (.plain '\\') ++ .plain '[' :: ps)
      = List.replicate n '\\' ++ '[' :: shown ps := by
  rw [List.replicate_succ', List.append_assoc, shown_replicate n (by simp)]
  rfl

/-- Escaped pieces show their text, up to the backslashes that are lost. -/
theorem shown_escaped (n k : Nat) (cs : List Char) :
    shown ((piecesFrom n cs).map Piece.escaped ++ List.replicate k (.plain '\\'))
      = withoutLost (List.replicate n '\\' ++ cs) ++ List.replicate k '\\' := by
  have hbackslashes (n : Nat) :
      shown (List.replicate n (.plain '\\')) = List.replicate n '\\' := by
    have h := @shown_replicate [] n (by simp)
    rwa [List.append_nil, shown, List.append_nil] at h
  induction n, cs using piecesFrom.induct with
  | case1 n =>
    have hkept := @withoutLost_replicate [] n (by simp)
    rw [piecesFrom, map_escaped_replicate, List.replicate_append_replicate, hbackslashes, hkept,
      withoutLost, List.append_nil, List.replicate_append_replicate]
  | case2 n rest ih =>
    rw [piecesFrom, if_pos rfl, ih, List.replicate_succ', List.append_assoc]
    rfl
  | case3 n c rest hc body after h ih =>
    have hhalf : (2 * n + 1) / 2 = n := by omega
    have hodd : (2 * n + 1) % 2 = 1 := by omega
    rw [piecesFrom_tag h, List.map_cons, Piece.escaped, List.cons_append, shown, hhalf, if_pos hodd,
      ih, withoutLost_tag n h]
    simp
  | case4 n c rest hc h ih =>
    rw [piecesFrom_plain hc h, List.map_append, map_escaped_replicate, List.map_cons,
      List.append_assoc, List.cons_append]
    rw [List.replicate_zero, List.nil_append] at ih
    have hshown := shown_plain hc ((piecesFrom 0 rest).map Piece.escaped
      ++ List.replicate k (.plain '\\'))
    have hkept : withoutLost (c :: rest) = c :: withoutLost rest :=
      withoutLost_cons fun _ h => absurd h hc
    rw [ih] at hshown
    by_cases hopen : c = '['
    · subst hopen
      cases n with
      | zero => exact hshown.trans (by rw [List.replicate_zero, List.nil_append, hkept]; rfl)
      | succ n =>
        refine (shown_lost n _).trans ?_
        rw [ih, withoutLost_lost n h, List.append_assoc]
        rfl
    · refine (shown_replicate n fun _ h => hopen (Piece.plain.inj (List.cons.inj h).1)).trans ?_
      rw [withoutLost_replicate n fun _ h => hopen (List.cons.inj h).1, hkept, List.append_assoc]
      exact congrArg (_ ++ ·) hshown

/-! ## The end of a text -/

theorem endsInOneBackslash_append (cs : List Char) (c : Char) :
    endsInOneBackslash (cs ++ [c]) = (c == '\\' && cs.getLast? != some '\\') := by
  rw [List.getLast?_eq_head?_reverse, endsInOneBackslash, List.reverse_append]
  cases cs.reverse with
  | nil => by_cases hc : c = '\\' <;> simp [hc]
  | cons d ds => by_cases hc : c = '\\' <;> by_cases hd : d = '\\' <;> simp [hc, hd]

/-- A tag ends in a bracket, escaped or not. -/
theorem exists_text_tag (n : Nat) (body : List Char) :
    ∃ cs, (Piece.tag n body).text = cs ++ [']'] :=
  ⟨List.replicate n '\\' ++ '[' :: body, by simp [Piece.text, tagText]⟩

theorem getLast?_text_escaped (ps : List Piece) :
    (text (ps.map Piece.escaped)).getLast? = (text ps).getLast? := by
  induction ps using List.reverseRecOn with
  | nil => rfl
  | append_singleton ps p ih =>
    rw [List.map_append, text_append, text_append]
    cases p with
    | plain c => simp [Piece.escaped, Piece.text, text]
    | tag n body =>
      obtain ⟨cs, hcs⟩ := exists_text_tag n body
      obtain ⟨ds, hds⟩ := exists_text_tag (2 * n + 1) body
      simp [Piece.escaped, text, hcs, hds]

/-- Whether a text ends in a single backslash is not changed by escaping its tags. -/
theorem endsInOneBackslash_escaped (ps : List Piece) :
    endsInOneBackslash (text (ps.map Piece.escaped)) = endsInOneBackslash (text ps) := by
  cases ps using List.reverseRecOn with
  | nil => rfl
  | append_singleton ps p =>
    rw [List.map_append, text_append, text_append]
    cases p with
    | plain c =>
      have hlast (cs : List Char) : cs ++ text [.plain c] = cs ++ [c] := rfl
      rw [List.map_singleton, Piece.escaped, hlast, hlast, endsInOneBackslash_append,
        endsInOneBackslash_append, getLast?_text_escaped]
    | tag n body =>
      obtain ⟨cs, hcs⟩ := exists_text_tag n body
      obtain ⟨ds, hds⟩ := exists_text_tag (2 * n + 1) body
      have htext (p : Piece) : text [p] = p.text := List.append_nil p.text
      rw [List.map_singleton, Piece.escaped, htext, htext, hcs, hds, ← List.append_assoc,
        ← List.append_assoc, endsInOneBackslash_append, endsInOneBackslash_append]
      rfl

/-- What is added to a text that ends in a single backslash. -/
def doubled (cs : List Char) : List Char := if endsInOneBackslash cs then ['\\'] else []

theorem eq_of_mem_doubled (h : c ∈ doubled cs) : c = '\\' := by
  unfold doubled at h
  split at h
  next => exact List.mem_singleton.1 h
  next => simp at h

theorem doubled_eq_nil_iff : doubled cs = [] ↔ endsInOneBackslash cs = false := by
  simp [doubled]

theorem escape_eq (cs : List Char) :
    escape cs = text ((pieces cs).map Piece.escaped) ++ doubled cs := by
  have hend : endsInOneBackslash (text ((pieces cs).map Piece.escaped))
      = endsInOneBackslash cs := by
    rw [endsInOneBackslash_escaped, text_pieces]
  rw [escape, hend, doubled]
  split
  next => rfl
  next => rw [List.append_nil]

/-- An escaped text shows the text without the backslashes that are lost, and with the one that is
added. -/
theorem render_escape (cs : List Char) : render (escape cs) = withoutLost cs ++ doubled cs := by
  obtain ⟨k, hk⟩ : ∃ k, doubled cs = List.replicate k '\\' := by
    unfold doubled
    split
    next => exact ⟨1, rfl⟩
    next => exact ⟨0, rfl⟩
  have hread := pieces_escaped 0 k cs
  have hshown := shown_escaped 0 k cs
  rw [escape_eq, hk]
  exact (congrArg shown hread).trans hshown

end Text.Markup

/-! ## Marks -/

namespace Mark

def symbol : Mark → Char
  | success => '✓'
  | error => '✗'
  | warning => '⚠'

/-- The name of the colour of a mark. -/
def colour : Mark → String
  | success => "green"
  | error => "red"
  | warning => "yellow"

open Text.Markup

theorem markup_eq (m : Mark) :
    m.markup.toList
      = tagText m.colour.toList ++ m.symbol :: tagText ('/' :: m.colour.toList) := by
  cases m <;> rfl

theorem tag?_colour (m : Mark) (cs : List Char) :
    tag? (tagText m.colour.toList ++ cs) = some (m.colour.toList, cs) := by
  cases m <;> exact tag?_tagText (by decide) (by decide) cs

theorem tag?_colour_end (m : Mark) (cs : List Char) :
    tag? (tagText ('/' :: m.colour.toList) ++ cs) = some ('/' :: m.colour.toList, cs) := by
  cases m <;> exact tag?_tagText (by decide) (by decide) cs

/-- A mark is a symbol between two tags that show nothing. -/
theorem render_markup (m : Mark) (cs : List Char) :
    render (m.markup.toList ++ cs) = m.symbol :: render cs := by
  have hsymbol : m.symbol ≠ '\\' ∧ m.symbol ≠ '[' := by cases m <;> decide
  rw [render, pieces, markup_eq, List.append_assoc, List.cons_append,
    piecesFrom_tag (tag?_colour m _), piecesFrom_plain hsymbol.1 (tag?_of_ne hsymbol.2 _),
    piecesFrom_tag (tag?_colour_end m cs)]
  simp [shown, shown_plain hsymbol.1, render, pieces]

end Mark

namespace Console

open Text.Markup (withoutLost doubled Tagged endsInOneBackslash escape render)

/-- A mark, a blank, a text and a newline. -/
def markedLine (m : Mark) (cs : List Char) : String :=
  String.ofList (m.symbol :: ' ' :: cs ++ ['\n'])

theorem markedLine_inj {m : Mark} {cs ds : List Char} :
    markedLine m cs = markedLine m ds ↔ cs = ds := by
  rw [markedLine, markedLine, String.ofList_inj, List.append_cancel_right_eq, List.cons_inj_right,
    List.cons_inj_right]

theorem write_inj {c : Console} {channel : Channel} {s t : String} :
    c.write s channel = c.write t channel ↔ s = t := by
  cases channel <;> simp [write]

/-- A message shows its mark, a blank and its text, up to the backslashes that are lost and the one
that is doubled. -/
theorem render_marked (m : Mark) (cs : List Char) :
    render (m.markup.toList ++ ' ' :: escape cs)
      = m.symbol :: ' ' :: (withoutLost cs ++ doubled cs) := by
  have hblank : render (' ' :: escape cs) = ' ' :: render (escape cs) := by
    rw [render, Text.Markup.pieces,
      Text.Markup.piecesFrom_plain (by decide) (Text.Markup.tag?_of_ne (by decide) _)]
    exact Text.Markup.shown_plain (by decide) _
  rw [Mark.render_markup, hblank, Text.Markup.render_escape]

/-- All that a message of plain characters shows is plain. -/
theorem isPlain_of_mem_marked (m : Mark) {cs : List Char} (h : ∀ c ∈ cs, isPlain c = true) :
    ∀ c ∈ m.symbol :: ' ' :: (withoutLost cs ++ doubled cs), isPlain c = true := by
  have hsymbol : isPlain m.symbol = true := by cases m <;> decide
  have hblank : isPlain ' ' = true := by decide
  have hbackslash : isPlain '\\' = true := by decide
  intro c hc
  rcases List.mem_cons.1 hc with rfl | hc
  · exact hsymbol
  rcases List.mem_cons.1 hc with rfl | hc
  · exact hblank
  rcases List.mem_append.1 hc with hc | hc
  · exact h c ((Text.Markup.withoutLost_sublist cs).mem hc)
  · exact Text.Markup.eq_of_mem_doubled hc ▸ hbackslash

/-- A message without tabs and hidden characters is printed behind its mark and a blank, with a
newline behind it. It has no tags of its own, whatever it holds. It loses the backslashes that stand
right before a bracket that starts no tag, and a single backslash at its end is doubled; so it is
printed as it is exactly if neither happens. -/
theorem print_marked (c : Console) (m : Mark) {text : String}
    (h : ∀ x ∈ text.toList, x ≠ '\t' ∧ x ∉ hidden) :
    c.print (.marked m text)
        = c.write (markedLine m (withoutLost text.toList ++ doubled text.toList)) m.channel
      ∧ (c.print (.marked m text) = c.write (markedLine m text.toList) m.channel
        ↔ Tagged text.toList ∧ endsInOneBackslash text.toList = false) := by
  have hplain := isPlain_of_mem_marked m fun x hx => isPlain_iff.2 (h x hx)
  have hwritten : (Message.marked m text).written
      = markedLine m (withoutLost text.toList ++ doubled text.toList) := by
    rw [Message.written, Message.shown, render_marked, display_eq_self_iff.2 hplain]
    rfl
  have hprint : c.print (.marked m text)
      = c.write (markedLine m (withoutLost text.toList ++ doubled text.toList)) m.channel :=
    congrArg (c.write · m.channel) hwritten
  refine ⟨hprint, ?_⟩
  rw [hprint, write_inj, markedLine_inj, Text.Markup.withoutLost_append_eq_self_iff,
    Text.Markup.doubled_eq_nil_iff]

/-- Tags and brackets are printed as they are, with any number of backslashes before a tag. -/
theorem tagged_message_printed :
    let text := "[bold] \\[red] [1] \\\\[/] [link=x]"
    (∀ x ∈ text.toList, x ≠ '\t' ∧ x ∉ hidden)
      ∧ ({} : Console).print (.marked .error text) = { err := "✗ " ++ text ++ "\n" } := by
  intro text
  have hall : text.toList.all isPlain = true := by decide +kernel
  have hplain : ∀ x ∈ text.toList, x ≠ '\t' ∧ x ∉ hidden := fun x hx =>
    isPlain_iff.1 (List.all_eq_true.1 hall x hx)
  have htagged : Tagged text.toList ∧ [] = [] :=
    Text.Markup.withoutLost_append_eq_self_iff.1 (by decide +kernel)
  have hend : endsInOneBackslash text.toList = false := by decide +kernel
  have hline : markedLine .error text.toList = "✗ " ++ text ++ "\n" := by decide +kernel
  have hprint := (print_marked {} .error hplain).2.2 ⟨htagged.1, hend⟩
  rw [hline] at hprint
  exact ⟨hplain, hprint⟩

/-- A bracket that starts no tag loses the backslash right before it. -/
theorem literal_bracket_loses_backslash :
    endsInOneBackslash "\\[1]".toList = false
      ∧ ({} : Console).print (.marked .success "\\[1]") = { out := "✓ [1]\n" }
      ∧ ({} : Console).print (.marked .success "\\[1]") ≠ { out := "✓ \\[1]\n" } := by
  decide +kernel

end Console

end ContractBuild
