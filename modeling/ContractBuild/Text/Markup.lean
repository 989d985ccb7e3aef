/-!
# Markup

A text with tags between brackets. A tag starts with `[` and a lower-case letter or one of `#`, `/`
and `@`, holds no further `[`, and ends at the nearest `]`. Of the backslashes right before a tag
each pair stands for one backslash, and an odd one makes the tag a literal text. Elsewhere a
backslash is literal, except that a backslash before a bracket that starts no tag is dropped.

`escape` turns a message into markup, `render` gives what markup shows without its styles.
-/

namespace ContractBuild.Text.Markup

/-- A part of a text with markup. -/
inductive Piece where
  | plain (c : Char)
  /-- A tag with the number of backslashes before it. -/
  | tag (backslashes : Nat) (body : List Char)
  deriving DecidableEq, Repr

/-- Whether a tag may start with `c` after its bracket. -/
def startsTag (c : Char) : Bool :=
  ('a' ≤ c && c ≤ 'z') || c = '#' || c = '/' || c = '@'

/-- Whether `c` is a bracket. -/
def isBracket (c : Char) : Bool := c = '[' || c = ']'

/-- The body of the tag with which a text starts, and the text after the tag. -/
def tag? : List Char → Option (List Char × List Char)
  | '[' :: c :: cs =>
    if startsTag c then
      match cs.dropWhile (!isBracket ·) with
      | ']' :: rest => some (c :: cs.takeWhile (!isBracket ·), rest)
      | _ => none
    else none
  | _ => none

/-- The text of a tag. -/
def tagText (body : List Char) : List Char := '[' :: body ++ [']']

theorem eq_of_tag? {cs body rest : List Char} (h : tag? cs = some (body, rest)) :
    cs = tagText body ++ rest := by
  unfold tag? at h
  split at h
  · next c cs =>
    split at h
    · split at h
      · next r hr =>
        obtain ⟨rfl, rfl⟩ := Prod.mk.inj (Option.some.inj h)
        have := List.takeWhile_append_dropWhile (p := (!isBracket ·)) (l := cs)
        rw [hr] at this
        simp only [tagText, List.cons_append, List.append_assoc, List.nil_append, this]
      · simp at h
    · simp at h
  · simp at h

theorem length_of_tag? {cs body rest : List Char} (h : tag? cs = some (body, rest)) :
    rest.length < cs.length := by
  rw [eq_of_tag? h]
  simp [tagText]
  omega

/-- The pieces of a text that follows `backslashes` backslashes. -/
def piecesFrom (backslashes : Nat) (cs : List Char) : List Piece :=
  match cs with
  | [] => List.replicate backslashes (.plain '\\')
  | c :: rest =>
    if c = '\\' then piecesFrom (backslashes + 1) rest
    else
      match _h : tag? (c :: rest) with
      | some (body, rest) => .tag backslashes body :: piecesFrom 0 rest
      | none => List.replicate backslashes (.plain '\\') ++ .plain c :: piecesFrom 0 rest
  termination_by cs.length
  decreasing_by
    · simp
    · exact length_of_tag? _h
    · simp

/-- The pieces of a text. -/
def pieces (cs : List Char) : List Piece := piecesFrom 0 cs

/-- The text of one piece. -/
def Piece.text : Piece → List Char
  | plain c => [c]
  | tag n body => List.replicate n '\\' ++ tagText body

/-- The text that pieces are taken from. -/
def text (ps : List Piece) : List Char := ps.flatMap Piece.text

/-- What pieces show: tags that are not escaped show nothing. -/
def shown : List Piece → List Char
  | [] => []
  | .plain '\\' :: .plain '[' :: rest => '[' :: shown rest
  | .plain c :: rest => c :: shown rest
  | .tag n body :: rest =>
    List.replicate (n / 2) '\\' ++ (if n % 2 = 1 then tagText body else []) ++ shown rest

/-- What markup shows without its styles. -/
def render (cs : List Char) : List Char := shown (pieces cs)

/-- One piece with its tag made literal. -/
def Piece.escaped : Piece → Piece
  | plain c => .plain c
  | tag n body => .tag (2 * n + 1) body

/-- Whether a text ends in exactly one backslash. -/
def endsInOneBackslash (cs : List Char) : Bool :=
  match cs.reverse with
  | '\\' :: '\\' :: _ => false
  | '\\' :: _ => true
  | _ => false

/-- Markup that shows a message: its tags are made literal, and a single backslash at its end is
doubled, lest it escape a tag that follows. -/
def escape (cs : List Char) : List Char :=
  let e := text ((pieces cs).map Piece.escaped)
  if endsInOneBackslash e then e ++ ['\\'] else e

/-! ## Reading -/

variable {c : Char} {cs body after : List Char}

@[simp] theorem text_cons (p : Piece) (ps : List Piece) : text (p :: ps) = p.text ++ text ps := rfl

@[simp] theorem text_append (ps qs : List Piece) : text (ps ++ qs) = text ps ++ text qs :=
  List.flatMap_append

theorem text_replicate (n : Nat) :
    text (List.replicate n (.plain '\\')) = List.replicate n '\\' := by
  induction n with
  | zero => rfl
  | succ n ih => rw [List.replicate_succ, text_cons, ih]; rfl

theorem tag?_of_ne (hc : c ≠ '[') (cs : List Char) : tag? (c :: cs) = none := by
  unfold tag?
  split
  next h => exact absurd (List.cons.inj h).1 hc
  next => rfl

theorem piecesFrom_tag (h : tag? cs = some (body, after)) (n : Nat) :
    piecesFrom n cs = .tag n body :: piecesFrom 0 after := by
  cases cs with
  | nil => simp [tag?] at h
  | cons c cs =>
    have hc : c ≠ '\\' := by
      rintro rfl
      simp [tag?_of_ne] at h
    rw [piecesFrom, if_neg hc]
    split
    next h' =>
      obtain ⟨rfl, rfl⟩ := Prod.mk.inj (Option.some.inj (h'.symm.trans h))
      rfl
    next h' => simp [h'] at h

theorem piecesFrom_plain (hc : c ≠ '\\') (h : tag? (c :: cs) = none) (n : Nat) :
    piecesFrom n (c :: cs) = List.replicate n (.plain '\\') ++ .plain c :: piecesFrom 0 cs := by
  rw [piecesFrom, if_neg hc]
  split
  next h' => simp [h] at h'
  next => rfl

/-- The pieces of a text make up the text. -/
theorem text_piecesFrom (n : Nat) (cs : List Char) :
    text (piecesFrom n cs) = List.replicate n '\\' ++ cs := by
  induction n, cs using piecesFrom.induct with
  | case1 n => rw [piecesFrom, text_replicate, List.append_nil]
  | case2 n rest ih =>
    rw [piecesFrom, if_pos rfl, ih, List.replicate_succ', List.append_assoc]
    rfl
  | case3 n c rest hc body after h ih =>
    rw [piecesFrom_tag h, text_cons, ih, eq_of_tag? h, Piece.text, List.append_assoc]
    rfl
  | case4 n c rest hc h ih =>
    rw [piecesFrom_plain hc h, text_append, text_replicate, text_cons, ih]
    rfl

theorem text_pieces (cs : List Char) : text (pieces cs) = cs := by
  simpa [pieces] using text_piecesFrom 0 cs

end ContractBuild.Text.Markup
