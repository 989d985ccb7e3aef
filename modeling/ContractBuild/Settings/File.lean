import ContractBuild.Text.Blank

/-!
# Settings files

A settings file binds names to values, one `name = value` a line. A name may follow the word
`export` and may stand between single quotes. A value is the rest of its line up to a comment, or
stands between quotes, where it may go on over several lines and hold escapes. A name without a
value is bound to nothing. A line that does not fit is left out, and can be told by its number.

`statements` reads a file. `length_readStatement_lt` is why it ends: reading a statement always
consumes something.
-/

namespace ContractBuild.Settings.File

/-- A name and the value that it is bound to, if any. -/
structure Binding where
  name : String
  value : Option String
  deriving DecidableEq, Repr

/-- What a file states, one statement after another. -/
inductive Statement where
  | binding (b : Binding)
  | comment
  /-- A statement that does not fit the grammar. -/
  | unreadable
  deriving DecidableEq, Repr

/-- What was read, and the text that is left. -/
abbrev Read (α : Type) := α × List Char

/-- Ends every line in a newline alone: a carriage return, with or without a newline behind it, ends
a line too. -/
def normalizeLines : List Char → List Char
  | [] => []
  | '\r' :: '\n' :: rest => '\n' :: normalizeLines rest
  | c :: rest => (if c = '\r' then '\n' else c) :: normalizeLines rest

/-- Whether a line goes on with `c`. -/
def inLine (c : Char) : Bool := c ≠ '\n'

/-- Blanks within a line. -/
def isGap (c : Char) : Bool := Text.isBlank c && inLine c

def skipGap (cs : List Char) : List Char := cs.dropWhile isGap

/-- Drops the rest of a line. -/
def skipLine (cs : List Char) : List Char := (cs.dropWhile inLine).tail

/-- Drops the word `export` if blanks follow it. -/
def skipExport : List Char → List Char
  | 'e' :: 'x' :: 'p' :: 'o' :: 'r' :: 't' :: c :: rest =>
    if isGap c then skipGap rest else 'e' :: 'x' :: 'p' :: 'o' :: 'r' :: 't' :: c :: rest
  | cs => cs

/-- Whether `c` may occur in a name without quotes. -/
def isNameChar (c : Char) : Bool := c ≠ '=' && c ≠ '#' && !Text.isBlank c

/-- Reads a name. -/
def readName : List Char → Option (Read (List Char))
  | '\'' :: cs =>
    match cs.takeWhile (· ≠ '\''), cs.dropWhile (· ≠ '\'') with
    | c :: name, _ :: rest => some (c :: name, rest)
    | _, _ => none
  | cs =>
    match cs.takeWhile isNameChar with
    | [] => none
    | name => some (name, cs.dropWhile isNameChar)

/-- Reads up to the closing quote. A character after a backslash does not close, whatever it is. -/
def readQuoted (quote : Char) : List Char → Option (Read (List Char))
  | [] => none
  | '\\' :: c :: rest => (readQuoted quote rest).map fun (value, rest) => ('\\' :: c :: value, rest)
  | c :: rest =>
    if c = quote then some ([], rest)
    else (readQuoted quote rest).map fun (value, rest) => (c :: value, rest)

/-- Replaces escapes by the characters that they stand for. -/
def unescape (escapes : List (Char × Char)) : List Char → List Char
  | [] => []
  | '\\' :: c :: rest =>
    match escapes.lookup c with
    | some d => d :: unescape escapes rest
    | none => '\\' :: unescape escapes (c :: rest)
  | c :: rest => c :: unescape escapes rest

/-- The escapes between single quotes. -/
def singleEscapes : List (Char × Char) := [('\\', '\\'), ('\'', '\'')]

/-- The escapes between double quotes. -/
def doubleEscapes : List (Char × Char) :=
  [('\\', '\\'), ('\'', '\''), ('"', '"'), ('a', '\x07'), ('b', '\x08'), ('f', '\x0c'), ('n', '\n'),
    ('r', '\r'), ('t', '\t'), ('v', '\x0b')]

/-- Drops a comment, which starts at blanks before a `#`. -/
def dropComment : List Char → List Char
  | [] => []
  | c :: rest =>
    if Text.isBlank c && (rest.dropWhile Text.isBlank).head? = some '#' then []
    else c :: dropComment rest

/-- Reads a value and the blanks before it. Of a value without quotes these blanks are the first
that may start a comment. -/
def readValue (cs : List Char) : Option (Read (List Char)) :=
  match skipGap cs with
  | '\'' :: rest => (readQuoted '\'' rest).map fun (v, rest) => (unescape singleEscapes v, rest)
  | '"' :: rest => (readQuoted '"' rest).map fun (v, rest) => (unescape doubleEscapes v, rest)
  | _ =>
    some (Text.trim Text.isBlank (dropComment (cs.takeWhile inLine)), cs.dropWhile inLine)

/-- Drops blanks and a comment up to the end of a line, and the end itself. -/
def endLine (cs : List Char) : Option (List Char) :=
  match skipGap cs with
  | [] => some []
  | c :: rest =>
    if c = '#' then some (skipLine rest) else if c = '\n' then some rest else none

/-- Reads a value if an equals sign announces one. The error is the text where reading failed. -/
def readAssigned (cs : List Char) : Except (List Char) (Read (Option (List Char))) :=
  match skipGap cs with
  | '=' :: rest =>
    match readValue rest with
    | some (value, rest) => .ok (some value, rest)
    | none => .error rest
  | rest => .ok (none, rest)

/-- Reads one statement. One that does not fit ends with the line in which it was given up. -/
def readStatement (cs : List Char) : Read Statement :=
  match skipExport cs with
  | '#' :: rest => (.comment, skipLine rest)
  | cs =>
    match readName cs with
    | none => (.unreadable, skipLine cs)
    | some (name, rest) =>
      match readAssigned rest with
      | .error rest => (.unreadable, skipLine rest)
      | .ok (value, rest) =>
        match endLine rest with
        | some rest => (.binding ⟨String.ofList name, value.map String.ofList⟩, rest)
        | none => (.unreadable, skipLine rest)

/-! ## Progress -/

theorem length_skipGap_le (cs : List Char) : (skipGap cs).length ≤ cs.length :=
  (List.dropWhile_sublist _).length_le

theorem length_skipLine_le (cs : List Char) : (skipLine cs).length ≤ cs.length := by
  have := (List.dropWhile_sublist inLine (l := cs)).length_le
  simp only [skipLine, List.length_tail]
  omega

theorem length_skipLine_lt {cs : List Char} (h : cs ≠ []) : (skipLine cs).length < cs.length := by
  cases cs with
  | nil => exact absurd rfl h
  | cons c cs =>
    have := (List.dropWhile_sublist inLine (l := cs)).length_le
    cases hc : inLine c
    · simp [skipLine, hc]
    · simp only [skipLine, List.dropWhile_cons, hc, if_true, List.length_tail, List.length_cons]
      omega

theorem length_skipExport_le (cs : List Char) : (skipExport cs).length ≤ cs.length := by
  unfold skipExport
  split
  · next c rest =>
    split
    · have := length_skipGap_le rest
      simp only [List.length_cons]
      omega
    · exact Nat.le_refl _
  · exact Nat.le_refl _

theorem length_readName_lt {cs name rest : List Char} (h : readName cs = some (name, rest)) :
    rest.length < cs.length := by
  unfold readName at h
  split at h
  · next cs =>
    split at h
    · next c name' d rest' _ hd =>
      have := (List.dropWhile_sublist (· ≠ '\'') (l := cs)).length_le
      rw [hd] at this
      simp_all
      omega
    · simp at h
  · split at h
    · simp at h
    · next hne =>
      have hlen := congrArg List.length
        (List.takeWhile_append_dropWhile (p := isNameChar) (l := cs))
      have := List.length_pos_iff.2 hne
      simp only [List.length_append] at hlen
      simp_all
      omega

theorem length_readQuoted_lt {quote : Char} {cs value rest : List Char}
    (h : readQuoted quote cs = some (value, rest)) : rest.length < cs.length := by
  fun_induction readQuoted quote cs generalizing value rest with
  | case1 => simp at h
  | case2 _ _ ih =>
    obtain ⟨⟨v, r⟩, hr, h⟩ := Option.map_eq_some_iff.1 h
    have := ih hr
    grind
  | case3 => grind
  | case4 _ _ _ _ ih =>
    obtain ⟨⟨v, r⟩, hr, h⟩ := Option.map_eq_some_iff.1 h
    have := ih hr
    grind

theorem length_readValue_le {cs value rest : List Char} (h : readValue cs = some (value, rest)) :
    rest.length ≤ cs.length := by
  have hc := length_skipGap_le cs
  unfold readValue at h
  split at h
  · obtain ⟨⟨v, r⟩, hr, h⟩ := Option.map_eq_some_iff.1 h
    have := length_readQuoted_lt hr
    grind
  · obtain ⟨⟨v, r⟩, hr, h⟩ := Option.map_eq_some_iff.1 h
    have := length_readQuoted_lt hr
    grind
  · have := (List.dropWhile_sublist inLine (l := cs)).length_le
    grind

theorem length_readAssigned_le {cs rest : List Char} {value : Option (List Char)}
    (h : readAssigned cs = .ok (value, rest)) : rest.length ≤ cs.length := by
  have hc := length_skipGap_le cs
  unfold readAssigned at h
  split at h
  · next r hr =>
    split at h
    · next v r' hv =>
      have := length_readValue_le hv
      grind
    · simp at h
  · grind

theorem length_error_readAssigned_le {cs rest : List Char}
    (h : readAssigned cs = .error rest) : rest.length ≤ cs.length := by
  have hc := length_skipGap_le cs
  unfold readAssigned at h
  split at h
  · next r hr => split at h <;> grind
  · simp at h

theorem length_endLine_le {cs rest : List Char} (h : endLine cs = some rest) :
    rest.length ≤ cs.length := by
  have hc := length_skipGap_le cs
  unfold endLine at h
  split at h
  · grind
  · next c r hr =>
    have := length_skipLine_le r
    grind

/-- Reading a statement consumes something. -/
theorem length_readStatement_lt {cs : List Char} (h : cs ≠ []) :
    (readStatement cs).2.length < cs.length := by
  have he := length_skipExport_le cs
  have hpos := List.length_pos_iff.2 h
  unfold readStatement
  split
  · next rest hr =>
    have := length_skipLine_le rest
    grind
  · next hs =>
    split
    · by_cases hnil : skipExport cs = []
      · simp [hnil, skipLine, hpos]
      · have := length_skipLine_lt hnil
        grind
    · next name rest hn =>
      have h1 := length_readName_lt hn
      split
      · next r hr =>
        have h2 := length_error_readAssigned_le hr
        have h3 := length_skipLine_le r
        simp only
        omega
      · next value r hr =>
        have h2 := length_readAssigned_le hr
        split
        · next r' hr' =>
          have h3 := length_endLine_le hr'
          simp only
          omega
        · have h3 := length_skipLine_le r
          simp only
          omega

/-- The statements of a text whose lines end in newlines alone, each with the number of the line
behind the statement before it. The first line has the number `line`. -/
def statements (line : Nat) (cs : List Char) : List (Nat × Statement) :=
  if _h : cs.dropWhile Text.isBlank = [] then []
  else
    let found := readStatement (cs.dropWhile Text.isBlank)
    (line, found.1) :: statements (line + cs.count '\n' - found.2.count '\n') found.2
  termination_by cs.length
  decreasing_by
    have h1 := length_readStatement_lt _h
    have h2 := (List.dropWhile_sublist Text.isBlank (l := cs)).length_le
    omega

/-- The mark that may stand at the very beginning of a file. -/
def byteOrderMark : Char := '\ufeff'

/-- The statements of a settings file. -/
def read (text : String) : List (Nat × Statement) :=
  let cs := match text.toList with
    | c :: cs => if c = byteOrderMark then cs else c :: cs
    | [] => []
  statements 1 (normalizeLines cs)

/-- The binding that a statement makes. -/
def Statement.binding? : Statement → Option Binding
  | binding b => some b
  | comment | unreadable => none

/-- The bindings of a settings file. -/
def bindings (text : String) : List Binding := (read text).filterMap (·.2.binding?)

/-- How an unreadable statement is told. -/
def warning (line : Nat) : String :=
  "python-dotenv could not parse statement starting at line " ++ toString line

/-- The lines of a settings file from which on something does not fit. -/
def unreadableLines (text : String) : List Nat :=
  ((read text).filter (·.2 = .unreadable)).map (·.1)

end ContractBuild.Settings.File
