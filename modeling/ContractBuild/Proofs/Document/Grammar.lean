import ContractBuild.Proofs.Document.Parts
import ContractBuild.Proofs.Document.Tokens
import Mathlib.Tactic.Choose

/-!
# The JSON grammar

Which texts are JSON, said without any reader: `Conforms` follows the grammar rule by rule, with
white space wherever it allows some, escapes of every kind and numbers in every form.

What is written belongs to it part by part: whole numbers, decimals in every style, texts with their
escapes and keys (`number_int`, `number_write`, `quoted_string`, `quoted_key`). A document does if
none of the numbers that are values in it is written as a word (`value_write`).
-/

namespace ContractBuild.Document

namespace Grammar

/-! ## Rules -/

/-- White space, or nothing. -/
def Gap (cs : List Char) : Prop := ∀ c ∈ cs, c = ' ' ∨ c = '\t' ∨ c = '\n' ∨ c = '\r'

/-- A sign between values, with white space on either side. -/
def Mark (sign : Char) (cs : List Char) : Prop :=
  ∃ before after, Gap before ∧ Gap after ∧ cs = before ++ sign :: after

/-- One digit or more. -/
def Digits (cs : List Char) : Prop := cs ≠ [] ∧ ∀ c ∈ cs, c.isDigit = true

/-- The digits in front of a point: zero alone, or digits without a zero in front. -/
def Whole (cs : List Char) : Prop := cs = ['0'] ∨ Digits cs ∧ cs.head? ≠ some '0'

/-- A point and digits. -/
def Fraction (cs : List Char) : Prop := ∃ ds, Digits ds ∧ cs = '.' :: ds

/-- The letter of an exponent, a sign that may be left out, and digits. -/
def Exponent (cs : List Char) : Prop :=
  ∃ letter sign ds, (letter = 'e' ∨ letter = 'E') ∧ (sign = [] ∨ sign = ['+'] ∨ sign = ['-'])
    ∧ Digits ds ∧ cs = letter :: (sign ++ ds)

/-- Only the whole part of a number has to be there. -/
def Number (cs : List Char) : Prop :=
  ∃ sign whole fraction exponent, (sign = [] ∨ sign = ['-']) ∧ Whole whole
    ∧ (fraction = [] ∨ Fraction fraction) ∧ (exponent = [] ∨ Exponent exponent)
    ∧ cs = sign ++ whole ++ fraction ++ exponent

/-- A hexadecimal digit of either case. -/
def IsHex (c : Char) : Prop := c.isDigit = true ∨ 'a' ≤ c ∧ c ≤ 'f' ∨ 'A' ≤ c ∧ c ≤ 'F'

/-- What stands for one character between quotes, or for one half of a pair of surrogates. -/
inductive Letter : List Char → Prop
  | plain {c : Char} (hcontrol : 0x20 ≤ c.toNat) (hquote : c ≠ '"') (hbackslash : c ≠ '\\') :
    Letter [c]
  | short {c : Char} (h : c ∈ ['"', '\\', '/', 'b', 'f', 'n', 'r', 't']) : Letter ['\\', c]
  | code {digits : List Char} (hcount : digits.length = 4) (hdigits : ∀ c ∈ digits, IsHex c) :
    Letter ('\\' :: 'u' :: digits)

/-- Letters between quotes. -/
def Quoted (cs : List Char) : Prop :=
  ∃ letters : List (List Char), (∀ l ∈ letters, Letter l) ∧ cs = '"' :: letters.flatten ++ ['"']

/-- Texts with commas between them. -/
inductive Separated : List (List Char) → List Char → Prop
  | none : Separated [] []
  | single (cs : List Char) : Separated [cs] cs
  | more {cs comma next rest : List Char} {texts : List (List Char)} (hcomma : Mark ',' comma)
    (hrest : Separated (next :: texts) rest) : Separated (cs :: next :: texts) (cs ++ comma ++ rest)

/-- Texts with commas between them, in brackets. -/
def Enclosed (opening closing : Char) (texts : List (List Char)) (cs : List Char) : Prop :=
  ∃ before inner after, Mark opening before ∧ Separated texts inner ∧ Mark closing after
    ∧ cs = before ++ inner ++ after

/-- The texts of a member of an object. -/
structure Member where
  name : List Char
  colon : List Char
  value : List Char
  deriving Inhabited

/-- The text of a member. -/
def Member.text (m : Member) : List Char := m.name ++ m.colon ++ m.value

/-- A value. -/
inductive Value : List Char → Prop
  | null : Value "null".toList
  | yes : Value "true".toList
  | no : Value "false".toList
  | number {cs : List Char} (h : Number cs) : Value cs
  | quoted {cs : List Char} (h : Quoted cs) : Value cs
  | array {items : List (List Char)} {cs : List Char} (hitems : ∀ i ∈ items, Value i)
    (h : Enclosed '[' ']' items cs) : Value cs
  | object {members : List Member} {cs : List Char} (hnames : ∀ m ∈ members, Quoted m.name)
    (hcolons : ∀ m ∈ members, Mark ':' m.colon) (hvalues : ∀ m ∈ members, Value m.value)
    (h : Enclosed '{' '}' (members.map Member.text) cs) : Value cs

/-- A text that is JSON: a value with white space on either side. -/
def Conforms (cs : List Char) : Prop :=
  ∃ before value after, Gap before ∧ Value value ∧ Gap after ∧ cs = before ++ value ++ after

/-! ## Without white space -/

theorem gap_nil : Gap [] := by simp [Gap]

theorem mark_single (sign : Char) : Mark sign [sign] := ⟨[], [], gap_nil, gap_nil, rfl⟩

theorem separated_intercalate (texts : List (List Char)) :
    Separated texts ([','].intercalate texts) := by
  induction texts with
  | nil => exact .none
  | cons cs texts ih =>
    cases texts with
    | nil => exact List.intercalate_singleton ▸ .single cs
    | cons next texts =>
      rw [List.intercalate_cons_cons]
      exact .more (mark_single ',') ih

theorem enclosed_intercalate (opening closing : Char) (texts : List (List Char)) :
    Enclosed opening closing texts (opening :: [','].intercalate texts ++ [closing]) :=
  ⟨[opening], _, [closing], mark_single opening, separated_intercalate texts, mark_single closing,
    rfl⟩

theorem Value.conforms {cs : List Char} (h : Value cs) : Conforms cs :=
  ⟨[], cs, [], gap_nil, h, gap_nil, by simp⟩

/-! ## Numbers -/

theorem digits_digitsOf (n : Nat) : Digits (Decimal.digitsOf n) :=
  ⟨Nat.toDigits_ne_nil, fun _ => Reader.isDigit_of_mem_digitsOf⟩

/-- The first digit of a number other than zero is no zero. -/
theorem head?_digitsOf {n : Nat} (h : n ≠ 0) : (Decimal.digitsOf n).head? ≠ some '0' := by
  intro hzero
  have hsingle : ¬ (Decimal.digitsOf n).length > 1 := fun hlong =>
    Reader.digitsOf_leading n ⟨hlong, hzero⟩
  have hdigits : Decimal.digitsOf n = ['0'] := by
    match hds : Decimal.digitsOf n with
    | [] => simp [hds] at hzero
    | [c] => simpa [hds] using hzero
    | _ :: _ :: _ => simp [hds] at hsingle
  have hvalue := Reader.ofDigits_digitsOf n
  rw [hdigits] at hvalue
  exact h hvalue.symm

theorem digitsOf_zero : Decimal.digitsOf 0 = ['0'] := by decide

theorem whole_digitsOf (n : Nat) : Whole (Decimal.digitsOf n) := by
  by_cases h : n = 0
  · exact .inl (h ▸ digitsOf_zero)
  · exact .inr ⟨digits_digitsOf n, head?_digitsOf h⟩

theorem number_int (i : Int) : Number (Json.int i) := by
  cases i with
  | ofNat n =>
    exact ⟨[], _, [], [], .inl rfl, whole_digitsOf n, .inl rfl, .inl rfl, by simp [Json.int]⟩
  | negSucc n =>
    exact ⟨['-'], _, [], [], .inr rfl, whole_digitsOf (n + 1), .inl rfl, .inl rfl,
      by simp [Json.int]⟩

theorem isDigit_of_mem_zeros {k : Nat} {c : Char} (h : c ∈ List.replicate k '0') :
    c.isDigit = true := List.eq_of_mem_replicate h ▸ by decide

/-- Zeros may be put behind the digits of any number but zero. -/
theorem whole_append_zeros {n k : Nat} (h : n = 0 → k = 0) :
    Whole (Decimal.digitsOf n ++ List.replicate k '0') := by
  obtain ⟨hne, hdigits⟩ := digits_digitsOf n
  by_cases hn : n = 0
  · rw [h hn, List.replicate_zero, List.append_nil]
    exact whole_digitsOf n
  · refine .inr ⟨⟨by simp [hne], ?_⟩, ?_⟩
    · exact List.forall_mem_append.2 ⟨hdigits, fun c => isDigit_of_mem_zeros⟩
    · have hfirst := head?_digitsOf hn
      rw [List.head?_append]
      cases hds : Decimal.digitsOf n with
      | nil => exact absurd hds hne
      | cons c cs => simpa [hds] using hfirst

/-- The first digits of a number, one or more. -/
theorem whole_take {n k : Nat} (hk : 0 < k) : Whole ((Decimal.digitsOf n).take k) := by
  obtain ⟨hne, hdigits⟩ := digits_digitsOf n
  by_cases hn : n = 0
  · left
    rw [hn, digitsOf_zero, List.take_of_length_le hk]
  · refine .inr ⟨⟨?_, fun c hc => hdigits c (List.mem_of_mem_take hc)⟩, ?_⟩
    · simp [hne, Nat.ne_of_gt hk]
    · rw [List.head?_take, if_neg (Nat.ne_of_gt hk)]
      exact head?_digitsOf hn

theorem digits_drop {n k : Nat} (hk : k < (Decimal.digitsOf n).length) :
    Digits ((Decimal.digitsOf n).drop k) :=
  ⟨by simpa using hk, fun c hc => (digits_digitsOf n).2 c (List.mem_of_mem_drop hc)⟩

/-- A decimal is written as a number in every style, and a minus sign may be put in front. -/
theorem number_write (style : Decimal.Style) (s : Decimal.Scientific) {sign : List Char}
    (hsign : sign = [] ∨ sign = ['-']) : Number (sign ++ s.write style) := by
  obtain ⟨hne, hdigits⟩ := digits_digitsOf s.digits
  unfold Decimal.Scientific.write
  extract_lets ds point fraction e
  split
  next =>
    split
    next =>
      -- zeros between the point and the first digit
      have hfraction : Digits (List.replicate (-point).toNat '0' ++ ds) :=
        ⟨by simp [ds, hne], List.forall_mem_append.2 ⟨fun c => isDigit_of_mem_zeros, hdigits⟩⟩
      exact ⟨sign, ['0'], _, [], hsign, .inl rfl, .inr ⟨_, hfraction, rfl⟩, .inl rfl, by simp⟩
    next hpositive =>
      split
      next =>
        -- zeros between the last digit and the point, and one behind it
        have hzero : s.digits = 0 → point.toNat - ds.length = 0 := by
          intro h
          simp only [point, ds, h, if_true, digitsOf_zero]
          rfl
        have hfraction : Fraction ['.', '0'] := ⟨['0'], ⟨by simp, by simp⟩, rfl⟩
        exact ⟨sign, _, _, [], hsign, whole_append_zeros hzero, .inr hfraction, .inl rfl,
          by simp [ds]⟩
      next hinside =>
        -- a point between two digits
        have hbehind : point.toNat < ds.length := by omega
        have hfraction : Fraction ('.' :: ds.drop point.toNat) := ⟨_, digits_drop hbehind, rfl⟩
        have hwhole : Whole (ds.take point.toNat) := whole_take (by omega)
        exact ⟨sign, _, _, [], hsign, hwhole, .inr hfraction, .inl rfl, by simp⟩
  next =>
    -- one digit, a point only if more follow, and an exponent
    have hwhole : Whole (ds.take 1) := whole_take (by decide)
    have hfraction : fraction = [] ∨ Fraction fraction := by
      simp only [fraction]
      split
      next => exact .inl rfl
      next hlong =>
        have hbehind : 1 < ds.length := Nat.lt_of_not_le hlong
        exact .inr ⟨_, digits_drop hbehind, rfl⟩
    have hdigits : Digits (Decimal.padLeft style.exponentDigits (Decimal.digitsOf e.natAbs)) := by
      obtain ⟨hne, hdigits⟩ := digits_digitsOf e.natAbs
      exact ⟨by simp [Decimal.padLeft, hne],
        List.forall_mem_append.2 ⟨fun c => isDigit_of_mem_zeros, hdigits⟩⟩
    have hexponent :
        [if e < 0 then '-' else '+'] = ['+'] ∨ [if e < 0 then '-' else '+'] = ['-'] := by
      split <;> simp
    exact ⟨sign, _, _, _, hsign, hwhole, hfraction,
      .inr ⟨'e', _, _, .inl rfl, .inr hexponent, hdigits, rfl⟩, by simp⟩

theorem number_float {x : Double} (h : x.isFinite = true) : Number (Json.float x) := by
  have hfield : x.exponentField ≠ 2047 := by simpa [Double.isFinite] using h
  have hnan : x.isNaN = false := by simp [Double.isNaN, hfield]
  have hinfinite : x.isInfinite = false := by simp [Double.isInfinite, hfield]
  simp only [Json.float, hnan, hinfinite, Bool.false_eq_true, if_false]
  split
  next => exact number_write _ _ (.inr rfl)
  next => exact number_write _ _ (.inl rfl)

/-- The characters of numbers. -/
def IsNumeric (c : Char) : Prop := c.isDigit = true ∨ c ∈ ['-', '+', '.', 'e', 'E']

theorem Number.isNumeric {cs : List Char} (h : Number cs) : ∀ c ∈ cs, IsNumeric c := by
  have hdigits : ∀ {ds : List Char}, Digits ds → ∀ c ∈ ds, IsNumeric c := fun h c hc =>
    .inl (h.2 c hc)
  have hmark : ∀ {c : Char}, c ∈ ['-', '+', '.', 'e', 'E'] → IsNumeric c := .inr
  obtain ⟨sign, whole, fraction, exponent, hsign, hwhole, hfraction, hexponent, rfl⟩ := h
  simp only [List.forall_mem_append]
  refine ⟨⟨⟨?_, ?_⟩, ?_⟩, ?_⟩
  · rcases hsign with rfl | rfl
    · simp
    · simpa using hmark (by decide)
  · rcases hwhole with rfl | ⟨hwhole, -⟩
    · simpa using .inl (by decide)
    · exact hdigits hwhole
  · rcases hfraction with rfl | ⟨ds, hds, rfl⟩
    · simp
    · exact List.forall_mem_cons.2 ⟨hmark (by decide), hdigits hds⟩
  · rcases hexponent with rfl | ⟨letter, sign, ds, hletter, hsign, hds, rfl⟩
    · simp
    · refine List.forall_mem_cons.2 ⟨?_, List.forall_mem_append.2 ⟨?_, hdigits hds⟩⟩
      · rcases hletter with rfl | rfl <;> exact hmark (by decide)
      · rcases hsign with rfl | rfl | rfl
        · simp
        · simpa using hmark (by decide)
        · simpa using hmark (by decide)

/-! ## Texts between quotes -/

theorem isHex_of_mem_hexDigits {w n : Nat} {c : Char} (h : c ∈ Text.hexDigits w n) : IsHex c := by
  have hdigit : ∀ m < 16, IsHex (Nat.digitChar m) := by
    unfold IsHex
    decide
  induction w generalizing n with
  | zero => simp [Text.hexDigits] at h
  | succ w ih =>
    rcases List.mem_append.1 h with h | h
    · exact ih h
    · exact List.mem_singleton.1 h ▸ hdigit _ (Nat.mod_lt _ (by decide))

/-- Every character is written as one letter. -/
theorem letter_escape (c : Char) : Letter (Json.escape c) := by
  unfold Json.escape
  repeat' split
  iterate 7
    next => exact .short (by decide)
  next => exact .code (Text.length_hexDigits 4 _) fun c => isHex_of_mem_hexDigits
  next hquote hbackslash _ _ _ _ _ hcontrol =>
    exact .plain (Nat.le_of_not_lt hcontrol) hquote hbackslash

theorem quoted_string (s : String) : Quoted (Json.string s) := by
  refine ⟨s.toList.map Json.escape, ?_, by rw [Json.string, List.flatMap_def]⟩
  intro l hl
  obtain ⟨c, -, rfl⟩ := List.mem_map.1 hl
  exact letter_escape c

/-- Characters that need no escape. -/
theorem quoted_plain {cs : List Char} (h : ∀ c ∈ cs, Letter [c]) : Quoted ('"' :: cs ++ ['"']) := by
  refine ⟨cs.map fun c => [c], ?_, by rw [← List.flatMap_def, List.flatMap_singleton']⟩
  intro l hl
  obtain ⟨c, hc, rfl⟩ := List.mem_map.1 hl
  exact h c hc

theorem IsNumeric.plain {c : Char} (h : IsNumeric c) : 0x20 ≤ c.toNat ∧ c ≠ '"' ∧ c ≠ '\\' := by
  rcases h with h | h
  · have hrange : 48 ≤ c.toNat ∧ c.toNat ≤ 57 := Char.isDigit_iff_toNat.1 h
    refine ⟨by omega, ?_, ?_⟩ <;> rintro rfl <;> exact absurd hrange (by decide)
  · simp only [List.mem_cons, List.not_mem_nil, or_false] at h
    rcases h with rfl | rfl | rfl | rfl | rfl <;> decide

theorem letter_of_isNumeric {c : Char} (h : IsNumeric c) : Letter [c] :=
  .plain h.plain.1 h.plain.2.1 h.plain.2.2

/-- The words for numbers that are not finite. -/
def words : List (List Char) := ["NaN".toList, "Infinity".toList, "-Infinity".toList]

/-- A number that is not finite is written as a word. -/
theorem float_mem_words {x : Double} (h : x.isFinite = false) : Json.float x ∈ words := by
  have hfield : x.exponentField = 2047 := by simpa [Double.isFinite] using h
  by_cases hfraction : x.fractionField = 0
  · have hnan : x.isNaN = false := by simp [Double.isNaN, hfraction]
    have hinfinite : x.isInfinite = true := by simp [Double.isInfinite, hfield, hfraction]
    simp only [Json.float, hnan, hinfinite, Bool.false_eq_true, if_false, if_true]
    split <;> decide
  · have hnan : x.isNaN = true := by simp [Double.isNaN, hfield, hfraction]
    simp only [Json.float, hnan, if_true]
    decide

/-- Keys of every kind stand between quotes, words too. -/
theorem quoted_key {k : Document} {cs : List Char} (h : Json.key k = .ok cs) : Quoted cs := by
  have hnumber : ∀ {cs : List Char}, Number cs → Quoted ('"' :: cs ++ ['"']) := fun hcs =>
    quoted_plain fun c hc => letter_of_isNumeric (hcs.isNumeric c hc)
  have hword : ∀ cs ∈ "null".toList :: "true".toList :: "false".toList :: words,
      Quoted ('"' :: cs ++ ['"']) := by
    have hletters : ∀ cs ∈ "null".toList :: "true".toList :: "false".toList :: words, ∀ c ∈ cs,
        0x20 ≤ c.toNat ∧ c ≠ '"' ∧ c ≠ '\\' := by simp [words]
    intro cs hcs
    refine quoted_plain fun c hc => ?_
    obtain ⟨hcontrol, hquote, hbackslash⟩ := hletters cs hcs c hc
    exact .plain hcontrol hquote hbackslash
  cases k with
  | str s =>
    obtain rfl : Json.string s = cs := Except.ok.inj h
    exact quoted_string s
  | int i =>
    obtain rfl : '"' :: Json.int i ++ ['"'] = cs := Except.ok.inj h
    exact hnumber (number_int i)
  | float x =>
    obtain rfl : '"' :: Json.float x ++ ['"'] = cs := Except.ok.inj h
    cases hx : x.isFinite with
    | true => exact hnumber (number_float hx)
    | false =>
      refine hword _ ?_
      simpa only [List.mem_cons] using .inr (.inr (.inr (float_mem_words hx)))
  | bool b =>
    obtain rfl : '"' :: Json.bool b ++ ['"'] = cs := Except.ok.inj h
    refine hword _ ?_
    cases b <;> decide
  | null =>
    obtain rfl : "\"null\"".toList = cs := Except.ok.inj h
    exact hword "null".toList (by decide)
  | _ => cases h

/-! ## Documents -/

/-- A member that is written is a key, a colon and a value. -/
theorem member_write {m : Document × Document} {cs : List Char} (h : writeMember m = .ok cs)
    (hvalue : ∀ t, Json.write m.2 = .ok t → Value t) :
    ∃ member : Member, Quoted member.name ∧ Mark ':' member.colon ∧ Value member.value
      ∧ member.text = cs := by
  obtain ⟨name, value, hname, hwrite, rfl⟩ := writeMember_eq_ok_iff.1 h
  exact ⟨⟨name, [':'], value⟩, quoted_key hname, mark_single ':', hvalue value hwrite,
    by simp [Member.text]⟩

/-- A document without numbers that are written as words is a value of the grammar. -/
theorem value_write (d : Document) {cs : List Char} (h : Json.write d = .ok cs)
    (hfinite : ∀ x, .value (.float x) ∈ d.parts → x.isFinite = true) : Value cs := by
  induction d using inductOn generalizing cs with
  | null => exact Except.ok.inj h ▸ .null
  | bool b =>
    obtain rfl := Except.ok.inj h
    cases b
    · exact .no
    · exact .yes
  | int i => exact Except.ok.inj h ▸ .number (number_int i)
  | float x =>
    exact Except.ok.inj h ▸ .number (number_float (hfinite x (List.mem_singleton.2 rfl)))
  | str s => exact Except.ok.inj h ▸ .quoted (quoted_string s)
  | bytes b => cases h
  | list xs ih | tuple xs ih =>
    obtain ⟨texts, htexts, rfl⟩ := texts_of_list h
    refine .array (fun t ht => ?_) (enclosed_intercalate '[' ']' texts)
    obtain ⟨x, hx, ht⟩ := (mapM_matches htexts).1 t ht
    exact ih x hx ht fun y hy =>
      hfinite y (List.mem_cons_of_mem _ (mem_partsOfItems.2 ⟨x, hx, hy⟩))
  | dict ms ih =>
    obtain ⟨texts, htexts, rfl⟩ := texts_of_dict h
    have hmember : ∀ t ∈ texts, ∃ member : Member, Quoted member.name ∧ Mark ':' member.colon
        ∧ Value member.value ∧ member.text = t := by
      intro t ht
      obtain ⟨m, hm, ht⟩ := (mapM_matches htexts).1 t ht
      exact member_write ht fun v hv => ih m hm hv fun y hy =>
        hfinite y (List.mem_cons_of_mem _ (mem_partsOfMembers.2 ⟨m, hm, .inr hy⟩))
    choose! member hname hcolon hvalue htext using hmember
    have hall : (texts.map member).map Member.text = texts := by
      rw [List.map_map]
      exact (List.map_congr_left htext).trans (List.map_id texts)
    refine .object (List.forall_mem_map.2 hname) (List.forall_mem_map.2 hcolon)
      (List.forall_mem_map.2 hvalue) ?_
    rw [hall]
    exact enclosed_intercalate '{' '}' texts

end Grammar

end ContractBuild.Document
