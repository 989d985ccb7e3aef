import ContractBuild.Document.Json
import ContractBuild.Document.Reader

/-!
# Numbers and texts are read as they were written

The digits of a whole number are read as the number, provided that nothing behind them belongs to a
number as well (`number?_int`), and a text between quotes is read up to its closing quote, whatever
stands behind it (`string?_string`). Each escape is read by itself: no written escape is one half of
a pair of surrogates.
-/

namespace ContractBuild.Document.Reader

/-! ## Whole numbers -/

theorem ofDigits_digitsOf (n : Nat) : ofDigits (Decimal.digitsOf n) = n := by
  have hfold : ofDigits (Decimal.digitsOf n) = Nat.ofDigitChars 10 (Decimal.digitsOf n) 0 := by
    simp only [ofDigits, Nat.ofDigitChars, Nat.mul_comm]
  rw [hfold]
  exact Nat.ofDigitChars_toDigits (by decide) (by decide)

theorem isDigit_of_mem_digitsOf {n : Nat} {c : Char} (h : c ∈ Decimal.digitsOf n) :
    c.isDigit = true :=
  Nat.isDigit_of_mem_toDigits (by decide) (by decide) h

/-- Digits are written without zeros in front; zero itself is one digit. -/
theorem digitsOf_leading (n : Nat) :
    ¬ ((Decimal.digitsOf n).length > 1 ∧ (Decimal.digitsOf n).head? = some '0') := by
  induction n using Nat.strongRecOn with
  | ind n ih =>
    rw [Decimal.digitsOf, Nat.toDigits_eq_if (by decide)]
    by_cases h : n < 10
    · rw [if_pos h]
      simp
    · rw [if_neg h]
      intro hzero
      obtain ⟨-, hzero⟩ := hzero
      have hfront := ih (n / 10) (by omega)
      rw [Decimal.digitsOf] at hfront
      -- the first digit is that of the front part, which is a single zero only below ten
      cases hdigits : Nat.toDigits 10 (n / 10) with
      | nil => exact absurd hdigits Nat.toDigits_ne_nil
      | cons c cs =>
        rw [hdigits] at hzero hfront
        have hc : c = '0' := by simpa using hzero
        cases cs with
        | cons c' cs => exact hfront ⟨by simp, by simp [hc]⟩
        | nil =>
          have hvalue := ofDigits_digitsOf (n / 10)
          rw [Decimal.digitsOf, hdigits, hc] at hvalue
          have : n / 10 = 0 := hvalue.symm
          omega

/-- What can stand behind a value: nothing, or the sign that ends it. -/
def Delimited (rest : List Char) : Prop := ∀ c ∈ rest.head?, c = ',' ∨ c = ']' ∨ c = '}'

theorem delimited_nil : Delimited [] := by simp [Delimited]

theorem delimited_cons {c : Char} (h : c = ',' ∨ c = ']' ∨ c = '}') (rest : List Char) :
    Delimited (c :: rest) := by
  intro c' hc'
  obtain rfl : c = c' := by simpa using hc'
  exact h

variable {rest : List Char}

theorem digits?_digitsOf (n : Nat) (h : Delimited rest) :
    digits? (Decimal.digitsOf n ++ rest) = some (Decimal.digitsOf n, rest) := by
  have hall : ∀ c ∈ Decimal.digitsOf n, c.isDigit = true := fun c => isDigit_of_mem_digitsOf
  have htake : rest.takeWhile Char.isDigit = [] ∧ rest.dropWhile Char.isDigit = rest := by
    cases rest with
    | nil => exact ⟨rfl, rfl⟩
    | cons c rest =>
      have hc : c.isDigit = false := by
        rcases h c rfl with rfl | rfl | rfl <;> decide
      exact ⟨List.takeWhile_cons_of_neg (by simp [hc]), List.dropWhile_cons_of_neg (by simp [hc])⟩
  rw [digits?, List.takeWhile_append_of_pos hall, List.dropWhile_append_of_pos hall, htake.1,
    htake.2, List.append_nil]
  split
  next hnil => exact absurd hnil Nat.toDigits_ne_nil
  next => rfl

/-- Digits alone are a whole number. -/
theorem magnitude?_digitsOf (negative : Bool) (n : Nat) (h : Delimited rest) :
    magnitude? negative (Decimal.digitsOf n ++ rest)
      = some (.int (if negative then -(n : Int) else n), rest) := by
  have hfraction : fraction? rest = some (none, rest) := by
    cases rest with
    | nil => rfl
    | cons c rest => rcases h c rfl with rfl | rfl | rfl <;> rfl
  have hexponent : exponent? rest = some (none, rest) := by
    cases rest with
    | nil => rfl
    | cons c rest => rcases h c rfl with rfl | rfl | rfl <;> rfl
  rw [magnitude?, digits?_digitsOf n h]
  show (if _ then none else _) = _
  rw [if_neg (digitsOf_leading n), hfraction]
  simp only [Option.bind_eq_bind, Option.bind_some, hexponent, Option.isNone_none, Bool.and_self,
    if_true, ofDigits_digitsOf]
  rfl

theorem number?_int (i : Int) (h : Delimited rest) :
    number? (Json.int i ++ rest) = some (.int i, rest) := by
  cases i with
  | negSucc n =>
    show magnitude? true (Decimal.digitsOf (n + 1) ++ rest) = _
    rw [magnitude?_digitsOf true _ h]
    rfl
  | ofNat n =>
    show number? (Decimal.digitsOf n ++ rest) = _
    have hminus : ∀ cs, Decimal.digitsOf n ++ rest ≠ '-' :: cs := by
      intro cs hcs
      cases hdigits : Decimal.digitsOf n with
      | nil => exact Nat.toDigits_ne_nil hdigits
      | cons c ds =>
        rw [hdigits] at hcs
        have hc : c = '-' := (List.cons.inj hcs).1
        have hdigit := isDigit_of_mem_digitsOf (n := n) (c := c) (by simp [hdigits])
        rw [hc] at hdigit
        exact absurd hdigit (by decide)
    rw [number?]
    · rw [magnitude?_digitsOf false n h]
      rfl
    · exact hminus

/-! ## Texts -/

/-- An escape by a code point that is no surrogate is read alone, whatever follows it. -/
theorem string?_codePoint {a b c d : Char} {n : Nat} (h : hex4? a b c d = some n)
    (hn : n < 0xd800) :
    string? ('\\' :: 'u' :: a :: b :: c :: d :: rest)
      = (string? rest).map fun p => (Char.ofNat n :: p.1, p.2) := by
  have hhigh : ¬ (0xd800 ≤ n ∧ n < 0xdc00) := by omega
  have hlow : ¬ (0xdc00 ≤ n ∧ n < 0xe000) := by omega
  have hsurrogate : ¬ (0xd800 ≤ n ∧ n < 0xe000) := by omega
  -- a second escape that follows is read by itself, as no pair is begun
  by_cases hpair : ∃ e f g h rest', rest = '\\' :: 'u' :: e :: f :: g :: h :: rest'
  · obtain ⟨e, f, g, h', rest', rfl⟩ := hpair
    rw [string?, h]
    simp only [Option.bind_eq_bind, Option.bind_some, if_neg hhigh, if_neg hlow]
    cases string? ('\\' :: 'u' :: e :: f :: g :: h' :: rest') <;> rfl
  · rw [string?]
    · rw [h]
      simp only [Option.bind_eq_bind, Option.bind_some, if_neg hsurrogate]
      cases string? rest <;> rfl
    · intro e f g h' rest' hrest
      exact hpair ⟨e, f, g, h', rest', hrest⟩

theorem string?_shortEscape {c c' : Char} (h : shortEscape? c = some c') (hc : c ≠ 'u') :
    string? ('\\' :: c :: rest) = (string? rest).map fun p => (c' :: p.1, p.2) := by
  rw [string?]
  · rw [h]
    simp only [Option.bind_eq_bind, Option.bind_some]
    cases string? rest <;> rfl
  all_goals
    intros
    exact absurd ‹c = 'u'› hc

theorem string?_plain {c : Char} (hquote : c ≠ '"') (hbackslash : c ≠ '\\')
    (hcontrol : ¬ c.toNat < 0x20) :
    string? (c :: rest) = (string? rest).map fun p => (c :: p.1, p.2) := by
  rw [string?]
  · rw [if_neg (by simpa using ⟨hbackslash, Nat.le_of_not_lt hcontrol⟩)]
    cases string? rest <;> rfl
  all_goals
    intros
    simp_all

/-- The digits of a control character are read as its code point. -/
theorem hex4?_hexDigits {n : Nat} (h : n < 0x20) :
    ∃ a b c d, Text.hexDigits 4 n = [a, b, c, d] ∧ hex4? a b c d = some n := by
  refine ⟨_, _, _, _, rfl, ?_⟩
  revert n
  decide

/-- An escaped character is read as itself. -/
theorem string?_escape (c : Char) :
    string? (Json.escape c ++ rest) = (string? rest).map fun p => (c :: p.1, p.2) := by
  unfold Json.escape
  repeat' split
  iterate 7
    next h =>
      rw [h]
      exact string?_shortEscape rfl (by decide)
  next h =>
    obtain ⟨w, x, y, z, hdigits, hvalue⟩ := hex4?_hexDigits h
    rw [hdigits]
    show string? ('\\' :: 'u' :: w :: x :: y :: z :: rest) = _
    rw [string?_codePoint hvalue (by omega), Char.ofNat_toNat]
  next hquote hbackslash _ _ _ _ _ hcontrol => exact string?_plain hquote hbackslash hcontrol

theorem string?_flatMap_escape (cs : List Char) :
    string? (cs.flatMap Json.escape ++ '"' :: rest) = some (cs, rest) := by
  induction cs with
  | nil => rfl
  | cons c cs ih =>
    rw [List.flatMap_cons, List.append_assoc, string?_escape, ih]
    rfl

/-- A text between quotes is read up to its closing quote. -/
theorem string?_string (s : String) (rest : List Char) :
    ∃ cs, Json.string s ++ rest = '"' :: cs ∧ string? cs = some (s.toList, rest) := by
  refine ⟨s.toList.flatMap Json.escape ++ '"' :: rest, ?_, string?_flatMap_escape _⟩
  simp only [Json.string, List.cons_append, List.append_assoc, List.nil_append]

end ContractBuild.Document.Reader
