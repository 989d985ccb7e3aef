import ContractBuild.Path.Basic

/-!
# Suffixes in any letter case

The lower case of a text is looked up letter by letter in all alphabets. A suffix of plain letters
nevertheless agrees with nothing but its own letters, capital or small (`hasSuffix_iff`): only two
letters beyond ASCII have one below U+0080 as their lower case, a dotted `I` and the sign of the
kelvin, and `i` and `k` are not plain here.
-/

namespace ContractBuild

namespace Text

/-- A character that is the lower case of ASCII letters only. -/
def IsPlain (c : Char) : Prop := c.toNat < 0x80 ∧ c ∉ ['i', 'k', '\x00']

instance (c : Char) : Decidable (IsPlain c) := by
  unfold IsPlain; infer_instance

theorem toLower_of_not_ascii {c : Char} (h : 0x80 ≤ c.toNat) : c.toLower = c := by
  have hcapital : ¬ (c.val ≥ 'A'.val ∧ c.val ≤ 'Z'.val) := fun hc =>
    absurd (UInt32.le_iff_toNat_le.1 hc.2) (Nat.not_le.2 (Nat.lt_of_lt_of_le (by decide) h))
  exact dif_neg hcapital

/-- Behind U+0080 no character is plain, and one that does not exist is the null character. -/
theorem not_isPlain_ofNat {n : Nat} (h : 0x80 ≤ n) : ¬ IsPlain (Char.ofNat n) := by
  by_cases hn : n.isValidChar
  · have htoNat : (Char.ofNat n).toNat = n := by
      rw [Char.ofNat, dif_pos hn]
      rfl
    exact fun hplain => absurd hplain.1 (htoNat.symm ▸ Nat.not_lt.2 h)
  · have hnull : Char.ofNat n = '\x00' := dif_neg hn
    rw [hnull]
    decide

/-- The lower case of a character beyond ASCII starts with no plain one. -/
theorem head_lowerChar {c : Char} (h : 0x80 ≤ c.toNat) :
    ∃ first rest, lowerChar c = first :: rest ∧ ¬ IsPlain first := by
  have hlower : ∀ r ∈ capitalRuns, 0x80 ≤ r.lower
      ∨ r.first = 0x212a ∧ r.last = 0x212a ∧ r.lower = 0x6b := by decide +kernel
  unfold lowerChar
  rw [if_neg (Nat.not_lt.2 h)]
  split
  next => exact ⟨_, _, rfl, by decide⟩
  next =>
    split
    next r hfind =>
      refine ⟨_, _, rfl, ?_⟩
      rcases hlower r (List.mem_of_find?_eq_some hfind) with hr | ⟨hfirst, hlast, hr⟩
      · exact not_isPlain_ofNat (Nat.le_add_right_of_le hr)
      · have hkelvin : c.toNat = 0x212a := by
          have hcontains := List.find?_some hfind
          simp only [CapitalRun.contains, Bool.and_eq_true, decide_eq_true_eq] at hcontains
          omega
        rw [hkelvin, hfirst, hr]
        decide
    next => exact ⟨c, [], rfl, fun hplain => absurd hplain.1 (Nat.not_lt.2 h)⟩

theorem lowerAfter_eq_iff {before cs target : List Char} (h : ∀ c ∈ target, IsPlain c) :
    lowerAfter before cs = target ↔ cs.map Char.toLower = target := by
  induction cs generalizing before target with
  | nil => rfl
  | cons c cs ih =>
    rw [lowerAfter, List.map_cons]
    by_cases hc : c.toNat < 0x80
    · -- an ASCII letter has the same lower case in both
      have hsigma : c ≠ 'Σ' := by
        rintro rfl
        exact absurd hc (by decide)
      rw [if_neg hsigma, lowerChar, if_pos hc, List.singleton_append]
      cases target with
      | nil => simp
      | cons t target =>
        rw [List.cons.injEq, List.cons.injEq, ih (List.forall_mem_cons.1 h).2]
    · -- any other starts neither of them
      have hascii : 0x80 ≤ c.toNat := Nat.not_lt.1 hc
      have hfirst : ∃ first rest,
          (if c = 'Σ' then [if startsCased before && !startsCased cs then 'ς' else 'σ']
            else lowerChar c) = first :: rest ∧ ¬ IsPlain first := by
        split
        next => exact ⟨_, _, rfl, by split <;> decide⟩
        next => exact head_lowerChar hascii
      obtain ⟨first, rest, hpiece, hplain⟩ := hfirst
      rw [hpiece, toLower_of_not_ascii hascii]
      constructor
      · rintro rfl
        exact absurd (h first (List.mem_cons_self ..)) hplain
      · rintro rfl
        exact absurd (h c (List.mem_cons_self ..)).1 hc

end Text

/-- A suffix of plain letters is found in any letter case, and nothing else is taken for it. -/
theorem Path.hasSuffix_iff {suffix : String} (h : ∀ c ∈ suffix.toList, Text.IsPlain c) (p : Path) :
    p.hasSuffix suffix = true ↔ p.suffix.toLower = suffix := by
  have hlower : p.suffix.toLower.toList = p.suffix.toList.map Char.toLower := String.toList_map
  rw [hasSuffix, decide_eq_true_eq, Text.lowerCase, Text.lowerAfter_eq_iff h, ← String.toList_inj,
    hlower, Path.suffix, String.toList_ofList]

end ContractBuild
