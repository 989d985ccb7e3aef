import ContractBuild.Console
import Mathlib.Data.List.TakeWhile

/-!
# What a console displays

A console leaves out the characters that it hides and puts blanks in the place of tabs. Nothing else
changes (`filter_display`), neither kind of character is ever displayed (`isPlain_of_mem_display`),
and so a text is displayed as it is exactly if it has none of them (`display_eq_self_iff`).
-/

namespace ContractBuild

namespace Text

variable {cs rest : List Char} {c d : Char} {p : Char → Bool}

theorem takeWhile_ne_of_dropWhile (h : cs.dropWhile (· ≠ d) = []) : cs.takeWhile (· ≠ d) = cs :=
  List.takeWhile_eq_self_iff.2 (List.dropWhile_eq_nil_iff.1 h)

/-- What a text is cut at is the character that was looked for. -/
theorem eq_append_of_dropWhile (h : cs.dropWhile (· ≠ d) = c :: rest) :
    cs = cs.takeWhile (· ≠ d) ++ d :: rest := by
  have hsplit := List.takeWhile_append_dropWhile (p := (· ≠ d)) (l := cs)
  have hhead := List.head?_dropWhile_not (· ≠ d) cs
  rw [h] at hsplit hhead
  obtain rfl : c = d := by simpa using hhead
  exact hsplit.symm

/-- A line without tabs stays as it is. -/
theorem expandLine_of_notMem (h : '\t' ∉ cs) (column : Nat) : expandLine column cs = cs := by
  have hdrop : cs.dropWhile (· ≠ '\t') = [] :=
    List.dropWhile_eq_nil_iff.2 fun c hc => decide_eq_true fun e => h (e ▸ hc)
  unfold expandLine
  split
  next => exact takeWhile_ne_of_dropWhile hdrop
  next hd => exact absurd (hdrop.symm.trans hd) (by simp)

/-- A text without tabs stays as it is. -/
theorem expandTabs_of_notMem (h : '\t' ∉ cs) : expandTabs cs = cs := by
  fun_induction expandTabs cs with
  | case1 cs line hdrop =>
    rw [expandLine_of_notMem fun hm => h ((List.takeWhile_sublist _).mem hm)]
    exact takeWhile_ne_of_dropWhile hdrop
  | case2 cs line newline rest hdrop ih =>
    have hrest : '\t' ∉ rest := fun hm =>
      h ((List.dropWhile_sublist (· ≠ '\n')).mem (hdrop ▸ List.mem_cons_of_mem newline hm))
    rw [expandLine_of_notMem fun hm => h ((List.takeWhile_sublist _).mem hm), ih hrest]
    exact (eq_append_of_dropWhile hdrop).symm

/-- The tabs of a line are replaced by blanks, and nothing else is. -/
theorem filter_expandLine (htab : p '\t' = false) (hblank : p ' ' = false) (column : Nat)
    (cs : List Char) : (expandLine column cs).filter p = cs.filter p := by
  fun_induction expandLine column cs with
  | case1 column cs part hdrop =>
    exact congrArg (List.filter p) (takeWhile_ne_of_dropWhile hdrop)
  | case2 column cs part tab rest hdrop reached ih =>
    have hblanks (n : Nat) : (List.replicate n ' ').filter p = [] := by
      simp [hblank]
    have hcs : cs.filter p = part.filter p ++ rest.filter p := by
      refine (congrArg (List.filter p) (eq_append_of_dropWhile hdrop)).trans ?_
      rw [List.filter_append, List.filter_cons_of_neg (by simp [htab])]
    rw [hcs, List.append_assoc, List.filter_append, List.cons_append,
      List.filter_cons_of_neg (by simp [hblank]), List.filter_append, hblanks, List.nil_append, ih]

theorem tab_notMem_expandLine (column : Nat) (cs : List Char) : '\t' ∉ expandLine column cs := by
  have hpart (cs : List Char) : '\t' ∉ cs.takeWhile (· ≠ '\t') := fun h => by
    simpa using List.mem_takeWhile_imp h
  fun_induction expandLine column cs with
  | case1 column cs part hdrop => exact hpart cs
  | case2 column cs part tab rest hdrop reached ih =>
    have hblanks (n : Nat) : '\t' ∉ List.replicate n ' ' := fun h => by
      simpa using List.eq_of_mem_replicate h
    intro h
    rcases List.mem_append.1 h with h | h
    · rcases List.mem_append.1 h with h | h
      · exact hpart cs h
      · rcases List.mem_cons.1 h with h | h
        · simp at h
        · exact hblanks _ h
    · exact ih h

theorem filter_expandTabs (htab : p '\t' = false) (hblank : p ' ' = false) (cs : List Char) :
    (expandTabs cs).filter p = cs.filter p := by
  fun_induction expandTabs cs with
  | case1 cs line hdrop =>
    rw [filter_expandLine htab hblank]
    exact congrArg (List.filter p) (takeWhile_ne_of_dropWhile hdrop)
  | case2 cs line newline rest hdrop ih =>
    have hcs : cs.filter p = line.filter p ++ ('\n' :: rest).filter p :=
      (congrArg (List.filter p) (eq_append_of_dropWhile hdrop)).trans (List.filter_append _ _)
    rw [hcs, List.filter_append, filter_expandLine htab hblank, List.filter_cons, List.filter_cons,
      ih]

theorem tab_notMem_expandTabs (cs : List Char) : '\t' ∉ expandTabs cs := by
  fun_induction expandTabs cs with
  | case1 cs line hdrop => exact tab_notMem_expandLine 0 line
  | case2 cs line newline rest hdrop ih =>
    simpa only [List.mem_append, List.mem_cons, tab_notMem_expandLine, ih, or_false, false_or]
      using by decide

end Text

namespace Console

variable {cs : List Char} {c : Char}

/-- Whether a console shows a character as it is. -/
def isPlain (c : Char) : Bool := c ≠ '\t' ∧ c ∉ hidden

theorem isPlain_iff : isPlain c = true ↔ c ≠ '\t' ∧ c ∉ hidden := by simp [isPlain]

/-- Whether a character is plain and leaves something to be seen. -/
def isVisible (c : Char) : Bool := isPlain c && c ≠ ' '

/-- What is visible of a text is displayed, and nothing else is visible. -/
theorem filter_display (cs : List Char) : (display cs).filter isVisible = cs.filter isVisible := by
  rw [display, Text.filter_expandTabs (by decide) (by decide), List.filter_filter]
  refine List.filter_congr fun c _ => ?_
  by_cases hc : c ∈ hidden <;> simp [isVisible, isPlain, hc]

theorem isPlain_of_mem_display (h : c ∈ display cs) : isPlain c = true := by
  have htab : c ≠ '\t' := fun hc => Text.tab_notMem_expandTabs _ (hc ▸ h)
  by_cases hhidden : c ∈ hidden
  · -- a hidden character passes the expansion, so it would be one that was not left out
    have hmem : c ∈ (display cs).filter (hidden.contains ·) :=
      List.mem_filter.2 ⟨h, by simpa using hhidden⟩
    rw [display, Text.filter_expandTabs (by decide) (by decide)] at hmem
    simpa [hhidden] using (List.mem_filter.1 (List.mem_filter.1 hmem).1).2
  · exact isPlain_iff.2 ⟨htab, hhidden⟩

/-- A text is displayed as it is exactly if all its characters are plain. -/
theorem display_eq_self_iff : display cs = cs ↔ ∀ c ∈ cs, isPlain c = true := by
  constructor
  · intro h c hc
    exact isPlain_of_mem_display (h ▸ hc)
  · intro h
    have hkept : cs.filter (fun c => !hidden.contains c) = cs :=
      List.filter_eq_self.2 fun c hc => by simpa using (isPlain_iff.1 (h c hc)).2
    have htab : '\t' ∉ cs := fun hc => (isPlain_iff.1 (h '\t' hc)).1 rfl
    rw [display, hkept, Text.expandTabs_of_notMem htab]

end Console

end ContractBuild
