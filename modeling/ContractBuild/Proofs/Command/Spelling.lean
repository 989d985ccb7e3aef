import Mathlib.Data.List.TakeWhile
import ContractBuild.Command.Arguments
import ContractBuild.Failure.Basic

/-!
# The spelling of arguments

`Spelled` is the grammar of command lines, told without the reader: which texts spell which options
and other arguments, one rule for each way to write an option. `read_eq_ok_iff` says that mixed
arguments are read exactly if they are spelled by the rules, and that what is read is what they
spell.

The rules leave nothing open if the options have names of their own (`Distinct`). A long name is
looked for up to the first equals sign, and letters only behind a single dash; so names must not
hold equals signs, and a dash must be no letter of an option.
-/

namespace ContractBuild.Command

variable {κ : Type} {specs : List (OptionSpec κ)} {o : OptionSpec κ} {key : κ}
variable {os : List (Occurrence κ)} {cs : List Char} {arg : String} {args : List String}

/-- Options that can be told apart. -/
structure Distinct (specs : List (OptionSpec κ)) : Prop where
  long : ∀ o ∈ specs, ∀ o' ∈ specs, o.long = o'.long → o = o'
  short : ∀ o ∈ specs, ∀ o' ∈ specs, o.short ≠ none → o.short = o'.short → o = o'
  named : ∀ o ∈ specs, o.long ≠ ""
  no_equals : ∀ o ∈ specs, '=' ∉ o.long.toList
  no_dash : ∀ o ∈ specs, o.short ≠ some '-'

/-! ## The grammar -/

/-- What letters behind a dash spell: flags, and at the end possibly an option with a value, which
is the rest of the letters or else the next argument. In the last case the option is `next`. -/
inductive Letters (specs : List (OptionSpec κ)) :
    List Char → List (Occurrence κ) → (next : Option κ) → Prop
  | nil : Letters specs [] [] none
  | flag {o : OptionSpec κ} {c : Char} {cs : List Char} {os : List (Occurrence κ)}
    {next : Option κ} (ho : o ∈ specs) (hc : o.short = some c) (hflag : o.takesValue = false)
    (h : Letters specs cs os next) : Letters specs (c :: cs) (⟨o.key, none⟩ :: os) next
  | joined {o : OptionSpec κ} {c : Char} {value : List Char} (ho : o ∈ specs)
    (hc : o.short = some c) (hvalue : o.takesValue = true) (hne : value ≠ []) :
    Letters specs (c :: value) [⟨o.key, some (String.ofList value)⟩] none
  | apart {o : OptionSpec κ} {c : Char} (ho : o ∈ specs) (hc : o.short = some c)
    (hvalue : o.takesValue = true) : Letters specs [c] [] (some o.key)

/-- What one argument spells that stands for options. -/
inductive Word (specs : List (OptionSpec κ)) :
    String → List (Occurrence κ) → (next : Option κ) → Prop
  | flag {o : OptionSpec κ} (ho : o ∈ specs) (hflag : o.takesValue = false) :
    Word specs ("--" ++ o.long) [⟨o.key, none⟩] none
  | joined {o : OptionSpec κ} (ho : o ∈ specs) (hvalue : o.takesValue = true) (value : String) :
    Word specs ("--" ++ o.long ++ "=" ++ value) [⟨o.key, some value⟩] none
  | apart {o : OptionSpec κ} (ho : o ∈ specs) (hvalue : o.takesValue = true) :
    Word specs ("--" ++ o.long) [] (some o.key)
  | letters {cs : List Char} {os : List (Occurrence κ)} {next : Option κ} (hne : cs ≠ [])
    (h : Letters specs cs os next) : Word specs (String.ofList ('-' :: cs)) os next

/-- What a command line spells. -/
inductive Spelled (specs : List (OptionSpec κ)) : List String → Arguments κ → Prop
  | nil : Spelled specs [] {}
  /-- Behind two dashes there are no options any more. -/
  | separator (args : List String) : Spelled specs ("--" :: args) { others := args }
  /-- An argument that does not start with a dash, or is a dash alone. -/
  | other {arg : String} {args : List String} {as : Arguments κ}
    (harg : Arguments.isOption arg = false) (h : Spelled specs args as) :
    Spelled specs (arg :: args) (as.addOther arg)
  | complete {arg : String} {os : List (Occurrence κ)} {args : List String} {as : Arguments κ}
    (hword : Word specs arg os none) (h : Spelled specs args as) :
    Spelled specs (arg :: args) (as.addOptions os)
  | awaiting {arg : String} {os : List (Occurrence κ)} {key : κ} {args : List String}
    {as : Arguments κ} (hword : Word specs arg os (some key)) (value : String)
    (h : Spelled specs args as) :
    Spelled specs (arg :: value :: args) (as.addOptions (os ++ [⟨key, some value⟩]))

/-! ## Options by their names -/

theorem find?_eq_some_of_unique {α : Type} {p : α → Bool} {as : List α} {a : α} (ha : a ∈ as)
    (hp : p a = true) (hunique : ∀ b ∈ as, p b = true → b = a) : as.find? p = some a := by
  cases hfind : as.find? p with
  | none => exact absurd hp (by simpa using List.find?_eq_none.1 hfind a ha)
  | some b =>
    rw [hunique b (List.mem_of_find?_eq_some hfind) (by simpa using List.find?_some hfind)]

theorem append_long_inj {a b : String} : "--" ++ a = "--" ++ b ↔ a = b := by
  simp [← String.toList_inj]

theorem Distinct.find?_long_iff (h : Distinct specs) :
    specs.find? (fun o => "--" ++ o.long = arg) = some o ↔ o ∈ specs ∧ "--" ++ o.long = arg := by
  constructor
  · intro hfind
    exact ⟨List.mem_of_find?_eq_some hfind, by simpa using List.find?_some hfind⟩
  · intro ⟨ho, harg⟩
    refine find?_eq_some_of_unique ho (by simpa using harg) fun b hb hlong => ?_
    have hsame : "--" ++ b.long = "--" ++ o.long := by
      rw [harg]
      simpa using hlong
    exact h.long b hb o ho (append_long_inj.1 hsame)

theorem Distinct.find?_short_iff (h : Distinct specs) {c : Char} :
    specs.find? (fun o => o.short = some c) = some o ↔ o ∈ specs ∧ o.short = some c := by
  constructor
  · intro hfind
    exact ⟨List.mem_of_find?_eq_some hfind, by simpa using List.find?_some hfind⟩
  · intro ⟨ho, hc⟩
    refine find?_eq_some_of_unique ho (by simpa using hc) fun b hb hshort => ?_
    have hb' : b.short = some c := by simpa using hshort
    exact h.short b hb o ho (by simp [hb']) (hb'.trans hc.symm)

/-! ## Letters -/

/-- How a reading goes on with the next argument. -/
def Reading.next? : Reading κ → Option κ
  | .complete _ => none
  | .awaiting _ key _ => some key

/-- The options that a reading has found. -/
def Reading.found : Reading κ → List (Occurrence κ)
  | .complete os => os
  | .awaiting os _ _ => os

namespace Reading

theorem ofLetters_spells (h : Distinct specs) {r : Reading κ}
    (hread : ofLetters specs cs = .ok r) : Letters specs cs r.found r.next? := by
  induction cs generalizing r with
  | nil =>
    obtain rfl := Except.ok.inj hread
    exact .nil
  | cons c cs ih =>
    unfold ofLetters at hread
    cases hfind : specs.find? fun o => o.short = some c with
    | none => simp [hfind] at hread
    | some o =>
      obtain ⟨ho, hc⟩ := h.find?_short_iff.1 hfind
      simp only [hfind] at hread
      cases hvalue : o.takesValue with
      | true =>
        simp only [hvalue, if_true] at hread
        cases cs with
        | nil =>
          obtain rfl := Except.ok.inj hread
          exact .apart ho hc hvalue
        | cons d value =>
          obtain rfl := Except.ok.inj hread
          exact .joined ho hc hvalue (by simp)
      | false =>
        simp only [hvalue, Bool.false_eq_true, if_false] at hread
        obtain ⟨rest, hrest, rfl⟩ := map_eq_ok_iff.1 hread
        have hletters := ih hrest
        cases rest with
        | complete os => exact .flag ho hc hvalue hletters
        | awaiting os key name => exact .flag ho hc hvalue hletters

theorem exists_ofLetters (h : Distinct specs) {next : Option κ}
    (hletters : Letters specs cs os next) :
    ∃ r, ofLetters specs cs = .ok r ∧ r.found = os ∧ r.next? = next := by
  induction hletters with
  | nil => exact ⟨.complete [], rfl, rfl, rfl⟩
  | @flag o _ _ _ _ ho hc hflag _ ih =>
    obtain ⟨r, hr, hfound, hnext⟩ := ih
    refine ⟨r.cons ⟨o.key, none⟩, ?_, ?_, ?_⟩
    · rw [ofLetters, h.find?_short_iff.2 ⟨ho, hc⟩, hr]
      simp [hflag, Except.map]
    · cases r <;> simp_all [cons, found]
    · cases r <;> simp_all [cons, next?]
  | joined ho hc hvalue hne =>
    refine ⟨.complete _, ?_, rfl, rfl⟩
    rw [ofLetters, h.find?_short_iff.2 ⟨ho, hc⟩]
    simp [hvalue, hne]
  | @apart o c ho hc hvalue =>
    refine ⟨.awaiting [] o.key (String.ofList ['-', c]), ?_, rfl, rfl⟩
    rw [ofLetters, h.find?_short_iff.2 ⟨ho, hc⟩]
    simp [hvalue]

end Reading

/-- No dash is among the letters behind the first dash, but for a value. -/
theorem Letters.head_ne_dash (h : Distinct specs) {c : Char} {next : Option κ}
    (hletters : Letters specs (c :: cs) os next) : c ≠ '-' := by
  rintro rfl
  cases hletters with
  | flag ho hc => exact h.no_dash _ ho hc
  | joined ho hc => exact h.no_dash _ ho hc
  | apart ho hc => exact h.no_dash _ ho hc

/-! ## One argument -/

namespace Reading

theorem splitValue_of_no_equals (h : '=' ∉ arg.toList) : splitValue arg.toList = (arg, none) := by
  have hall : ∀ c ∈ arg.toList, decide (c ≠ '=') = true := by
    intro c hc
    simpa using ne_of_mem_of_not_mem hc h
  unfold splitValue
  rw [List.takeWhile_eq_self_iff.2 hall, List.dropWhile_eq_nil_iff.2 hall, String.ofList_toList]

theorem splitValue_of_equals {name : String} (h : '=' ∉ name.toList) (value : String) :
    splitValue (name ++ "=" ++ value).toList = (name, some value) := by
  have hall : ∀ c ∈ name.toList, decide (c ≠ '=') = true := by
    intro c hc
    simpa using ne_of_mem_of_not_mem hc h
  have hsplit : (name ++ "=" ++ value).toList = name.toList ++ '=' :: value.toList := by
    simp
  unfold splitValue
  rw [hsplit, List.takeWhile_append_of_pos hall, List.dropWhile_append_of_pos hall]
  simp

theorem splitValue_cases (arg : String) :
    splitValue arg.toList = (arg, none)
      ∨ ∃ name value, splitValue arg.toList = (name, some value) ∧ arg = name ++ "=" ++ value := by
  by_cases h : '=' ∈ arg.toList
  · right
    obtain ⟨value, hdrop⟩ : ∃ value, arg.toList.dropWhile (· ≠ '=') = '=' :: value := by
      cases hdrop : arg.toList.dropWhile (· ≠ '=') with
      | nil =>
        have hnot := List.dropWhile_eq_nil_iff.1 hdrop _ h
        exact absurd hnot (by decide)
      | cons c value =>
        have hc := List.head?_dropWhile_not (· ≠ '=') arg.toList
        rw [hdrop] at hc
        obtain rfl : c = '=' := by simpa using hc
        exact ⟨value, rfl⟩
    refine ⟨String.ofList (arg.toList.takeWhile (· ≠ '=')), String.ofList value, ?_, ?_⟩
    · unfold splitValue
      rw [hdrop]
    · have hwhole := List.takeWhile_append_dropWhile (p := (· ≠ '=')) (l := arg.toList)
      rw [hdrop] at hwhole
      simpa [← String.toList_inj] using hwhole.symm
  · left
    exact splitValue_of_no_equals h

/-- What is not the name of a long option is read as letters behind a dash. -/
theorem ofArgument_letters (h : Distinct specs) {name : String} {r : Reading κ}
    (hoption : Arguments.isOption arg = true)
    (hread : (match arg.toList with
      | '-' :: '-' :: _ => Except.error (UsageError.noSuchOption name)
      | _ => ofLetters specs arg.toList.tail) = .ok r) :
    Word specs arg r.found r.next? := by
  split at hread
  next => simp at hread
  next =>
    unfold Arguments.isOption at hoption
    split at hoption
    next c cs hcs =>
      rw [hcs] at hread
      have hword : Word specs (String.ofList ('-' :: c :: cs)) r.found r.next? :=
        .letters (by simp) (ofLetters_spells h hread)
      rwa [← hcs, String.ofList_toList] at hword
    next => simp at hoption

theorem ofArgument_spells (h : Distinct specs) {r : Reading κ}
    (hoption : Arguments.isOption arg = true) (hread : ofArgument specs arg.toList = .ok r) :
    Word specs arg r.found r.next? := by
  unfold ofArgument at hread
  rcases splitValue_cases arg with hsplit | ⟨name, value, hsplit, harg⟩
  · simp only [hsplit] at hread
    split at hread
    next o hfind =>
      obtain ⟨ho, rfl⟩ := h.find?_long_iff.1 hfind
      cases hvalue : o.takesValue with
      | true =>
        obtain rfl : Reading.awaiting [] o.key _ = r := by simpa [ofLong, hvalue] using hread
        exact .apart ho hvalue
      | false =>
        obtain rfl : Reading.complete [⟨o.key, none⟩] = r := by simpa [ofLong, hvalue] using hread
        exact .flag ho hvalue
    next => exact ofArgument_letters h hoption hread
  · simp only [hsplit] at hread
    split at hread
    next o hfind =>
      obtain ⟨ho, rfl⟩ := h.find?_long_iff.1 hfind
      cases hvalue : o.takesValue with
      | true =>
        obtain rfl : Reading.complete [⟨o.key, some value⟩] = r := by
          simpa [ofLong, hvalue] using hread
        exact harg ▸ .joined ho hvalue value
      | false => simp [ofLong, hvalue] at hread
    next => exact ofArgument_letters h hoption hread

/-- Behind a single dash no long option is looked up. -/
theorem find?_long_eq_none (specs : List (OptionSpec κ)) {c : Char} (hc : c ≠ '-')
    (cs : List Char) :
    specs.find? (fun o => "--" ++ o.long = (splitValue ('-' :: c :: cs)).1) = none := by
  rw [List.find?_eq_none]
  intro o _ hlong
  have hname : "--" ++ o.long = (splitValue ('-' :: c :: cs)).1 := by simpa using hlong
  have hprefix : (splitValue ('-' :: c :: cs)).1.toList <+: '-' :: c :: cs := by
    have htake : (splitValue ('-' :: c :: cs)).1
        = String.ofList (('-' :: c :: cs).takeWhile (· ≠ '=')) := by
      unfold splitValue
      split <;> rfl
    rw [htake, String.toList_ofList]
    exact List.takeWhile_prefix _
  rw [← hname] at hprefix
  simp at hprefix
  exact hc hprefix.1.symm

theorem exists_ofArgument (h : Distinct specs) {next : Option κ} (hword : Word specs arg os next) :
    ∃ r, ofArgument specs arg.toList = .ok r ∧ r.found = os ∧ r.next? = next := by
  have hequals : ∀ o ∈ specs, '=' ∉ ("--" ++ o.long).toList := by
    intro o ho
    simpa using h.no_equals o ho
  unfold ofArgument
  cases hword with
  | @flag o ho hflag =>
    refine ⟨.complete [⟨o.key, none⟩], ?_, rfl, rfl⟩
    simp only [splitValue_of_no_equals (hequals o ho), h.find?_long_iff.2 ⟨ho, rfl⟩, ofLong, hflag]
  | @joined o ho hvalue value =>
    refine ⟨.complete [⟨o.key, some value⟩], ?_, rfl, rfl⟩
    simp only [splitValue_of_equals (hequals o ho), h.find?_long_iff.2 ⟨ho, rfl⟩, ofLong, hvalue]
  | @apart o ho hvalue =>
    refine ⟨.awaiting [] o.key ("--" ++ o.long), ?_, rfl, rfl⟩
    simp only [splitValue_of_no_equals (hequals o ho), h.find?_long_iff.2 ⟨ho, rfl⟩, ofLong, hvalue]
  | @letters cs _ _ hne hletters =>
    obtain ⟨c, cs, rfl⟩ := List.exists_cons_of_ne_nil hne
    have hc : c ≠ '-' := hletters.head_ne_dash h
    have hfind := find?_long_eq_none specs hc cs
    rw [String.toList_ofList]
    simp only [hfind]
    split
    next heq => simp_all
    next => exact exists_ofLetters h hletters

end Reading

theorem Word.isOption {next : Option κ} (hword : Word specs arg os next) :
    Arguments.isOption arg = true := by
  cases hword with
  | flag => simp [Arguments.isOption]
  | joined => simp [Arguments.isOption]
  | apart => simp [Arguments.isOption]
  | letters hne =>
    obtain ⟨c, cs, rfl⟩ := List.exists_cons_of_ne_nil hne
    simp [Arguments.isOption]

theorem Word.ne_separator (h : Distinct specs) {next : Option κ}
    (hword : Word specs arg os next) : arg ≠ "--" := by
  have hlong : ∀ o ∈ specs, o.long.toList ≠ [] := by
    intro o ho hnil
    exact h.named o ho (String.toList_inj.1 hnil)
  intro harg
  have hlist := congrArg String.toList harg
  cases hword with
  | flag ho => exact hlong _ ho (by simpa using hlist)
  | joined ho => simp at hlist
  | apart ho => exact hlong _ ho (by simpa using hlist)
  | letters hne hletters =>
    obtain ⟨c, cs, rfl⟩ := List.exists_cons_of_ne_nil hne
    have hc : c ≠ '-' := hletters.head_ne_dash h
    simp [hc] at hlist

/-! ## Command lines -/

namespace Arguments

variable {as : Arguments κ}

theorem read_spells (h : Distinct specs) (hread : read specs true args = .ok as) :
    Spelled specs args as := by
  fun_induction read specs true args generalizing as with
  | case1 =>
    obtain rfl := Except.ok.inj hread
    exact .nil
  | case2 args =>
    obtain rfl := Except.ok.inj hread
    exact .separator args
  | case3 => simp at hread
  | case4 arg args _ hoption os hword ih =>
    obtain ⟨rest, hrest, rfl⟩ := map_eq_ok_iff.1 hread
    exact .complete (Reading.ofArgument_spells h hoption hword) (ih hrest)
  | case5 => simp at hread
  | case6 arg _ hoption os key name hword value args ih =>
    obtain ⟨rest, hrest, rfl⟩ := map_eq_ok_iff.1 hread
    exact .awaiting (Reading.ofArgument_spells h hoption hword) value (ih hrest)
  | case7 arg args _ hoption _ ih =>
    obtain ⟨rest, hrest, rfl⟩ := map_eq_ok_iff.1 hread
    exact .other (by simpa using hoption) (ih hrest)
  | case8 _ _ _ _ hmixed => exact absurd rfl hmixed

theorem ne_separator_of_not_isOption (harg : isOption arg = false) : arg ≠ "--" := by
  rintro rfl
  exact absurd harg (by decide)

theorem read_of_spelled (h : Distinct specs) (hspelled : Spelled specs args as) :
    read specs true args = .ok as := by
  induction hspelled with
  | nil => rw [read]
  | separator args => rw [read, if_pos rfl]
  | other harg _ ih =>
    rw [read, if_neg (ne_separator_of_not_isOption harg), if_neg (by simp [harg]), if_pos rfl, ih]
    rfl
  | complete hword _ ih =>
    obtain ⟨r, hr, hfound, hnext⟩ := Reading.exists_ofArgument h hword
    rw [read, if_neg (hword.ne_separator h), if_pos hword.isOption, hr]
    cases r with
    | complete os =>
      obtain rfl : os = _ := hfound
      simp only [ih]
      rfl
    | awaiting os key name => simp [Reading.next?] at hnext
  | awaiting hword value _ ih =>
    obtain ⟨r, hr, hfound, hnext⟩ := Reading.exists_ofArgument h hword
    rw [read, if_neg (hword.ne_separator h), if_pos hword.isOption, hr]
    cases r with
    | complete os => simp [Reading.next?] at hnext
    | awaiting os key name =>
      obtain rfl : os = _ := hfound
      obtain rfl : key = _ := Option.some.inj hnext
      simp only [ih]
      rfl

/-- Mixed arguments are read exactly if they are spelled by the rules. -/
theorem read_eq_ok_iff (h : Distinct specs) :
    read specs true args = .ok as ↔ Spelled specs args as :=
  ⟨read_spells h, read_of_spelled h⟩

end Arguments

end ContractBuild.Command
