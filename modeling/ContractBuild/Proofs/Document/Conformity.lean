import ContractBuild.Artifact.Content
import ContractBuild.Proofs.Document.Outside

/-!
# Which documents are written as JSON

What is written for a document belongs to the grammar exactly if all numbers that stand as values in
it are finite (`jsonBytes_conforms_iff`); keys may be numbers of any kind, as they stand between
quotes. A number that is not finite is written as a word with a capital letter, and the grammar has
no capital `N` or `I` outside quotes (`Grammar.Value.neat`).
-/

namespace ContractBuild.Document

/-- The capital letters of the words for numbers that are not finite. -/
def IsCapital (c : Char) : Prop := c = 'N' ∨ c = 'I'

/-! ## No word in the grammar -/

namespace Grammar

variable {cs : List Char}

theorem Gap.neat (h : Gap cs) : Neat (¬ IsCapital ·) cs := by
  refine .plain fun c hc => ?_
  have hplain : ∀ c ∈ [' ', '\t', '\n', '\r'], c ≠ '"' ∧ ¬ IsCapital c := by simp [IsCapital]
  exact hplain c (by simpa using h c hc)

/-- A sign between values is neither a quote nor a capital letter. -/
theorem Mark.neat {sign : Char} (h : Mark sign cs) (hsign : sign ∈ ['[', ']', '{', '}', ',', ':']) :
    Neat (¬ IsCapital ·) cs := by
  obtain ⟨before, after, hbefore, hafter, rfl⟩ := h
  have hplain : ∀ c ∈ ['[', ']', '{', '}', ',', ':'], c ≠ '"' ∧ ¬ IsCapital c := by simp [IsCapital]
  obtain ⟨hquote, hcapital⟩ := hplain sign hsign
  rw [List.append_cons]
  exact (hbefore.neat.append (.single hquote hcapital)).append hafter.neat

theorem Number.neat (h : Number cs) : Neat (¬ IsCapital ·) cs := by
  refine .plain fun c hc => ⟨(h.isNumeric c hc).plain.2.1, ?_⟩
  rintro (rfl | rfl) <;> exact absurd (h.isNumeric _ hc) (by unfold IsNumeric; decide)

theorem Separated.neat {texts : List (List Char)} (h : Separated texts cs)
    (htexts : ∀ t ∈ texts, Neat (¬ IsCapital ·) t) : Neat (¬ IsCapital ·) cs := by
  induction h with
  | none => exact .nil
  | single cs => exact htexts cs (List.mem_cons_self ..)
  | more hcomma hrest ih =>
    obtain ⟨hfirst, hothers⟩ := List.forall_mem_cons.1 htexts
    exact (hfirst.append (hcomma.neat (by decide))).append (ih hothers)

theorem Enclosed.neat {texts : List (List Char)} {opening closing : Char}
    (h : Enclosed opening closing texts cs) (hopening : opening ∈ ['[', ']', '{', '}', ',', ':'])
    (hclosing : closing ∈ ['[', ']', '{', '}', ',', ':'])
    (htexts : ∀ t ∈ texts, Neat (¬ IsCapital ·) t) : Neat (¬ IsCapital ·) cs := by
  obtain ⟨before, inner, after, hbefore, hinner, hafter, rfl⟩ := h
  exact ((hbefore.neat hopening).append (hinner.neat htexts)).append (hafter.neat hclosing)

theorem Value.neat (h : Value cs) : Neat (¬ IsCapital ·) cs := by
  have hword : ∀ t ∈ ["null".toList, "true".toList, "false".toList], ∀ c ∈ t,
      c ≠ '"' ∧ ¬ IsCapital c := by simp [IsCapital]
  induction h with
  | null | yes | no => exact .plain (hword _ (by decide))
  | number h => exact h.neat
  | quoted h => exact neat_quoted h
  | array hitems h ih => exact h.neat (by decide) (by decide) ih
  | object hnames hcolons hvalues h ih =>
    refine h.neat (by decide) (by decide) (List.forall_mem_map.2 fun m hm => ?_)
    exact ((neat_quoted (hnames m hm)).append ((hcolons m hm).neat (by decide))).append (ih m hm)

theorem Conforms.neat (h : Conforms cs) : Neat (¬ IsCapital ·) cs := by
  obtain ⟨before, value, after, hbefore, hvalue, hafter, rfl⟩ := h
  exact (hbefore.neat.append hvalue.neat).append hafter.neat

end Grammar

/-! ## Documents -/

variable {d : Document} {cs : List Char}

/-- A text that belongs to the grammar has no word outside quotes, so that no value is one. -/
theorem isFinite_of_conforms (h : Json.write d = .ok cs) (hconforms : Grammar.Conforms cs)
    {x : Double} (hx : .value (.float x) ∈ d.parts) : x.isFinite = true := by
  -- a word would bring a capital letter out of quotes, where the grammar has none
  by_contra hfinite
  obtain ⟨t, ht, hsubset⟩ := bare_subset_write d h hx
  obtain rfl : Json.float x = t := Except.ok.inj ht
  have hcapital : ∀ w ∈ Grammar.words, (∀ c ∈ w, c ≠ '"') ∧ ∃ c ∈ w, IsCapital c := by
    simp [Grammar.words, IsCapital]
  obtain ⟨hplain, c, hc, hcapital⟩ :=
    hcapital _ (Grammar.float_mem_words (Bool.eq_false_iff.2 hfinite))
  rw [bare_of_plain hplain] at hsubset
  exact hconforms.neat.all_bare c (hsubset hc) hcapital

/-- The text that bytes hold, if it belongs to the grammar. -/
def IsJson (b : Bytes) : Prop := ∃ s, Text.decode? b = some s ∧ Grammar.Conforms s.toList

theorem isJson_encode (s : String) : IsJson (Text.encode s) ↔ Grammar.Conforms s.toList := by
  simp [IsJson]

/-- **Numbers that are not finite are all that is not JSON.** The bytes of a document that has some
are JSON exactly if every number that stands in it as a value is finite. -/
theorem jsonBytes_conforms_iff {b : Bytes} (h : Artifact.jsonBytes d = .ok b) :
    IsJson b ↔ ∀ x, .value (.float x) ∈ d.parts → x.isFinite = true := by
  obtain ⟨cs, hwrite, rfl⟩ := Artifact.jsonBytes_eq_ok_iff.1 h
  rw [isJson_encode, String.toList_ofList]
  exact ⟨fun hconforms x hx => isFinite_of_conforms hwrite hconforms hx,
    fun hfinite => (Grammar.value_write d hwrite hfinite).conforms⟩

/-- Negative zero and a whole number. -/
def finiteNumbers : Document :=
  .dict [(.str "a", .tuple [.float ⟨0x8000000000000000⟩, .int (-3)])]

theorem finiteNumbers_conform :
    ∃ b, Artifact.jsonBytes finiteNumbers = .ok b ∧ IsJson b := by
  have hbytes : Artifact.jsonBytes finiteNumbers
      = .ok (Text.encode "\x7b\"a\":[-0.0,-3]\x7d") := rfl
  refine ⟨_, hbytes, (jsonBytes_conforms_iff hbytes).2 fun x hx => ?_⟩
  obtain rfl : x = ⟨0x8000000000000000⟩ := by
    simpa [finiteNumbers, parts, parts.partsOfMembers, parts.partsOfItems] using hx
  decide

/-- A dictionary whose only member is not a number. -/
def noNumber : Document := .dict [(.str "a", .float ⟨0x7ff8000000000000⟩)]

/-- Its key is a text and it is written, but not as JSON. -/
theorem noNumber_does_not_conform :
    (∀ k, .key k ∈ noNumber.parts → ∃ s, k = .str s)
      ∧ Artifact.jsonBytes noNumber = .ok (Text.encode "\x7b\"a\":NaN\x7d")
      ∧ ¬ IsJson (Text.encode "\x7b\"a\":NaN\x7d") := by
  refine ⟨fun k hk => ?_, rfl, fun hjson => ?_⟩
  · exact ⟨"a", by simpa [noNumber, parts, parts.partsOfMembers] using hk⟩
  · have hwrite : Json.write noNumber = .ok "\x7b\"a\":NaN\x7d".toList := rfl
    have hfinite : (⟨0x7ff8000000000000⟩ : Double).isFinite = true :=
      isFinite_of_conforms hwrite ((isJson_encode _).1 hjson)
        (by simp [noNumber, parts, parts.partsOfMembers])
    exact absurd hfinite (by decide)

end ContractBuild.Document
