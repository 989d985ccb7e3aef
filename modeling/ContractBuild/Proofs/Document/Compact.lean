import ContractBuild.Artifact.Content
import ContractBuild.Proofs.Document.Outside

/-!
# What is written is compact

A document of any kind, with keys of any kind, is written without white space that could be left
out: no control character stands in the text, no space stands outside quotes, and whatever quotes
open is closed (`jsonBytes_compact`). Control characters are written as escapes, and a space is
never one of the characters that stand outside quotes.
-/

namespace ContractBuild.Document

/-- A text on a single line, without white space that could be left out. -/
structure Compact (cs : List Char) : Prop where
  no_control : ∀ c ∈ cs, 0x20 ≤ c.toNat
  closed : cs.foldl Place.next .outside = .outside
  no_space : ' ' ∉ bare cs

variable {cs : List Char}

/-! ## No control characters -/

theorem IsBare.visible {c : Char} (h : IsBare c) : 0x20 < c.toNat := by
  rcases h with hnumeric | hfixed
  · rcases hnumeric with hdigit | hmark
    · have hrange : 48 ≤ c.toNat ∧ c.toNat ≤ 57 := Char.isDigit_iff_toNat.1 hdigit
      omega
    · have hmarks : ∀ c ∈ ['-', '+', '.', 'e', 'E'], 0x20 < c.toNat := by simp
      exact hmarks c hmark
  · have hall : fixed.all (0x20 < ·.toNat) = true := by decide
    simpa using List.all_eq_true.1 hall c hfixed

theorem Grammar.IsHex.visible {c : Char} (h : Grammar.IsHex c) : 0x20 ≤ c.toNat := by
  rcases h with hdigit | ⟨hlow, -⟩ | ⟨hlow, -⟩
  · have hrange : 48 ≤ c.toNat ∧ c.toNat ≤ 57 := Char.isDigit_iff_toNat.1 hdigit
    omega
  · have : 'a'.toNat ≤ c.toNat := hlow
    have : 'a'.toNat = 97 := rfl
    omega
  · have : 'A'.toNat ≤ c.toNat := hlow
    have : 'A'.toNat = 65 := rfl
    omega

/-- A control character has to be written as an escape. -/
theorem Grammar.Letter.no_control {l : List Char} (h : Grammar.Letter l) :
    ∀ c ∈ l, 0x20 ≤ c.toNat := by
  cases h with
  | plain hcontrol _ _ => simpa using hcontrol
  | @short c hc =>
    have hshort : ∀ c ∈ ['"', '\\', '/', 'b', 'f', 'n', 'r', 't'], 0x20 ≤ c.toNat := by simp
    exact List.forall_mem_cons.2 ⟨by decide, by simpa using hshort c hc⟩
  | code _ hdigits =>
    refine List.forall_mem_cons.2 ⟨by decide, List.forall_mem_cons.2 ⟨by decide, ?_⟩⟩
    intro c hc
    exact (hdigits c hc).visible

theorem Grammar.Quoted.no_control (h : Grammar.Quoted cs) : ∀ c ∈ cs, 0x20 ≤ c.toNat := by
  obtain ⟨letters, hletters, rfl⟩ := h
  have hinside : ∀ c ∈ letters.flatten, 0x20 ≤ c.toNat := by
    intro c hc
    obtain ⟨l, hl, hc⟩ := List.mem_flatten.1 hc
    exact (hletters l hl).no_control c hc
  have hquote : ∀ c ∈ ['"'], 0x20 ≤ c.toNat := by simp
  exact List.forall_mem_append.2 ⟨List.forall_mem_cons.2 ⟨by decide, hinside⟩, hquote⟩

theorem Assembled.no_control (h : Assembled cs) : ∀ c ∈ cs, 0x20 ≤ c.toNat := by
  induction h with
  | nil => simp
  | bare hc => simpa using Nat.le_of_lt hc.visible
  | quoted hquoted => exact hquoted.no_control
  | append _ _ hx hy => exact List.forall_mem_append.2 ⟨hx, hy⟩

/-! ## Documents -/

theorem Assembled.compact (h : Assembled cs) : Compact cs := by
  have hneat : Neat (0x20 < ·.toNat) cs := h.neat fun _ => IsBare.visible
  refine ⟨h.no_control, hneat.closed, fun hspace => ?_⟩
  exact absurd (hneat.all_bare ' ' hspace) (by decide)

/-- **Every document is written on a single line.** The bytes of a document that has some are those
of a compact text. -/
theorem jsonBytes_compact {d : Document} {b : Bytes} (h : Artifact.jsonBytes d = .ok b) :
    ∃ s, Text.decode? b = some s ∧ Compact s.toList := by
  obtain ⟨cs, hwrite, rfl⟩ := Artifact.jsonBytes_eq_ok_iff.1 h
  refine ⟨String.ofList cs, Text.decode?_encode _, ?_⟩
  rw [String.toList_ofList]
  exact (assembled_write d hwrite).compact

/-- Quotes, backslashes, blanks and control characters, in keys as well as in values. -/
def blanksEverywhere : Document :=
  .dict [(.str "a \" \\", .tuple [.str "\n \t\x00", .int (-1)]),
    (.float ⟨0x7ff8000000000000⟩, .null)]

theorem blanksEverywhere_compact :
    ∃ b, Artifact.jsonBytes blanksEverywhere = .ok b
      ∧ ∃ s, Text.decode? b = some s ∧ Compact s.toList := by
  have hbytes : Artifact.jsonBytes blanksEverywhere
      = .ok (Text.encode "\x7b\"a \\\" \\\\\":[\"\\n \\t\\u0000\",-1],\"NaN\":null\x7d") := rfl
  exact ⟨_, hbytes, jsonBytes_compact hbytes⟩

end ContractBuild.Document
