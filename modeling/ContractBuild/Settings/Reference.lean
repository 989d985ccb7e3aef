import ContractBuild.Settings.File

/-!
# References in settings files

A value may refer to another name: `${NAME}` stands for the value of the name, and
`${NAME:-default}` for the default if the name has none. Names bound earlier in the same file win
over environment variables.
-/

namespace ContractBuild.Settings.File

/-- A reference: the name and the default, if one is given. -/
structure Reference where
  name : List Char
  default : Option (List Char)
  deriving DecidableEq, Repr

/-- Reads a reference whose opening brace has been read. -/
def readReference (cs : List Char) : Option (Read Reference) :=
  let name := cs.takeWhile fun c => c ≠ '}' && c ≠ ':'
  match cs.dropWhile fun c => c ≠ '}' && c ≠ ':' with
  | '}' :: rest => some (⟨name, none⟩, rest)
  | ':' :: '-' :: more =>
    match more.dropWhile (· ≠ '}') with
    | _ :: rest => some (⟨name, some (more.takeWhile (· ≠ '}'))⟩, rest)
    | [] => none
  | _ => none

theorem length_readReference_lt {cs rest : List Char} {r : Reference}
    (h : readReference cs = some (r, rest)) : rest.length < cs.length := by
  have hd := (List.dropWhile_sublist (fun c => c ≠ '}' && c ≠ ':') (l := cs)).length_le
  unfold readReference at h
  split at h
  · next r' hr =>
    rw [hr, List.length_cons] at hd
    obtain ⟨-, rfl⟩ := Prod.mk.inj (Option.some.inj h)
    omega
  · next more hr =>
    rw [hr, List.length_cons, List.length_cons] at hd
    have hm := (List.dropWhile_sublist (· ≠ '}') (l := more)).length_le
    split at h
    · next c r' hc =>
      rw [hc, List.length_cons] at hm
      obtain ⟨-, rfl⟩ := Prod.mk.inj (Option.some.inj h)
      omega
    · exact absurd h (by simp)
  · exact absurd h (by simp)

/-- Replaces the references of a value. -/
def substitute (value : Reference → List Char) : List Char → List Char
  | '$' :: '{' :: cs =>
    match _h : readReference cs with
    | some (r, rest) => value r ++ substitute value rest
    | none => '$' :: '{' :: substitute value cs
  | c :: cs => c :: substitute value cs
  | [] => []
  termination_by cs => cs.length
  decreasing_by
    · have := length_readReference_lt _h
      simp only [List.length_cons]
      omega
    · simp only [List.length_cons]
      omega
    · simp

/-- The values of a file's names, in the order in which the names first occur. -/
abbrev Values := List (String × Option String)

/-- Binds a name. A name that is bound anew keeps its place. -/
def Values.bind : Values → String → Option String → Values
  | [], name, value => [(name, value)]
  | (n, v) :: rest, name, value =>
    if n = name then (n, value) :: rest else (n, v) :: Values.bind rest name value

/-- The value of a reference. A name bound to nothing has the empty value, whatever the default. -/
def Values.resolve (vs : Values) (environment : List (String × String)) (r : Reference) :
    List Char :=
  let name := String.ofList r.name
  match vs.lookup name with
  | some v => (v.getD "").toList
  | none =>
    match environment.lookup name with
    | some v => v.toList
    | none => r.default.getD []

/-- Adds a binding, with its references replaced. -/
def Values.add (environment : List (String × String)) (vs : Values) (b : Binding) : Values :=
  vs.bind b.name (b.value.map fun v =>
    String.ofList (substitute (vs.resolve environment) v.toList))

/-- The values that a file gives its names. -/
def values (environment : List (String × String)) (text : String) : Values :=
  (bindings text).foldl (Values.add environment) []

end ContractBuild.Settings.File
