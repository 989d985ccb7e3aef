import ContractBuild.Path.Basic

/-!
# Absolute paths

`absolute_path` of the program. A path given by a user becomes absolute in three steps: a leading
`~` names a home directory, a relative path continues from a base directory, and `..` removes the
part before it. The last step looks at the text alone, never at what the parts name, so behind a
link it may lead elsewhere than the operating system would.

Only a first part can be a `~`, and it is looked for in the path and not in the text: `./~` has
been read as `~` by then. A home directory that is unknown is a failure (`HomeFault`), as is one
that itself starts with `~`; what the homes are is up to the host (`Homes`).

`normalize` folds the parts over a stack, and `pushPart` is one step of it: a `..` takes the top
of the stack away, is dropped at an anchor, and piles up in front of a relative path.
`mem_of_mem_foldl_pushPart` is the one fact about this fold that the type of paths asks for:
whatever is kept was a part before.
-/

namespace ContractBuild

/-- The home directories that a leading `~` may name. -/
structure Homes where
  /-- The home directory of whoever runs the program. -/
  current : String
  /-- Login names and their home directories. -/
  users : List (String × String) := []
  deriving Repr, Inhabited

namespace Path

/-- Why a leading `~` names no directory. -/
inductive HomeFault where
  /-- No such user, or the home directory is itself unknown. -/
  | unknown
  /-- The null character occurs in the login name. -/
  | nul
  deriving DecidableEq, Repr

/-- The directory that a first part names if it starts with `~`, without trailing slashes. -/
def homeText (homes : Homes) (user : List Char) : Except HomeFault String :=
  let home : Option String :=
    if user.isEmpty then some homes.current else homes.users.lookup (String.ofList user)
  if user.contains '\x00' then .error .nul
  else
    match home with
    | none => .error .unknown
    | some home =>
      let trimmed := (home.toList.reverse.dropWhile (· = '/')).reverse
      match trimmed with
      | [] => .ok "/"
      | c :: _ => if c = '~' then .error .unknown else .ok (String.ofList trimmed)

/-- Replaces a first part that starts with `~` by the home directory that it names. -/
def expandHome (homes : Homes) (p : Path) : Except HomeFault Path :=
  match p.anchor, p.parts, p.isPart with
  | .relative, first :: rest, h =>
    match first.toList with
    | '~' :: user =>
      (homeText homes user).map fun home =>
        let base := ofText home
        { anchor := base.anchor
          parts := base.parts ++ rest
          isPart := fun s hs => (List.mem_append.1 hs).elim (base.isPart s)
            (fun hr => h s (List.mem_cons_of_mem _ hr)) }
    | _ => .ok p
  | _, _, _ => .ok p

/-- One step of normalisation: `stack` holds the parts kept so far, the last one first. Behind an
anchor a leading `..` is dropped; in a relative path it is kept. -/
def pushPart (anchored : Bool) (stack : List String) (part : String) : List String :=
  if part = ".." then
    match stack with
    | [] => if anchored then [] else [".."]
    | last :: rest => if last = ".." then ".." :: last :: rest else rest
  else part :: stack

/-- Every part that normalisation keeps was there before. -/
theorem mem_of_mem_foldl_pushPart {anchored : Bool} {s : String} :
    ∀ (parts stack : List String), s ∈ parts.foldl (pushPart anchored) stack →
      s ∈ stack ∨ s ∈ parts
  | [], _, h => .inl h
  | part :: parts, stack, h => by
    rcases mem_of_mem_foldl_pushPart parts _ h with h | h
    · unfold pushPart at h
      split at h
      · next hp =>
        split at h
        · split at h <;> simp_all
        · split at h <;> simp_all
      · rcases List.mem_cons.1 h with rfl | h
        · exact .inr (List.mem_cons_self ..)
        · exact .inl h
    · exact .inr (List.mem_cons_of_mem _ h)

/-- The path without `..` wherever a part before it can be removed. -/
def normalize (p : Path) : Path where
  anchor := p.anchor
  parts := (p.parts.foldl (pushPart p.isAbsolute) []).reverse
  isPart s hs := by
    rcases mem_of_mem_foldl_pushPart _ _ (List.mem_reverse.1 hs) with h | h
    · simp at h
    · exact p.isPart s h

/-- The absolute, normalised form of a path that is relative to `base`. -/
def absolute (homes : Homes) (p base : Path) : Except HomeFault Path :=
  (expandHome homes p).map fun q => (base.join q).normalize

end Path

end ContractBuild
