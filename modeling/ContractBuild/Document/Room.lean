import ContractBuild.Failure.Basic

/-!
# Room for values

How large a value can be that is made by repeating something. A count must be a number of 64 bits,
the size must be one too, and there must be room for it.
-/

namespace ContractBuild.Document

/-- The greatest size that a value can have. -/
def mostSize : Nat := 9223372036854775807

/-- What bytes take beside their content. -/
def bytesHead : Nat := 33

/-- A size for which there is no room. -/
def room : Nat := 4294967296

/-- So many zero bytes. -/
def zeros (n : Int) : Except Misuse Bytes :=
  if !fits64 n then .error .hugeCount
  else if n < 0 then .error .negativeCount
  else if mostSize - bytesHead < n.toNat then .error .tooManyBytes
  else if room ≤ n.toNat then .error .outOfMemory
  else .ok (List.replicate n.toNat 0)

/-- A text repeated so many times; a negative number counts as zero. -/
def repeated (s : String) (n : Int) : Except Misuse String :=
  if !fits64 n then .error .hugeCount
  else if mostSize < s.length * n.toNat then .error .tooManyRepeats
  else if room ≤ s.length * n.toNat then .error .outOfMemory
  else .ok (String.join (List.replicate (if s = "" then 0 else n.toNat) s))

end ContractBuild.Document
