/-!
# Code lengths

How long the codes are that a block of packed bytes gives to its symbols, so that frequent symbols
have short codes. Trees are joined two at a time, the lightest first, until there is one; the depth
at which a symbol hangs in it is the length of its code. Where codes would be longer than the format
allows, shorter ones give way (`relieve`).

Among trees of one weight the lower one is joined first, and among trees of one height as well the
heap decides (`sink`), so the lengths are determined by the weights.
-/

namespace ContractBuild.Archive

/-- Trees on the way to a single one. The nodes are numbered, first the symbols and then the joints
in the order in which they were made. -/
structure Forest where
  weight : Array Nat
  height : Array Nat
  parent : Array Nat
  /-- The roots, each of them no later than its two children at twice its place. -/
  heap : Array Nat
  /-- The nodes below a joint, the last ones first. -/
  joined : List Nat

/-- Whether a tree is taken no later than another: it is lighter, or as light and no higher. -/
def noLater (weight height : Array Nat) (n m : Nat) : Bool :=
  let a := weight.getD n 0
  let b := weight.getD m 0
  a < b || (a = b && height.getD n 0 ≤ height.getD m 0)

/-- Puts a node into a heap at a place or below it, so that nothing below is taken before it. -/
def sink (weight height heap : Array Nat) (place node : Nat) : Array Nat :=
  if _h : 2 * place + 1 < heap.size then
    let left := heap.getD (2 * place + 1) 0
    let right := heap.getD (2 * place + 2) 0
    if 2 * place + 2 < heap.size && noLater weight height right left then
      if noLater weight height node right then heap.setIfInBounds place node
      else sink weight height (heap.setIfInBounds place right) (2 * place + 2) node
    else if noLater weight height node left then heap.setIfInBounds place node
    else sink weight height (heap.setIfInBounds place left) (2 * place + 1) node
  else heap.setIfInBounds place node
  termination_by heap.size - place
  decreasing_by all_goals (simp only [Array.size_setIfInBounds]; omega)

namespace Forest

/-- Every symbol that occurs is a tree of its own. -/
def ofWeights (weights : Array Nat) : Forest :=
  let height := weights.map fun _ => 0
  let symbols := (Array.range weights.size).filter fun n => weights.getD n 0 ≠ 0
  let heap := (List.range (symbols.size / 2)).reverse.foldl
    (fun heap place => sink weights height heap place (heap.getD place 0)) symbols
  { weight := weights, height, parent := height, heap, joined := [] }

/-- Joins the two trees that are taken first. -/
def join (f : Forest) : Forest :=
  let n := f.heap.getD 0 0
  let heap := sink f.weight f.height f.heap.pop 0 (f.heap.getD (f.heap.size - 1) 0)
  let m := heap.getD 0 0
  let joint := f.weight.size
  let weight := f.weight.push (f.weight.getD n 0 + f.weight.getD m 0)
  let height := f.height.push (max (f.height.getD n 0) (f.height.getD m 0) + 1)
  { weight, height
    parent := ((f.parent.setIfInBounds n joint).setIfInBounds m joint).push 0
    heap := sink weight height heap 0 joint
    joined := m :: n :: f.joined }

/-- The single tree that is left at the end. -/
def joinAll (f : Forest) : Forest := (List.range (f.heap.size - 1)).foldl (fun f _ => f.join) f

/-- The depths of the nodes of a single tree, none more than `most`, and how many nodes would hang
deeper than that. -/
def depths (f : Forest) (most : Nat) : Array Nat × Nat :=
  f.joined.foldl
    (fun (depth, tooDeep) n =>
      let d := depth.getD (f.parent.getD n 0) 0 + 1
      (depth.setIfInBounds n (min d most), if most < d then tooDeep + 1 else tooDeep))
    (f.weight.map fun _ => 0, 0)

end Forest

/-- Makes room for one code of the greatest length: one of the longest shorter codes becomes a pair
of codes that are one bit longer. -/
def relieveOne (most : Nat) (counts : Array Nat) : Array Nat :=
  let bits := ((List.range most).reverse.find? fun b => counts.getD b 0 ≠ 0).getD 0
  ((counts.modify bits (· - 1)).modify (bits + 1) (· + 2)).modify most (· - 1)

/-- How many codes of each length there are once as many nodes as were too deep have a place. -/
def relieve (most : Nat) (counts : Array Nat) : (tooDeep : Nat) → Array Nat
  | 0 => counts
  | 1 => relieveOne most counts
  | n + 2 => relieve most (relieveOne most counts) n

/-- The lengths of the codes of symbols, none more than `most`; a symbol that does not occur has
none. -/
def codeLengths (most : Nat) (weights : Array Nat) : Array Nat :=
  let f := (Forest.ofWeights weights).joinAll
  let (depth, tooDeep) := f.depths most
  let symbols := f.joined.reverse.filter (· < weights.size)
  let none := weights.map fun _ => 0
  if tooDeep = 0 then
    symbols.foldl (fun lengths n => lengths.setIfInBounds n (depth.getD n 0)) none
  else
    let counts := symbols.foldl (fun counts n => counts.modify (depth.getD n 0) (· + 1))
      (Array.replicate (most + 1) 0)
    let counts := relieve most counts tooDeep
    let longestFirst := (List.range (most + 1)).reverse.flatMap fun b =>
      List.replicate (counts.getD b 0) b
    (symbols.zip longestFirst).foldl (fun lengths (n, b) => lengths.setIfInBounds n b) none

/-- Weights of which at least two are not zero, because a code needs two symbols. -/
def withTwo (weights : Array Nat) : Array Nat :=
  match (List.range weights.size).filter fun n => weights.getD n 0 ≠ 0 with
  | [] => (weights.setIfInBounds 0 1).setIfInBounds 1 1
  | [n] => weights.setIfInBounds (if n < 2 then n + 1 else 0) 1
  | _ => weights

/-- The bits that symbols take with codes of some lengths, each followed by so many further bits. -/
def codedBits (weights lengths : Array Nat) (further : Nat → Nat) : Nat :=
  (List.range weights.size).foldl
    (fun bits n => bits + weights.getD n 0 * (lengths.getD n 0 + further n)) 0

/-! ## Lengths in the head of a block -/

/-- The symbols of a list of lengths: a length itself, a repeat of the length before, and two
repeats of zero, counted by weight. A run ends after so many lengths at `most`, and one of fewer
than `least` is not worth a repeat. -/
def countRuns : (lengths : List Nat) → (before : Option Nat) → (run most least : Nat) →
    (weights : Array Nat) → Array Nat
  | [], _, _, _, _, weights => weights
  | length :: rest, before, run, most, least, weights =>
    let run := run + 1
    let next := rest.head?
    if run < most ∧ next = some length then countRuns rest before run most least weights
    else
      let weights :=
        if run < least then weights.modify length (· + run)
        else if length ≠ 0 then
          let told := if before = some length then weights else weights.modify length (· + 1)
          told.modify 16 (· + 1)
        else if run ≤ 10 then weights.modify 17 (· + 1)
        else weights.modify 18 (· + 1)
      let (most, least) :=
        if next = some 0 then (138, 3) else if next = some length then (6, 3) else (7, 4)
      countRuns rest (some length) 0 most least weights

/-- Counts the runs in the lengths of one code, up to the last symbol that has one. -/
def countLengths (lengths weights : Array Nat) : Array Nat :=
  let listed := (lengths.toList.reverse.dropWhile (· = 0)).reverse
  let (most, least) := if listed.head? = some 0 then (138, 3) else (7, 4)
  countRuns listed none 0 most least weights

/-- The order in which the lengths of the codes for lengths stand, the likely ones first. -/
def headOrder : List Nat := [16, 17, 18, 0, 8, 7, 9, 6, 10, 5, 11, 4, 12, 3, 13, 2, 14, 1, 15]

/-- The further bits of a symbol for lengths. -/
def headFurther (n : Nat) : Nat :=
  if n = 16 then 2 else if n = 17 then 3 else if n = 18 then 7 else 0

/-- The bits of the head of a block, which tells the lengths of its two codes. -/
def headBits (literals distances : Array Nat) : Nat :=
  let weights := countLengths distances (countLengths literals (Array.replicate 19 0))
  let lengths := codeLengths 7 (withTwo weights)
  let listed := headOrder.reverse.dropWhile fun n => lengths.getD n 0 = 0
  codedBits weights lengths headFurther + 3 * max 3 listed.length + 14

end ContractBuild.Archive
