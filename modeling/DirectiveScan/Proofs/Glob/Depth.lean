import DirectiveScan.Proofs.File.Twin
import DirectiveScan.Proofs.Glob.Bound

namespace DirectiveScan

/-! How deep a file system is.

Every name on the way down leads to a smaller tree or through a link, and the number of
links is limited. No way down from a site of a closed tree is therefore longer than the tree
is large and the links are many. -/

namespace FileNode

theorem size_pos (node : FileNode) : 0 < node.size := by
  cases node <;> simp [size]

theorem size_le_of_lookup {entries : List (String × FileNode)} {name : String}
    {child : FileNode} (found : entries.lookup name = some child) :
    child.size ≤ sizeOfEntries entries := by
  induction entries with
  | nil => cases found
  | cons first rest induction =>
      rcases first with ⟨other, node⟩
      rw [List.lookup_cons] at found
      rw [sizeOfEntries]
      split at found
      · cases found
        omega
      · have := induction found
        omega

theorem size_le_of_descendant? {tree found : FileNode} {names : List String}
    (isFound : tree.descendant? names = some found) : found.size ≤ tree.size := by
  induction names generalizing tree with
  | nil =>
      cases isFound
      exact Nat.le_refl _
  | cons name names induction =>
      rcases Option.bind_eq_some_iff.mp isFound with ⟨child, isChild, isFound⟩
      have below := induction isFound
      cases tree with
      | file text? => cases isChild
      | link target => cases isChild
      | locked => cases isChild
      | directory entries =>
          have smaller : child.size ≤ sizeOfEntries entries := size_le_of_lookup isChild
          rw [size]
          omega

end FileNode

namespace FileSystem

variable {root : FileNode} {links left : Nat} {here there pieces more : List String}
  {node : FileNode}

theorem LeadsTo.step_append (leads : LeadsTo root links here pieces left there node)
    (notEmpty : more ≠ []) (followsEnd : Bool) (rest : List String) :
    follow root followsEnd links here (pieces ++ more ++ rest) =
      follow root followsEnd left there (more ++ rest) := by
  rw [List.append_assoc]
  exact leads.onward followsEnd _ (by simp [notEmpty])

/-- What is left of the way down from a node, with the links that are left. -/
def room (root : FileNode) (left : Nat) (node : FileNode) : Nat :=
  left * (root.size + 1) + node.size

/-- A name leads nowhere, or there is less room behind it. -/
theorem room_lt {others : List (String × FileNode)}
    (isDirectory : root.descendant? there = some (.directory others)) {name : String}
    (named : Path.isName name = true) :
    LeadsNowhere root left there [name] ∨
      ∃ further place next, LeadsTo root left there [name] further place next ∧
        room root further next < room root left (.directory others) := by
  rcases FileSystem.leads root left there [name] with ⟨further, place, next, leadsTo⟩ | nowhere
  · refine .inr ?_
    have found := leadsTo.found
    rw [follow_cons isDirectory] at found
    cases move : Move.of name (.directory others) with
    | refuse failure =>
        rw [move] at found
        cases found
    | stay => cases (Path.isSignificant_of_isName named).symm.trans (Move.condition_of_eq move)
    | up => exact absurd (Move.condition_of_eq move).1 (Path.ne_parent_of_isName named)
    | missing =>
        rw [move] at found
        cases found
    | down =>
        rcases (Move.condition_of_eq move).2.2 with ⟨child, isChild, _⟩
        have isNode : root.descendant? (there ++ [name]) = some child := by
          rw [FileNode.descendant?_concat, isDirectory]
          exact isChild
        simp only [move, follow_nil isNode, Except.ok.injEq, Place.occupied.injEq] at found
        rcases found with ⟨rfl, rfl⟩
        refine ⟨further, _, child, leadsTo, ?_⟩
        have size : child.size ≤ FileNode.sizeOfEntries others :=
          FileNode.size_le_of_lookup isChild
        have product := Nat.mul_le_mul_right (root.size + 1) leadsTo.fewer
        rw [room, room, FileNode.size]
        omega
    | jump target =>
        have jump (followsEnd : Bool) (rest : List String)
            (goesOn : followsEnd = true ∨ rest ≠ []) :=
          @follow_jump root left there _ name target isDirectory move followsEnd rest goesOn
        rw [← follow_cons isDirectory, jump true [] (.inl rfl)] at found
        cases left with
        | zero => cases found
        | succ fewer =>
            rw [List.append_nil] at found
            rcases leadsTo_of_found found with ⟨remaining, behind⟩
            refine ⟨remaining, place, next, behind.of_step (Nat.le_succ fewer) jump, ?_⟩
            have size := FileNode.size_le_of_descendant? behind.isNode
            have product := Nat.mul_le_mul_right (root.size + 1) behind.fewer
            rw [room, room, FileNode.size, Nat.succ_mul]
            omega
  · exact .inl nowhere

end FileSystem

namespace Site

open FileSystem Glob

variable {entries : List (String × FileNode)} {linked : Bool} {first second : Site entries}

/-! ## A tree on its own -/

/-- A tail that ends with a name. -/
structure EndsWith (below : Path) (name : String) : Prop where
  tail : IsTail below
  named : Path.isName name = true
  ends : below.body.getLast? = some name

theorem endsWith_join {below : Path} (tail : IsTail below) {name : String}
    (named : Path.isName name = true) : EndsWith (below.join ⟨name⟩) name := by
  have free := Path.not_mem_of_isName named
  refine ⟨isTail_join tail free (Path.ne_parent_of_isName named), named, ?_⟩
  have ⟨relative, isBody⟩ := Path.body_of_not_mem free
  rcases Path.exists_front below with ⟨front, _, joined⟩
  rw [joined _ relative, isBody, List.getLast?_concat]

theorem exists_entry_of_mem_namesIn {system : FileSystem} {path : Path}
    {others : List (String × FileNode)} (found : system.node path = .ok (.directory others))
    {name : String} (member : name ∈ namesIn system path) :
    ∃ child, (name, child) ∈ others := by
  rw [namesIn, found, List.mem_mergeSort] at member
  rcases List.mem_map.mp member with ⟨⟨_, child⟩, isEntry, rfl⟩
  exact ⟨child, isEntry⟩

/-- In a tree on its own, a directory is found where its path leads. -/
theorem found_of_node_alone {below : Path} (tail : IsTail below) {node : FileNode}
    (isNode : (alone entries).system.node ((alone entries).base.join below) = .ok node) :
    ∃ there, follow (.directory entries) true linkLimit [] below.body =
      .ok (.occupied there node) := by
  rw [FileSystem.node_of_isAbsolute _ (isAbsolute_join _ tail.relative)] at isNode
  split at isNode
  · cases isNode
  · rw [body_join _ tail.relative] at isNode
    exact exists_occupied isNode

theorem isListable_of_nowhere {below : Path} (tail : IsTail below)
    (nowhere : LeadsNowhere (.directory entries) linkLimit [] below.body) :
    (alone entries).system.isListable ((alone entries).base.join below) = false := by
  cases isListable : (alone entries).system.isListable ((alone entries).base.join below) with
  | false => rfl
  | true =>
      rcases node_of_isListable isListable with ⟨others, found⟩
      rcases found_of_node_alone tail found with ⟨there, alsoFound⟩
      exact absurd alsoFound (nowhere.nothing there _)

/-- Below a tail that ends with a name, no way down is longer than there is room for. -/
theorem shallow_alone (closed : FileNode.entriesClosed linked 0 entries = true) {depth : Nat}
    {below : Path} {last : String} (ends : EndsWith below last) {left : Nat}
    {there : List String} {node : FileNode}
    (leads : LeadsTo (.directory entries) linkLimit [] below.body left there node)
    (enough : room (.directory entries) left node ≤ depth) :
    Shallow (alone entries).system depth ((alone entries).base.join below) := by
  induction depth generalizing below last left there node with
  | zero =>
      have := node.size_pos
      rw [room] at enough
      omega
  | succ depth induction =>
      intro isListable name member
      rcases node_of_isListable isListable with ⟨others, found⟩
      rcases found_of_node_alone ends.tail found with ⟨_, alsoFound⟩
      cases leads.found.symm.trans alsoFound
      have othersClosed := FileNode.entriesClosed_of_descendant? closed leads.isNode
      rcases exists_entry_of_mem_namesIn found member with ⟨child, isEntry⟩
      have named : Path.isName name = true := FileNode.isName_of_mem othersClosed isEntry
      have free := Path.not_mem_of_isName named
      have ⟨relative, isBody⟩ := Path.body_of_not_mem free
      have joined := Path.body_join_of_getLast? ends.named ends.ends relative
      rw [isBody] at joined
      rw [step_of_isAbsolute (isAbsolute_join _ ends.tail.relative),
        base_join_join _ ends.tail free]
      have nextEnds := endsWith_join ends.tail named
      rcases @room_lt _ left _ _ leads.isNode _ named
        with nowhere | ⟨further, place, next, onward, less⟩
      · have leadsNowhere := nowhere.of_step fun followsEnd rest _ =>
          leads.step_append (by simp) followsEnd rest
        exact .of_not_listable (isListable_of_nowhere nextEnds.tail (joined ▸ leadsNowhere)) _
      · have leadsOn := onward.of_step leads.fewer fun followsEnd rest _ =>
          leads.step_append (by simp) followsEnd rest
        exact induction nextEnds (joined ▸ leadsOn) (by omega)

/-! ## All sites -/

section

variable {left right : Path} (twin : Twin first second left right)

include twin

theorem Twin.step {piece : String} (free : '/' ∉ piece.toList) (notUp : piece ≠ "..") :
    Twin first second (Glob.step left piece) (Glob.step right piece) := by
  rw [step_of_isAbsolute twin.isAbsolute_left, step_of_isAbsolute twin.symm.isAbsolute_left]
  exact twin.join free notUp

theorem Twin.step_name {name : String} (named : Path.isName name = true) :
    NamedTwin first second (Glob.step left name) (Glob.step right name) := by
  rw [step_of_isAbsolute twin.isAbsolute_left, step_of_isAbsolute twin.symm.isAbsolute_left]
  exact twin.join_name named

end

theorem Twin.namesIn_eq (comparable : Comparable linked first second) {left right : Path}
    (twin : Twin first second left right) :
    namesIn first.system left = namesIn second.system right := by
  rw [namesIn, namesIn, twin.node_eq comparable]

theorem Twin.isName_of_mem_namesIn (comparable : Comparable linked first second)
    {left right : Path} (twin : Twin first second left right)
    (isListable : first.system.isListable left = true) {name : String}
    (member : name ∈ namesIn first.system left) : Path.isName name = true := by
  rcases node_of_isListable isListable with ⟨others, found⟩
  rcases twin.entriesClosed comparable found with ⟨depth, closed⟩
  rcases exists_entry_of_mem_namesIn found member with ⟨child, isEntry⟩
  exact FileNode.isName_of_mem closed isEntry

theorem shallow_of_twin (comparable : Comparable linked first second) {depth : Nat}
    {left right : Path} (twin : Twin first second left right)
    (shallow : Shallow second.system depth right) : Shallow first.system depth left := by
  have sameListable := twin.isListable_eq comparable
  induction depth generalizing left right with
  | zero => exact sameListable.trans shallow
  | succ depth induction =>
      intro isListable name member
      have next := twin.step_name (twin.isName_of_mem_namesIn comparable isListable member)
      rw [twin.namesIn_eq comparable] at member
      exact induction next.twin (shallow (sameListable ▸ isListable) name member)
        (next.twin.isListable_eq comparable)

/-- How many names a way down can have. -/
def depthOf (entries : List (String × FileNode)) : Nat :=
  (linkLimit + 1) * ((FileNode.directory entries).size + 1)

theorem shallow_alone_of_twin (comparable : Comparable linked first (alone entries))
    {left right : Path} (twin : Twin first (alone entries) left right) :
    Shallow (alone entries).system (depthOf entries) right := by
  let most := linkLimit * ((FileNode.directory entries).size + 1) +
    (FileNode.directory entries).size
  have isDepth : depthOf entries = most + 1 := by
    rw [depthOf, Nat.succ_mul]
    rfl
  have ofTail {below : Path} {name : String} (ends : EndsWith below name) :
      Shallow (alone entries).system most ((alone entries).base.join below) := by
    rcases FileSystem.leads (.directory entries) linkLimit [] below.body
      with ⟨left, there, node, leads⟩ | nowhere
    · refine shallow_alone comparable.closed ends leads ?_
      have size := FileNode.size_le_of_descendant? leads.isNode
      have product := Nat.mul_le_mul_right ((FileNode.directory entries).size + 1) leads.fewer
      rw [room]
      omega
    · exact .of_not_listable (isListable_of_nowhere ends.tail nowhere) _
  rw [isDepth]
  intro isListable name member
  have named := twin.symm.isName_of_mem_namesIn comparable.symm isListable member
  have free := Path.not_mem_of_isName named
  rw [step_of_isAbsolute twin.symm.isAbsolute_left]
  cases twin with
  | base =>
      have isTail := isTail_piece free (Path.ne_parent_of_isName named)
      refine ofTail ⟨isTail, named, ?_⟩
      rw [(Path.body_of_not_mem free).2]
      rfl
  | below tail =>
      rw [base_join_join _ tail free]
      exact ofTail (endsWith_join tail named)

/-- The paths at and below a site. -/
def Reaches (site : Site entries) (path : Path) : Prop :=
  ∃ twin, Twin site (alone entries) path twin

/-- No way down from a path at or below a site is too long. -/
theorem region (comparable : Comparable linked first (alone entries)) :
    Glob.Region first.system (depthOf entries) first.Reaches where
  shallow := by
    rintro path ⟨other, twin⟩
    exact shallow_of_twin comparable twin (shallow_alone_of_twin comparable twin)
  names := by
    rintro path ⟨other, twin⟩ isListable name member
    exact ⟨_, (twin.step_name (twin.isName_of_mem_namesIn comparable isListable member)).twin⟩
  pieces := by
    rintro path ⟨other, twin⟩ piece free notUp
    exact ⟨_, twin.step free notUp⟩
  points := by
    rintro path ⟨other, twin⟩
    exact ⟨_, twin.join (by decide) (by decide)⟩

end Site

end DirectiveScan
