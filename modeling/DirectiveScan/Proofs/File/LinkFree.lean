import DirectiveScan.Proofs.File.Stored

namespace DirectiveScan

/-! Trees without links.

Where nothing is a link, a path leads to the place that its pieces spell, and all paths that
spell one place lead to the same node. -/

namespace FileNode

mutual

def isLinkFree : FileNode → Bool
  | file _ => true
  | link _ => false
  | locked => true
  | directory entries => entriesLinkFree entries

def entriesLinkFree : List (String × FileNode) → Bool
  | [] => true
  | (_, node) :: rest => node.isLinkFree && entriesLinkFree rest

end

theorem isLinkFree_of_lookup {entries : List (String × FileNode)}
    (linkFree : entriesLinkFree entries = true) {name : String} {node : FileNode}
    (found : entries.lookup name = some node) : node.isLinkFree = true := by
  induction entries with
  | nil => cases found
  | cons entry rest induction =>
      rw [entriesLinkFree, Bool.and_eq_true] at linkFree
      rw [List.lookup_cons] at found
      split at found
      · cases found
        exact linkFree.1
      · exact induction linkFree.2 found

theorem isLinkFree_of_entry {node child : FileNode} (linkFree : node.isLinkFree = true)
    {name : String} (found : node.entries.lookup name = some child) :
    child.isLinkFree = true := by
  rcases eq_directory_of_isListable (isListable_of_lookup found) with ⟨entries, rfl⟩
  exact isLinkFree_of_lookup linkFree found

theorem isLinkFree_of_descendant? {tree node : FileNode} (linkFree : tree.isLinkFree = true)
    {names : List String} (found : tree.descendant? names = some node) :
    node.isLinkFree = true := by
  apply holds_descendant? (fun entries name child linkFree isChild => ?_) linkFree found
  exact isLinkFree_of_lookup linkFree isChild

end FileNode

namespace FileSystem

section

variable {root : FileNode} (linkFree : root.isLinkFree = true)

include linkFree

/-- Without links, pieces lead where they turn to. -/
theorem eq_foldl_turn_of_follow {followsEnd : Bool} {links : Nat} {here pieces there : List String}
    {node : FileNode}
    (found : follow root followsEnd links here pieces = .ok (.occupied there node)) :
    there = pieces.foldl Path.turn here ∧ root.descendant? there = some node := by
  induction pieces generalizing here with
  | nil =>
      rw [follow_eq, followWith] at found
      split at found
      · next isNode =>
          cases found
          exact ⟨rfl, isNode⟩
      · cases found
  | cons piece pieces induction =>
      cases isNode : root.descendant? here with
      | none =>
          rw [follow_cons_of_none isNode] at found
          cases found
      | some node =>
          have condition := Move.condition node piece
          rw [follow_cons isNode] at found
          rw [List.foldl_cons, Path.turn]
          cases move : Move.of piece node with
          | refuse failure => rw [move] at found; cases found
          | stay =>
              rw [move] at found condition
              have notCounted : ¬Path.isSignificant piece = true := by
                rw [show Path.isSignificant piece = false from condition]
                exact Bool.false_ne_true
              rw [if_pos (Decidable.of_not_not (mt (Path.isSignificant_iff piece).mpr notCounted))]
              exact induction found
          | up =>
              rw [move] at found condition
              cases condition.1
              exact induction found
          | missing =>
              rw [move] at found
              cases pieces <;> cases found
          | jump target =>
              rw [move] at condition
              have isLink := FileNode.isLinkFree_of_entry
                (FileNode.isLinkFree_of_descendant? linkFree isNode) condition.2.2
              cases isLink
          | down =>
              rw [move] at found condition
              rw [if_neg ((Path.isSignificant_iff piece).mp condition.1), if_neg condition.2.1]
              exact induction found

end

section

variable {system : FileSystem} (linkFree : system.root.isLinkFree = true) {path : Path}
  (absolute : path.isAbsolute = true) {node : FileNode}

include linkFree absolute

theorem descendant?_of_outcome {followsEnd : Bool}
    (found : outcome (system.locate followsEnd path) = .ok node) :
    system.root.descendant? (path.arrival []) = some node := by
  rw [locate] at found
  split at found
  · cases found
  split at found
  · cases found
  rcases exists_occupied found with ⟨there, occupied⟩
  rw [Path.join_of_isAbsolute absolute] at occupied
  rcases eq_foldl_turn_of_follow linkFree occupied with ⟨isThere, isNode⟩
  rwa [isThere, Path.foldl_turn_body] at isNode

/-- What stands at a path is at the place that the path spells. -/
theorem descendant?_of_entry (isEntry : system.entry path = .ok node) :
    system.root.descendant? (path.arrival []) = some node :=
  descendant?_of_outcome linkFree absolute (system.entry_eq_outcome path ▸ isEntry)

theorem descendant?_of_node (isNode : system.node path = .ok node) :
    system.root.descendant? (path.arrival []) = some node :=
  descendant?_of_outcome linkFree absolute (system.node_eq_outcome path ▸ isNode)

theorem entry_of_node (isNode : system.node path = .ok node) : system.entry path = .ok node := by
  rcases system.entry_eq_node_or_link path with same | ⟨target, isLink⟩
  · rw [same, isNode]
  · have noLink := FileNode.isLinkFree_of_descendant? linkFree
      (descendant?_of_entry linkFree absolute isLink)
    cases noLink

theorem walk_of_node (isNode : system.node path = .ok node) :
    system.walk path = node.walk path := by
  rw [walk, entry_of_node linkFree absolute isNode, isNode]
  cases node <;> rfl

/-- A walk from a path finds everything at the places below it. -/
theorem mem_walk_of_descendant? (isNode : system.node path = .ok node) {names : List String}
    {found : FileNode}
    (isFound : system.root.descendant? (path.arrival [] ++ names) = some found) :
    .ok (path.descend names, found) ∈ system.walk path := by
  rw [FileNode.descendant?_append, descendant?_of_node linkFree absolute isNode] at isFound
  rw [walk_of_node linkFree absolute isNode]
  exact FileNode.mem_walk_of_descendant? isFound

end

end FileSystem

end DirectiveScan
