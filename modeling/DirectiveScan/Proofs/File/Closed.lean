import DirectiveScan.Proofs.File.Lookup

namespace DirectiveScan

/-! Trees that no link leads out of.

The main statement is that two file systems which hold the same closed tree lead to the
same nodes from the places of the tree on. -/

/-! ## Closed trees -/

/-- Whether pieces do not lead out of a directory that is so many names deep. They may
lead up before the first name, and not any more after it. -/
def Path.staysAt : Nat → List String → Bool
  | _, [] => true
  | depth, piece :: rest =>
      if !isSignificant piece then staysAt depth rest
      else if piece = ".." then depth != 0 && staysAt (depth - 1) rest
      else rest.all (· != "..")

namespace Path

theorem staysAt_skipped {piece : String} (skipped : isSignificant piece = false) (depth : Nat)
    (rest : List String) : staysAt depth (piece :: rest) = staysAt depth rest := by
  rw [staysAt, if_pos (by simp [skipped])]

theorem staysAt_up (depth : Nat) (rest : List String) :
    staysAt depth (".." :: rest) = (depth != 0 && staysAt (depth - 1) rest) := by
  rw [staysAt, if_neg (by decide), if_pos rfl]

theorem staysAt_name {piece : String} (counts : isSignificant piece = true) (notUp : piece ≠ "..")
    (depth : Nat) (rest : List String) :
    staysAt depth (piece :: rest) = rest.all (· != "..") := by
  rw [staysAt, if_neg (by simp [counts]), if_neg notUp]

theorem staysAt_of_free {depth : Nat} {pieces : List String}
    (free : pieces.all (· != "..") = true) : staysAt depth pieces = true := by
  induction pieces with
  | nil => rfl
  | cons piece rest induction =>
      rw [List.all_cons, Bool.and_eq_true, bne_iff_ne] at free
      cases counts : isSignificant piece with
      | false =>
          rw [staysAt_skipped counts]
          exact induction free.2
      | true =>
          rw [staysAt_name counts free.1]
          exact free.2

theorem staysAt_append {depth : Nat} {pieces rest : List String}
    (stays : staysAt depth pieces = true) (free : rest.all (· != "..") = true) :
    staysAt depth (pieces ++ rest) = true := by
  induction pieces generalizing depth with
  | nil => exact staysAt_of_free free
  | cons piece pieces induction =>
      rw [List.cons_append]
      cases counts : isSignificant piece with
      | false =>
          rw [staysAt_skipped counts] at stays ⊢
          exact induction stays
      | true =>
          by_cases isUp : piece = ".."
          · rw [isUp, staysAt_up, Bool.and_eq_true] at stays ⊢
            exact ⟨stays.1, induction stays.2⟩
          · rw [staysAt_name counts isUp] at stays ⊢
            rw [List.all_append, stays, free]
            rfl

end Path

namespace FileNode

mutual

/-- Whether everything below a directory has a name, and every link leads to a place in the
tree, as seen from a directory that is so many names deep in the tree. -/
def isClosed (linked : Bool) (depth : Nat) : FileNode → Bool
  | file _ => true
  | locked => true
  | link target => linked && !target.isAbsolute && Path.staysAt depth target.body
  | directory entries => entriesClosed linked (depth + 1) entries

def entriesClosed (linked : Bool) (depth : Nat) : List (String × FileNode) → Bool
  | [] => true
  | (name, node) :: rest =>
      Path.isName name && node.isClosed linked depth && entriesClosed linked depth rest

end

variable {linked : Bool} {depth : Nat} {entries : List (String × FileNode)}

theorem isName_of_mem (closed : entriesClosed linked depth entries = true)
    {entry : String × FileNode} (member : entry ∈ entries) : Path.isName entry.1 = true := by
  induction entries with
  | nil => cases member
  | cons first rest induction =>
      rw [entriesClosed, Bool.and_eq_true, Bool.and_eq_true] at closed
      rcases List.mem_cons.mp member with rfl | inRest
      · exact closed.1.1
      · exact induction closed.2 inRest

theorem isClosed_of_lookup (closed : entriesClosed linked depth entries = true)
    {name : String} {child : FileNode} (found : entries.lookup name = some child) :
    child.isClosed linked depth = true := by
  induction entries with
  | nil => cases found
  | cons first rest induction =>
      rw [entriesClosed, Bool.and_eq_true, Bool.and_eq_true] at closed
      rw [List.lookup_cons] at found
      split at found
      · cases found
        exact closed.1.2
      · exact induction closed.2 found

/-- Every link in a closed tree leads to a place in the tree. -/
theorem link_of_lookup (closed : entriesClosed linked depth entries = true) {name : String}
    {target : Path} (found : entries.lookup name = some (.link target)) :
    linked = true ∧ target.isAbsolute = false ∧ Path.staysAt depth target.body = true := by
  have linkClosed := isClosed_of_lookup closed found
  rw [isClosed, Bool.and_eq_true, Bool.and_eq_true, Bool.not_eq_true'] at linkClosed
  exact ⟨linkClosed.1.1, linkClosed.1.2, linkClosed.2⟩

/-- Every directory in a closed tree is closed. -/
theorem entriesClosed_of_descendant? (closed : entriesClosed linked depth entries = true)
    {inner : List String} {others : List (String × FileNode)}
    (found : (directory entries).descendant? inner = some (.directory others)) :
    entriesClosed linked (depth + inner.length) others = true := by
  induction inner generalizing depth entries with
  | nil =>
      cases found
      exact closed
  | cons name names induction =>
      rcases Option.bind_eq_some_iff.mp found with ⟨child, isChild, found⟩
      have childClosed := isClosed_of_lookup closed isChild
      cases child with
      | file text? => cases names <;> cases found
      | link target => cases names <;> cases found
      | locked => cases names <;> cases found
      | directory inside =>
          have := induction childClosed found
          rwa [Nat.add_assoc, Nat.add_comm 1] at this

theorem link_of_descendant? (closed : entriesClosed linked 0 entries = true)
    {inner : List String} {node : FileNode}
    (found : (directory entries).descendant? inner = some node) {name : String} {target : Path}
    (isLink : node.entries.lookup name = some (.link target)) :
    linked = true ∧ target.isAbsolute = false ∧
      Path.staysAt inner.length target.body = true := by
  cases node with
  | file text? => cases isLink
  | link target => cases isLink
  | locked => cases isLink
  | directory others =>
      have othersClosed := entriesClosed_of_descendant? closed found
      rw [Nat.zero_add] at othersClosed
      exact link_of_lookup othersClosed isLink

end FileNode

/-! ## The same tree in two file systems -/

namespace FileSystem

section

variable {linked : Bool} {entries : List (String × FileNode)} {first second : FileNode}
  {firstPlace secondPlace : List String}

/-- From the places of a closed tree, the same pieces lead to the same nodes. -/
theorem outcome_follow_eq (closed : FileNode.entriesClosed linked 0 entries = true)
    (isFirst : first.descendant? firstPlace = some (.directory entries))
    (isSecond : second.descendant? secondPlace = some (.directory entries))
    (followsEnd : Bool) {firstLinks secondLinks : Nat}
    (sameLinks : linked = true → firstLinks = secondLinks) {inner pieces : List String}
    (stays : Path.staysAt inner.length pieces = true) :
    outcome (follow first followsEnd firstLinks (firstPlace ++ inner) pieces) =
      outcome (follow second followsEnd secondLinks (secondPlace ++ inner) pieces) := by
  have isInner (inner : List String) : first.descendant? (firstPlace ++ inner) =
      second.descendant? (secondPlace ++ inner) := by
    rw [FileNode.descendant?_append, FileNode.descendant?_append, isFirst, isSecond]
  have below (inner : List String) : first.descendant? (firstPlace ++ inner) =
      (FileNode.directory entries).descendant? inner := by
    rw [FileNode.descendant?_append, isFirst]
    rfl
  induction firstLinks using Nat.strongRecOn generalizing secondLinks inner pieces with
  | ind firstLinks jumps =>
  induction pieces generalizing inner with
  | nil => simp only [follow_eq, followWith, isInner inner]; cases second.descendant? _ <;> rfl
  | cons piece pieces induction =>
      cases isNode : first.descendant? (firstPlace ++ inner) with
      | none =>
          rw [follow_cons_of_none isNode, follow_cons_of_none ((isInner inner).symm.trans isNode)]
      | some node =>
          rw [follow_cons isNode, follow_cons ((isInner inner).symm.trans isNode)]
          cases move : Move.of piece node with
          | refuse failure => rfl
          | stay =>
              rw [Path.staysAt_skipped (Move.condition_of_eq move)] at stays
              exact induction stays
          | up =>
              have isUp : piece = ".." := (Move.condition_of_eq move).1
              rw [isUp, Path.staysAt_up, Bool.and_eq_true] at stays
              have notEmpty : inner ≠ [] := by
                rintro rfl
                exact absurd stays.1 (by decide)
              simp only [List.dropLast_append_of_ne_nil notEmpty]
              exact induction (by rw [List.length_dropLast]; exact stays.2)
          | missing => cases pieces <;> rfl
          | jump target =>
              rcases Move.condition_of_eq move with ⟨counts, notUp, isLink⟩
              rw [Path.staysAt_name counts notUp] at stays
              rcases FileNode.link_of_descendant? closed ((below inner).symm.trans isNode) isLink
                with ⟨isLinked, relative, targetStays⟩
              cases sameLinks isLinked
              simp only [relative]
              split
              · rfl
              · cases firstLinks with
                | zero => rfl
                | succ fewer =>
                    exact jumps fewer (Nat.lt_succ_self fewer) (fun _ => rfl)
                      (Path.staysAt_append targetStays stays)
          | down =>
              rcases Move.condition_of_eq move with ⟨counts, notUp, _⟩
              rw [Path.staysAt_name counts notUp] at stays
              simp only [List.append_assoc]
              exact induction (Path.staysAt_of_free stays)

end

end FileSystem

end DirectiveScan
