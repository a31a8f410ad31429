import DirectiveScan.File.System
import DirectiveScan.Proofs.Path.Join

namespace DirectiveScan

/-! Looking things up in a file system.

What a path leads to can be found in two parts: some pieces lead to a place, and the
others are followed from there with the links that are left. -/

namespace FileNode

theorem descendant?_append (tree : FileNode) (outer inner : List String) :
    tree.descendant? (outer ++ inner) = (tree.descendant? outer).bind (·.descendant? inner) := by
  induction outer generalizing tree with
  | nil => rfl
  | cons name names induction =>
      rw [List.cons_append, descendant?, descendant?, Option.bind_assoc]
      simp only [induction]

theorem descendant?_concat (tree : FileNode) (names : List String) (name : String) :
    tree.descendant? (names ++ [name]) =
      (tree.descendant? names).bind (·.entries.lookup name) := by
  rw [descendant?_append]
  congr 1
  funext node
  rw [descendant?]
  cases node.entries.lookup name <;> rfl

/-- What passes from a directory to its entries passes down to everything below. -/
theorem holds_descendant? {property : FileNode → Prop}
    (passes : ∀ entries name child, property (.directory entries) →
      entries.lookup name = some child → property child)
    {tree node : FileNode} (holds : property tree) {names : List String}
    (found : tree.descendant? names = some node) : property node := by
  induction names generalizing tree with
  | nil => exact Option.some.inj found ▸ holds
  | cons name names induction =>
      rcases Option.bind_eq_some_iff.mp found with ⟨child, isChild, fromChild⟩
      cases tree with
      | file text? => cases isChild
      | link target => cases isChild
      | locked => cases isChild
      | directory entries => exact induction (passes entries name child holds isChild) fromChild

theorem eq_directory_of_isListable {node : FileNode} (isListable : node.isListable = true) :
    ∃ entries, node = .directory entries := by
  cases node with
  | directory entries => exact ⟨entries, rfl⟩
  | file text? => cases isListable
  | link target => cases isListable
  | locked => cases isListable

theorem isListable_of_lookup {node child : FileNode} {name : String}
    (found : node.entries.lookup name = some child) : node.isListable = true := by
  cases node with
  | directory entries => rfl
  | file text? => cases found
  | link target => cases found
  | locked => cases found

/-- What stands above a directory is a directory. -/
theorem exists_descendant?_dropLast {tree : FileNode} {names : List String}
    {entries : List (String × FileNode)}
    (isDirectory : tree.descendant? names = some (.directory entries)) :
    ∃ others, tree.descendant? names.dropLast = some (.directory others) := by
  rcases List.eq_nil_or_concat names with rfl | ⟨front, last, rfl⟩
  · exact ⟨entries, isDirectory⟩
  · rw [List.concat_eq_append, descendant?_concat, Option.bind_eq_some_iff] at isDirectory
    rcases isDirectory with ⟨outer, isOuter, isInner⟩
    rw [List.concat_eq_append, List.dropLast_concat]
    cases outer with
    | directory others => exact ⟨others, isOuter⟩
    | file text? => cases isInner
    | link target => cases isInner
    | locked => cases isInner

end FileNode

namespace FileSystem

/-- The node at a place, if there is one. -/
def outcome : Except ReadFailure Place → Except ReadFailure FileNode
  | .ok (.occupied _ node) => .ok node
  | .ok (.vacant _ _) => .error .notFound
  | .error failure => .error failure

theorem exists_occupied {reached : Except ReadFailure Place} {node : FileNode}
    (found : outcome reached = .ok node) : ∃ there, reached = .ok (.occupied there node) := by
  rcases reached with failure | there | ⟨directory, name⟩
  · cases found
  · cases found
    exact ⟨there, rfl⟩
  · cases found

theorem node_eq_outcome (system : FileSystem) (path : Path) :
    system.node path = outcome (system.locate true path) := by
  rw [node]
  cases system.locate true path with
  | error failure => rfl
  | ok place => cases place <;> rfl

theorem entry_eq_outcome (system : FileSystem) (path : Path) :
    system.entry path = outcome (system.locate false path) := by
  rw [entry]
  cases system.locate false path with
  | error failure => rfl
  | ok place => cases place <;> rfl

theorem exists_node_of_isDirectory {system : FileSystem} {path : Path}
    (isDirectory : system.isDirectory path = true) : ∃ node, system.node path = .ok node := by
  rw [FileSystem.isDirectory] at isDirectory
  cases found : system.node path with
  | error failure =>
      rw [found] at isDirectory
      cases isDirectory
  | ok node => exact ⟨node, rfl⟩

theorem node_of_isListable {system : FileSystem} {path : Path}
    (isListable : system.isListable path = true) :
    ∃ others, system.node path = .ok (.directory others) := by
  rw [FileSystem.isListable] at isListable
  cases found : system.node path with
  | error failure =>
      rw [found] at isListable
      cases isListable
  | ok node =>
      rw [found] at isListable
      rcases FileNode.eq_directory_of_isListable isListable with ⟨others, rfl⟩
      exact ⟨others, rfl⟩

/-! ## One step -/

/-- What a piece asks for at a node. -/
inductive Move where
  | refuse (failure : ReadFailure)
  | stay
  | up
  | missing
  | jump (target : Path)
  | down

/-- The move of a piece in a directory with the given entries. -/
def Move.among (entries : List (String × FileNode)) (piece : String) : Move :=
  if nameLimit < piece.utf8ByteSize then refuse .nameTooLong
  else if !Path.isSignificant piece then stay
  else if piece = ".." then up
  else
    match entries.lookup piece with
    | none => missing
    | some (.link target) => jump target
    | some _ => down

/-- The move of a piece at a node. From a locked directory only an empty piece goes on. -/
def Move.of (piece : String) : FileNode → Move
  | .directory entries => among entries piece
  | .locked => if piece = "" then stay else refuse .permissionDenied
  | _ => refuse .notADirectory

namespace Move

/-- When a move is made. -/
def Condition (node : FileNode) (piece : String) : Move → Prop
  | refuse _ => node.isListable = true → nameLimit < piece.utf8ByteSize
  | stay => Path.isSignificant piece = false
  | up => piece = ".." ∧ node.isListable = true
  | missing =>
      Path.isSignificant piece = true ∧ piece ≠ ".." ∧ node.entries.lookup piece = none
  | jump target =>
      Path.isSignificant piece = true ∧ piece ≠ ".." ∧
        node.entries.lookup piece = some (.link target)
  | down =>
      Path.isSignificant piece = true ∧ piece ≠ ".." ∧
        ∃ child, node.entries.lookup piece = some child ∧ ∀ target, child ≠ .link target

theorem condition_among (entries : List (String × FileNode)) (piece : String) :
    (among entries piece).Condition (.directory entries) piece := by
  unfold among
  split
  · next long => exact fun _ => long
  split
  · next skipped => simpa [Condition] using skipped
  split
  · next isUp => exact ⟨isUp, rfl⟩
  · next counts notUp =>
      have significant : Path.isSignificant piece = true := by simpa using counts
      cases found : entries.lookup piece with
      | none => exact ⟨significant, notUp, found⟩
      | some child =>
          cases child with
          | link target => exact ⟨significant, notUp, found⟩
          | file text? => exact ⟨significant, notUp, _, found, by simp⟩
          | directory others => exact ⟨significant, notUp, _, found, by simp⟩
          | locked => exact ⟨significant, notUp, _, found, by simp⟩

theorem condition (node : FileNode) (piece : String) : (of piece node).Condition node piece := by
  cases node with
  | directory entries => exact condition_among entries piece
  | file text? => exact fun isListable => nomatch isListable
  | link target => exact fun isListable => nomatch isListable
  | locked =>
      rw [of]
      split
      · next isEmpty =>
          subst isEmpty
          exact rfl
      · exact fun isListable => nomatch isListable

theorem condition_of_eq {node : FileNode} {piece : String} {move : Move}
    (isMove : of piece node = move) : move.Condition node piece :=
  isMove ▸ condition node piece

/-- Pieces stay at directories only. -/
theorem isDirectory_of_stay {node : FileNode} {piece : String} (stays : of piece node = stay) :
    node.isDirectory = true := by
  cases node with
  | directory entries => rfl
  | locked => rfl
  | file text? => cases stays
  | link target => cases stays

end Move

/-- What is done at a link with the links that are left. -/
def jumpWith (root : FileNode) (followsEnd : Bool) : Nat → Jump
  | 0 => fun _ _ => .error .tooManyLinks
  | links + 1 => follow root followsEnd links

section

variable {root : FileNode} {followsEnd : Bool} {links : Nat} {here : List String}

theorem follow_eq (root : FileNode) (followsEnd : Bool) (links : Nat) :
    follow root followsEnd links = followWith root (jumpWith root followsEnd links) followsEnd := by
  cases links <;> rfl

theorem follow_nil {node : FileNode} (isNode : root.descendant? here = some node) :
    follow root followsEnd links here [] = .ok (.occupied here node) := by
  rw [follow_eq, followWith, isNode]

/-- One step from a node. -/
theorem follow_cons {node : FileNode} (isNode : root.descendant? here = some node)
    (piece : String) (rest : List String) :
    follow root followsEnd links here (piece :: rest) =
      match Move.of piece node with
      | .refuse failure => .error failure
      | .stay => follow root followsEnd links here rest
      | .up => follow root followsEnd links here.dropLast rest
      | .missing => if rest.isEmpty then .ok (.vacant here piece) else .error .notFound
      | .jump target =>
          if rest.isEmpty && !followsEnd then .ok (.occupied (here ++ [piece]) (.link target))
          else jumpWith root followsEnd links (if target.isAbsolute then [] else here)
            (target.body ++ rest)
      | .down => follow root followsEnd links (here ++ [piece]) rest := by
  rw [follow_eq, followWith, isNode]
  cases node with
  | file text? => rfl
  | link target => rfl
  | locked =>
      rw [Move.of]
      simp only
      by_cases isEmpty : piece = ""
      · rw [if_pos isEmpty, if_pos isEmpty]
      · rw [if_neg isEmpty, if_neg isEmpty]
  | directory entries =>
      rw [Move.of, Move.among]
      simp only
      split
      · rfl
      split
      · rfl
      split
      · rfl
      cases entries.lookup piece with
      | none => rfl
      | some child => cases child <;> rfl

/-- No step leads on from where nothing is. -/
theorem follow_cons_of_none (isNone : root.descendant? here = none) (piece : String)
    (rest : List String) :
    follow root followsEnd links here (piece :: rest) = .error .notFound := by
  rw [follow_eq, followWith, isNone]

/-- A name leads on from nothing but a directory that is not locked. -/
theorem follow_name_of_not_listable {node : FileNode} (isNode : root.descendant? here = some node)
    (notListable : node.isListable = false) {name : String} (named : Path.isName name = true) :
    ∃ failure, follow root followsEnd links here [name] = .error failure := by
  rw [follow_cons isNode]
  cases node with
  | directory entries => cases notListable
  | file text? => exact ⟨_, rfl⟩
  | link target => exact ⟨_, rfl⟩
  | locked =>
      have notEmpty : name ≠ "" := by
        rintro rfl
        cases named
      rw [Move.of, if_neg notEmpty]
      exact ⟨_, rfl⟩

/-- An empty piece leads from a directory to itself. -/
theorem follow_empty {node : FileNode} (isNode : root.descendant? here = some node) :
    follow root followsEnd links here [""] =
      if node.isDirectory then .ok (.occupied here node) else .error .notADirectory := by
  rw [follow_cons isNode]
  cases node with
  | directory entries => exact follow_nil isNode
  | locked => exact follow_nil isNode
  | file text? => rfl
  | link target => rfl

end

/-! ## Following a path in two parts -/

/-- Some pieces lead to a place, from which all further ones are followed. -/
structure LeadsTo (root : FileNode) (links : Nat) (here pieces : List String) (left : Nat)
    (there : List String) (node : FileNode) : Prop where
  found : follow root true links here pieces = .ok (.occupied there node)
  isNode : root.descendant? there = some node
  fewer : left ≤ links
  onward : ∀ followsEnd rest, rest ≠ [] →
    follow root followsEnd links here (pieces ++ rest) = follow root followsEnd left there rest

/-- Some pieces lead nowhere, and further ones do not help. -/
structure LeadsNowhere (root : FileNode) (links : Nat) (here pieces : List String) : Prop where
  nothing : ∀ there node, follow root true links here pieces ≠ .ok (.occupied there node)
  onward : ∀ followsEnd rest, rest ≠ [] →
    ∃ failure, follow root followsEnd links here (pieces ++ rest) = .error failure

/-- Whether it is known where some pieces lead. -/
def Leads (root : FileNode) (links : Nat) (here pieces : List String) : Prop :=
  (∃ left there node, LeadsTo root links here pieces left there node) ∨
    LeadsNowhere root links here pieces

section

variable {root : FileNode} {links : Nat} {here pieces : List String}

/-- Pieces that fail wherever links at the end are followed lead nowhere. -/
theorem leadsNowhere_of_failures
    (fails : ∀ followsEnd rest, followsEnd = true ∨ rest ≠ [] →
      ∃ failure, follow root followsEnd links here (pieces ++ rest) = .error failure) :
    LeadsNowhere root links here pieces where
  nothing := by
    intro there node found
    rcases fails true [] (.inl rfl) with ⟨failure, isError⟩
    rw [List.append_nil, found] at isError
    cases isError
  onward := fun followsEnd rest notEmpty => fails followsEnd rest (.inr notEmpty)

section

variable {further : Nat} {next others : List String} (fewer : further ≤ links)
  (step : ∀ followsEnd rest, followsEnd = true ∨ rest ≠ [] →
    follow root followsEnd links here (pieces ++ rest) =
      follow root followsEnd further next (others ++ rest))

include step

theorem follow_of_step :
    follow root true links here pieces = follow root true further next others := by
  have atEnd := step true [] (.inl rfl)
  rwa [List.append_nil, List.append_nil] at atEnd

theorem LeadsNowhere.of_step (nowhere : LeadsNowhere root further next others) :
    LeadsNowhere root links here pieces where
  nothing := by
    intro there node found
    exact nowhere.nothing there node ((follow_of_step step).symm.trans found)
  onward := by
    intro followsEnd rest notEmpty
    rw [step followsEnd rest (.inr notEmpty)]
    exact nowhere.onward followsEnd rest notEmpty

include fewer

theorem LeadsTo.of_step {left : Nat} {there : List String} {node : FileNode}
    (leads : LeadsTo root further next others left there node) :
    LeadsTo root links here pieces left there node where
  found := (follow_of_step step).trans leads.found
  isNode := leads.isNode
  fewer := Nat.le_trans leads.fewer fewer
  onward := by
    intro followsEnd rest notEmpty
    rw [step followsEnd rest (.inr notEmpty)]
    exact leads.onward followsEnd rest notEmpty

/-- Pieces lead where other ones lead from the next place. -/
theorem leads_of_step (known : Leads root further next others) : Leads root links here pieces := by
  rcases known with ⟨left, there, node, leads⟩ | nowhere
  · exact .inl ⟨left, there, node, leads.of_step fewer step⟩
  · exact .inr (nowhere.of_step step)

end

theorem leads_nil (root : FileNode) (links : Nat) (here : List String) :
    Leads root links here [] := by
  cases isNode : root.descendant? here with
  | some node =>
      exact .inl ⟨links, here, node, follow_nil isNode, isNode, Nat.le_refl _, fun _ _ _ => rfl⟩
  | none =>
      refine .inr ⟨fun there node found => ?_, fun followsEnd rest notEmpty => ?_⟩
      · rw [follow_eq, followWith, isNode] at found
        cases found
      · cases rest with
        | nil => exact absurd rfl notEmpty
        | cons piece rest => exact ⟨_, follow_cons_of_none isNode piece rest⟩

theorem follow_jump {node : FileNode} {piece : String} {target : Path}
    (isNode : root.descendant? here = some node) (jumps : Move.of piece node = .jump target)
    {followsEnd : Bool} {rest : List String}
    (goesOn : followsEnd = true ∨ rest ≠ []) :
    follow root followsEnd links here (piece :: rest) =
      jumpWith root followsEnd links (if target.isAbsolute then [] else here)
        (target.body ++ rest) := by
  have notLast : (rest.isEmpty && !followsEnd) = false := by
    rcases goesOn with isTrue | notEmpty
    · simp [isTrue]
    · simp [notEmpty]
  rw [follow_cons isNode, jumps]
  simp [notLast]

/-- Every list of pieces leads to a place or nowhere. -/
theorem leads (root : FileNode) (links : Nat) (here pieces : List String) :
    Leads root links here pieces := by
  -- A jump has fewer links left, and every other step has fewer pieces.
  induction links using Nat.strongRecOn generalizing here pieces with
  | ind links jumps =>
  induction pieces generalizing here with
  | nil => exact leads_nil root links here
  | cons piece pieces induction =>
      cases isNode : root.descendant? here with
      | none =>
          exact .inr (leadsNowhere_of_failures fun _ rest _ =>
            ⟨_, follow_cons_of_none isNode piece (pieces ++ rest)⟩)
      | some node =>
          have step (followsEnd : Bool) (rest : List String) :=
            @follow_cons root followsEnd links here node isNode piece (pieces ++ rest)
          cases move : Move.of piece node with
          | refuse failure =>
              refine .inr (leadsNowhere_of_failures fun followsEnd rest _ => ⟨failure, ?_⟩)
              rw [List.cons_append, step, move]
          | stay =>
              refine leads_of_step (Nat.le_refl links) (fun followsEnd rest _ => ?_)
                (induction here)
              rw [List.cons_append, step, move]
          | up =>
              refine leads_of_step (Nat.le_refl links) (fun followsEnd rest _ => ?_)
                (induction here.dropLast)
              rw [List.cons_append, step, move]
          | missing =>
              refine .inr ⟨fun there node found => ?_, fun followsEnd rest notEmpty => ?_⟩
              · rw [follow_cons isNode, move] at found
                cases pieces <;> cases found
              · refine ⟨.notFound, ?_⟩
                rw [List.cons_append, step, move]
                simp [notEmpty]
          | jump target =>
              have jump (followsEnd : Bool) (rest : List String)
                  (goesOn : followsEnd = true ∨ rest ≠ []) :
                  follow root followsEnd links here (piece :: pieces ++ rest) =
                    jumpWith root followsEnd links (if target.isAbsolute then [] else here)
                      (target.body ++ pieces ++ rest) := by
                rw [List.append_assoc]
                exact follow_jump isNode move (goesOn.imp_right fun notEmpty => by simp [notEmpty])
              cases links with
              | zero =>
                  exact .inr (leadsNowhere_of_failures fun followsEnd rest goesOn =>
                    ⟨.tooManyLinks, jump followsEnd rest goesOn⟩)
              | succ fewer =>
                  exact leads_of_step (Nat.le_succ fewer) jump
                    (jumps fewer (Nat.lt_succ_self fewer) _ _)
          | down =>
              refine leads_of_step (Nat.le_refl links) (fun followsEnd rest _ => ?_)
                (induction (here ++ [piece]))
              rw [List.cons_append, step, move]

theorem leadsTo_of_found {there : List String} {node : FileNode}
    (found : follow root true links here pieces = .ok (.occupied there node)) :
    ∃ left, LeadsTo root links here pieces left there node := by
  rcases leads root links here pieces with ⟨left, _, _, leadsTo⟩ | nowhere
  · cases leadsTo.found.symm.trans found
    exact ⟨left, leadsTo⟩
  · exact absurd found (nowhere.nothing there node)

/-- Names that no link stands for are followed without using up links. -/
theorem onward_of_descendant? {names there : List String} {node : FileNode}
    {entries : List (String × FileNode)} (named : ∀ name ∈ names, Path.isName name = true)
    (found : follow root true links here names = .ok (.occupied there node))
    (isReal : root.descendant? (here ++ names) = some (.directory entries))
    (followsEnd : Bool) (rest : List String) :
    follow root followsEnd links here (names ++ rest) =
      follow root followsEnd links (here ++ names) rest := by
  induction names generalizing here with
  | nil => rw [List.append_nil, List.nil_append]
  | cons name names induction =>
      have isNamed := named name List.mem_cons_self
      rw [FileNode.descendant?_append, Option.bind_eq_some_iff] at isReal
      rcases isReal with ⟨outer, isOuter, fromOuter⟩
      rcases Option.bind_eq_some_iff.mp fromOuter with ⟨child, isChild, fromChild⟩
      rw [follow_cons isOuter] at found
      rw [List.cons_append, follow_cons isOuter]
      have condition := Move.condition outer name
      cases move : Move.of name outer with
      | refuse failure =>
          rw [move] at found
          cases found
      | stay =>
          rw [move] at condition
          cases (Path.isSignificant_of_isName isNamed).symm.trans condition
      | up =>
          rw [move] at condition
          exact absurd condition.1 (Path.ne_parent_of_isName isNamed)
      | missing =>
          rw [move] at condition
          cases isChild.symm.trans condition.2.2
      | jump target =>
          rw [move] at condition
          cases isChild.symm.trans condition.2.2
          cases names <;> cases fromChild
      | down =>
          rw [move] at found
          have isInside : root.descendant? (here ++ [name] ++ names) =
              some (.directory entries) := by
            rw [FileNode.descendant?_append, FileNode.descendant?_concat, isOuter,
              Option.bind_some]
            exact (congrArg (Option.bind · _) isChild).trans fromChild
          have goesOn := induction (fun one member => named one (List.mem_cons_of_mem _ member))
            found isInside
          rwa [List.append_assoc] at goesOn

end

/-! ## Links and pieces at the end -/

/-- Without following a link at the end, a path leads to the same place or to a link. -/
theorem follow_false (root : FileNode) (links : Nat) (here pieces : List String) :
    follow root false links here pieces = follow root true links here pieces ∨
      ∃ there target, follow root false links here pieces =
        .ok (.occupied there (.link target)) := by
  induction links using Nat.strongRecOn generalizing here pieces with
  | ind links jumps =>
  induction pieces generalizing here with
  | nil =>
      rw [follow_eq, follow_eq, followWith, followWith]
      exact .inl rfl
  | cons piece pieces induction =>
      cases isNode : root.descendant? here with
      | none =>
          rw [follow_cons_of_none isNode, follow_cons_of_none isNode]
          exact .inl rfl
      | some node =>
          rw [follow_cons isNode, follow_cons isNode]
          cases move : Move.of piece node with
          | refuse failure => exact .inl rfl
          | stay => exact induction here
          | up => exact induction here.dropLast
          | missing => exact .inl rfl
          | down => exact induction (here ++ [piece])
          | jump target =>
              cases pieces with
              | nil => exact .inr ⟨_, _, rfl⟩
              | cons next rest =>
                  cases links with
                  | zero => exact .inl rfl
                  | succ fewer => exact jumps fewer (Nat.lt_succ_self fewer) _ _

/-- What stands at a path is what the path leads to, or a link. -/
theorem entry_eq_node_or_link (system : FileSystem) (path : Path) :
    system.entry path = system.node path ∨ ∃ target, system.entry path = .ok (.link target) := by
  rw [entry_eq_outcome, node_eq_outcome, locate, locate]
  split
  · exact .inl rfl
  split
  · exact .inl rfl
  · rcases follow_false system.root linkLimit [] (system.workingDirectory.join path).body
      with same | ⟨there, target, isLink⟩
    · exact .inl (by rw [same])
    · exact .inr ⟨target, by rw [isLink]; rfl⟩

/-- Pieces that do not count lead from a directory to itself. -/
theorem follow_of_not_significant {root : FileNode} {others : List (String × FileNode)}
    {here pieces : List String} (isDirectory : root.descendant? here = some (.directory others))
    (skipped : pieces.any Path.isSignificant = false) (followsEnd : Bool) (links : Nat) :
    follow root followsEnd links here pieces = .ok (.occupied here (.directory others)) := by
  induction pieces with
  | nil => exact follow_nil isDirectory
  | cons piece pieces induction =>
      rw [List.any_cons, Bool.or_eq_false_iff] at skipped
      have short : ¬nameLimit < piece.utf8ByteSize := by
        have isPoint : piece = "" ∨ piece = "." := by
          have := skipped.1
          simp only [Path.isSignificant, Bool.and_eq_false_iff, bne_eq_false_iff_eq] at this
          exact this
        rcases isPoint with rfl | rfl <;> decide
      have isStay : Move.of piece (.directory others) = .stay := by
        rw [Move.of, Move.among, if_neg short, if_pos (by simp [skipped.1])]
      rw [follow_cons isDirectory, isStay]
      exact induction skipped.2

/-- What is no directory is reached by a name. -/
theorem isName_of_follow {root : FileNode} {followsEnd : Bool} {links : Nat}
    {here front there : List String} {last : String} {node : FileNode}
    (found : follow root followsEnd links here (front ++ [last]) = .ok (.occupied there node))
    (noDirectory : node.isDirectory = false) :
    Path.isSignificant last = true ∧ last ≠ ".." := by
  rcases leads root links here front with ⟨left, place, reached, leadsTo⟩ | nowhere
  · rw [leadsTo.onward followsEnd [last] (by simp), follow_cons leadsTo.isNode] at found
    cases move : Move.of last reached with
    | refuse failure => rw [move] at found; cases found
    | missing => rw [move] at found; cases found
    | stay =>
        rw [move] at found
        simp only [follow_nil leadsTo.isNode] at found
        cases found
        cases (Move.isDirectory_of_stay move).symm.trans noDirectory
    | up =>
        rcases FileNode.eq_directory_of_isListable (Move.condition_of_eq move).2
          with ⟨others, rfl⟩
        rcases FileNode.exists_descendant?_dropLast leadsTo.isNode with ⟨above, isAbove⟩
        rw [move] at found
        simp only [follow_nil isAbove] at found
        cases found
        cases noDirectory
    | jump target =>
        have ⟨counts, notUp, _⟩ := Move.condition_of_eq move
        exact ⟨counts, notUp⟩
    | down =>
        have ⟨counts, notUp, _⟩ := Move.condition_of_eq move
        exact ⟨counts, notUp⟩
  · rcases nowhere.onward followsEnd [last] (by simp) with ⟨failure, fails⟩
    cases found.symm.trans fails

end FileSystem

end DirectiveScan
