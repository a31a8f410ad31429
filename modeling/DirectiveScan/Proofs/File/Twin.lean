import DirectiveScan.Proofs.File.Site
import DirectiveScan.Proofs.File.Stored
import Mathlib.Data.List.Forall2

namespace DirectiveScan

/-! Paths that stand for the same below two sites of one tree.

Two such paths lead to the same node, and so do all paths that are joined to them. The
files that a walk finds at them are again such paths. -/

namespace Site

open FileSystem

variable {entries : List (String × FileNode)} {linked : Bool} {first second : Site entries}

/-! ## A tree on its own -/

theorem node_of_root (entries : List (String × FileNode)) (workingDirectory : Path) :
    (FileSystem.mk (.directory entries) workingDirectory).node (Path.directory []) =
      .ok (.directory entries) := by
  have isRoot : (FileNode.directory entries).descendant? [] = some (.directory entries) := rfl
  have isBody : (Path.directory []).body = [""] := by decide
  rw [FileSystem.node_of_isAbsolute _ (Path.isAbsolute_directory []),
    if_neg (by decide), isBody, follow_of_not_significant isRoot (by decide)]
  rfl

/-- The file system that holds nothing but a tree. -/
def alone (entries : List (String × FileNode)) : Site entries where
  system := ⟨.directory entries, ⟨"/"⟩⟩
  names := []
  named := by simp
  holds := node_of_root entries _

theorem Comparable.alone (comparable : Comparable linked first second) :
    Comparable linked first (Site.alone entries) where
  closed := comparable.closed
  real := fun isLinked => ⟨(comparable.real isLinked).1, rfl⟩

theorem Comparable.symm (comparable : Comparable linked first second) :
    Comparable linked second first where
  closed := comparable.closed
  real := fun isLinked => (comparable.real isLinked).symm

/-! ## Twins -/

/-- A relative path that does not lead up. -/
structure IsTail (below : Path) : Prop where
  relative : below.isAbsolute = false
  inside : below.body.all (· != "..") = true

/-- The same place, as it is spelled below two sites. -/
inductive Twin (first second : Site entries) : Path → Path → Prop where
  | base : Twin first second first.base second.base
  | below {below : Path} (tail : IsTail below) :
      Twin first second (first.base.join below) (second.base.join below)

/-- Twins that have a name of their own below the sites. -/
def NamedTwin (first second : Site entries) (left right : Path) : Prop :=
  ∃ below, IsTail below ∧ below.body.any Path.isSignificant = true ∧
    left = first.base.join below ∧ right = second.base.join below

theorem isTail_join {below : Path} (tail : IsTail below) {piece : String}
    (free : '/' ∉ piece.toList) (notUp : piece ≠ "..") : IsTail (below.join ⟨piece⟩) := by
  have ⟨relative, isBody⟩ := Path.body_of_not_mem free
  rcases Path.exists_front below with ⟨front, isFront, joined⟩
  have frontInside : front.all (· != "..") = true := by
    have inside := tail.inside
    rcases isFront with same | ended
    · rwa [same] at inside
    · rw [ended, List.all_append, Bool.and_eq_true] at inside
      exact inside.1
  refine ⟨Path.isAbsolute_join tail.relative relative, ?_⟩
  rw [joined _ relative, isBody, List.all_append, frontInside]
  simpa using notUp

theorem isTail_piece {piece : String} (free : '/' ∉ piece.toList) (notUp : piece ≠ "..") :
    IsTail ⟨piece⟩ := by
  have ⟨relative, isBody⟩ := Path.body_of_not_mem free
  exact ⟨relative, by rw [isBody]; simpa using notUp⟩

theorem any_isSignificant_join (below : Path) {name : String} (named : Path.isName name = true) :
    (below.join ⟨name⟩).body.any Path.isSignificant = true := by
  have ⟨relative, isBody⟩ := Path.body_of_not_mem (Path.not_mem_of_isName named)
  rcases Path.exists_front below with ⟨front, _, joined⟩
  rw [joined _ relative, isBody, List.any_append]
  simp [Path.isSignificant_of_isName named]

theorem base_join_join (site : Site entries) {below : Path} (tail : IsTail below) {piece : String}
    (free : '/' ∉ piece.toList) :
    (site.base.join below).join ⟨piece⟩ = site.base.join (below.join ⟨piece⟩) :=
  Path.join_join site.base tail.relative (Path.body_of_not_mem free).1

namespace Twin

variable {left right : Path}

theorem join (twin : Twin first second left right) {piece : String}
    (free : '/' ∉ piece.toList) (notUp : piece ≠ "..") :
    Twin first second (left.join ⟨piece⟩) (right.join ⟨piece⟩) := by
  cases twin with
  | base => exact below (isTail_piece free notUp)
  | below tail =>
      rw [base_join_join first tail free, base_join_join second tail free]
      exact below (isTail_join tail free notUp)

theorem join_name (twin : Twin first second left right) {name : String}
    (named : Path.isName name = true) :
    NamedTwin first second (left.join ⟨name⟩) (right.join ⟨name⟩) := by
  have free := Path.not_mem_of_isName named
  have notUp := Path.ne_parent_of_isName named
  cases twin with
  | base =>
      refine ⟨⟨name⟩, isTail_piece free notUp, ?_, rfl, rfl⟩
      rw [(Path.body_of_not_mem free).2]
      simp [Path.isSignificant_of_isName named]
  | below tail =>
      rw [base_join_join first tail free, base_join_join second tail free]
      exact ⟨_, isTail_join tail free notUp, any_isSignificant_join _ named, rfl, rfl⟩

/-- Twins lead to the same node. -/
theorem node_eq (comparable : Comparable linked first second)
    (twin : Twin first second left right) :
    first.system.node left = second.system.node right := by
  cases twin with
  | base => exact first.holds.trans second.holds.symm
  | below tail => exact node_join_eq comparable tail.relative tail.inside

theorem isListable_eq (comparable : Comparable linked first second)
    (twin : Twin first second left right) :
    first.system.isListable left = second.system.isListable right := by
  rw [FileSystem.isListable, FileSystem.isListable, twin.node_eq comparable]

theorem isDirectory_eq (comparable : Comparable linked first second)
    (twin : Twin first second left right) :
    first.system.isDirectory left = second.system.isDirectory right := by
  rw [FileSystem.isDirectory, FileSystem.isDirectory, twin.node_eq comparable]

theorem isAbsolute_left (twin : Twin first second left right) : left.isAbsolute = true := by
  cases twin with
  | base => exact first.isAbsolute_base
  | below tail => exact first.isAbsolute_join tail.relative

theorem symm (twin : Twin first second left right) : Twin second first right left := by
  cases twin with
  | base => exact base
  | below tail => exact below tail

theorem alone (twin : Twin first second left right) :
    ∃ path, Twin first (Site.alone entries) left path := by
  cases twin with
  | base => exact ⟨_, base⟩
  | below tail => exact ⟨_, below tail⟩

/-- A directory at a twin is a directory of the tree. -/
theorem entriesClosed (comparable : Comparable linked first second)
    (twin : Twin first second left right) {others : List (String × FileNode)}
    (found : first.system.node left = .ok (.directory others)) :
    ∃ depth, FileNode.entriesClosed linked depth others = true := by
  rcases twin.alone with ⟨path, twinAlone⟩
  rw [twinAlone.node_eq comparable.alone,
    FileSystem.node_of_isAbsolute _ twinAlone.symm.isAbsolute_left] at found
  split at found
  · cases found
  · rcases exists_occupied found with ⟨there, occupied⟩
    rcases leadsTo_of_found occupied with ⟨left, leads⟩
    exact ⟨_, FileNode.entriesClosed_of_descendant? comparable.closed leads.isNode⟩

end Twin

namespace NamedTwin

variable {left right : Path}

theorem twin (named : NamedTwin first second left right) : Twin first second left right := by
  rcases named with ⟨below, tail, _, rfl, rfl⟩
  exact .below tail

theorem fileName?_eq (named : NamedTwin first second left right) :
    left.fileName? = right.fileName? := by
  rcases named with ⟨below, tail, counts, rfl, rfl⟩
  rw [base, base, Path.fileName?_join_directory first.named tail.relative counts,
    Path.fileName?_join_directory second.named tail.relative counts]

end NamedTwin

/-! ## Files -/

/-- Two walks come to the same kind of node at named twins, or both cannot go on. -/
inductive EncounterTwin (first second : Site entries) : Encounter → Encounter → Prop where
  | found {left right : Path} (twin : NamedTwin first second left right) (node : FileNode) :
      EncounterTwin first second (.ok (left, node)) (.ok (right, node))
  | error (error other : WalkError) : EncounterTwin first second (.error error) (.error other)

mutual

/-- Walks inside of a node at twins meet twins. -/
theorem forall₂_walkInside {depth : Nat} (node : FileNode)
    (closed : node.isClosed linked depth = true) {left right : Path}
    (twin : Twin first second left right) :
    List.Forall₂ (EncounterTwin first second) (node.walkInside left) (node.walkInside right) := by
  match node with
  | .file _ => exact .nil
  | .link _ => exact .nil
  | .locked => exact .cons (.error _ _) .nil
  | .directory others => exact forall₂_walkEntries others closed twin

theorem forall₂_walkEntries {depth : Nat} (others : List (String × FileNode))
    (closed : FileNode.entriesClosed linked depth others = true)
    {left right : Path} (twin : Twin first second left right) :
    List.Forall₂ (EncounterTwin first second) (FileNode.walkEntries left others)
      (FileNode.walkEntries right others) := by
  match others with
  | [] => exact .nil
  | (name, node) :: rest =>
      rw [FileNode.entriesClosed, Bool.and_eq_true, Bool.and_eq_true] at closed
      have named := twin.join_name closed.1.1
      exact .cons (.found named node)
        (List.rel_append (forall₂_walkInside node closed.1.2 named.twin)
          (forall₂_walkEntries rest closed.2 twin))

end

/-- The paths of the files to which a walk comes. -/
def filesOf (encounters : List Encounter) : List Path :=
  ((encounters.filterMap Except.toOption).filter fun found => found.2.isFile).map Prod.fst

theorem filesOf_cons {path : Path} {node : FileNode} (noFile : node.isFile = false)
    (others : List Encounter) : filesOf (.ok (path, node) :: others) = filesOf others := by
  have isFound : Except.toOption (Except.ok (path, node) : Encounter) = some (path, node) := rfl
  rw [filesOf, List.filterMap_cons_some isFound, List.filter_cons_of_neg (by simp [noFile])]
  rfl

theorem filesOf_cons_of_isFile {path : Path} {node : FileNode} (isFile : node.isFile = true)
    (others : List Encounter) :
    filesOf (.ok (path, node) :: others) = path :: filesOf others := by
  have isFound : Except.toOption (Except.ok (path, node) : Encounter) = some (path, node) := rfl
  rw [filesOf, List.filterMap_cons_some isFound, List.filter_cons_of_pos (by simpa using isFile)]
  rfl

theorem forall₂_filesOf {left right : List Encounter}
    (twins : List.Forall₂ (EncounterTwin first second) left right) :
    List.Forall₂ (NamedTwin first second) (filesOf left) (filesOf right) := by
  induction twins with
  | nil => exact .nil
  | cons twin _ induction =>
      cases twin with
      | error error other => exact induction
      | found twin node =>
          cases isFile : node.isFile with
          | false => rwa [filesOf_cons isFile, filesOf_cons isFile]
          | true =>
              rw [filesOf_cons_of_isFile isFile, filesOf_cons_of_isFile isFile]
              exact .cons twin induction

/-- The files at and below a path. -/
def filesAt (system : FileSystem) (path : Path) : List Path := filesOf (system.walk path)

theorem filesAt_of_file {system : FileSystem} {path : Path} {text? : Option String}
    (isEntry : system.entry path = .ok (.file text?)) : filesAt system path = [path] := by
  rw [filesAt, FileSystem.walk, isEntry]
  rfl

/-- Where a path leads to a directory, its files are those inside of the directory. -/
theorem filesAt_of_directory {system : FileSystem} {path : Path}
    {others : List (String × FileNode)} (isNode : system.node path = .ok (.directory others)) :
    filesAt system path = filesOf (FileNode.walkEntries path others) := by
  rw [filesAt, FileSystem.walk]
  rcases system.entry_eq_node_or_link path with same | ⟨target, isLink⟩
  · rw [same, isNode]
    exact filesOf_cons rfl _
  · rw [isLink, isNode]
    exact filesOf_cons rfl _

/-- Where a path leads neither to a directory nor to a file, there are no files. -/
theorem filesAt_of_neither {system : FileSystem} {path : Path}
    (noDirectory : system.isListable path = false)
    (noFile : ∀ text?, system.entry path ≠ .ok (.file text?)) : filesAt system path = [] := by
  rcases system.walk_cases path with ⟨failure, isWalk⟩ | ⟨node, behind, isEntry, isNode, isWalk⟩
  · rw [filesAt, isWalk]
    rfl
  · have notFile : node.isFile = false := by
      cases node with
      | file text? => exact absurd isEntry (noFile text?)
      | _ => rfl
    have nothingInside : filesOf (behind.walkInside path) = [] := by
      cases behind with
      | directory others =>
          rw [FileSystem.isListable, isNode] at noDirectory
          cases noDirectory
      | _ => rfl
    rw [filesAt, isWalk, filesOf_cons notFile, nothingInside]

/-- A path to a file has a name of its own. -/
theorem any_isSignificant_of_file (site : Site entries) {below : Path} (tail : IsTail below)
    {text? : Option String} (isNode : site.system.node (site.base.join below) = .ok (.file text?)) :
    below.body.any Path.isSignificant = true := by
  cases counts : below.body.any Path.isSignificant with
  | true => rfl
  | false =>
      rcases site.exists_onward with ⟨left, place, isPlace, _, onward⟩
      rw [FileSystem.node_of_isAbsolute _ (site.isAbsolute_join tail.relative)] at isNode
      split at isNode
      · cases isNode
      · rw [body_join _ tail.relative,
          onward _ _ (Path.body_ne_nil tail.relative),
          follow_of_not_significant isPlace counts] at isNode
        cases isNode

/-- The files at twins are twins. -/
theorem forall₂_filesAt (comparable : Comparable linked first second) {left right : Path}
    (twin : Twin first second left right) :
    List.Forall₂ (NamedTwin first second) (filesAt first.system left)
      (filesAt second.system right) := by
  have sameNode := twin.node_eq comparable
  have sameListable := twin.isListable_eq comparable
  cases isListable : first.system.isListable left with
  | true =>
      rcases node_of_isListable isListable with ⟨others, found⟩
      rcases twin.entriesClosed comparable found with ⟨depth, closed⟩
      rw [filesAt_of_directory found, filesAt_of_directory (sameNode ▸ found)]
      exact forall₂_filesOf (forall₂_walkEntries others closed twin)
  | false =>
      cases twin with
      | base =>
          rw [FileSystem.isListable, show first.system.node first.base = _ from first.holds]
            at isListable
          cases isListable
      | @below below tail =>
          have sameEntry := entry_join_eq comparable tail.relative tail.inside
          by_cases isFile :
              ∃ text?, first.system.entry (first.base.join below) = .ok (.file text?)
          · rcases isFile with ⟨text?, isEntry⟩
            rw [filesAt_of_file isEntry, filesAt_of_file (sameEntry ▸ isEntry)]
            rcases first.system.entry_eq_node_or_link (first.base.join below)
              with same | ⟨target, isLink⟩
            · have counts := any_isSignificant_of_file first tail (same.symm.trans isEntry)
              exact .cons ⟨below, tail, counts, rfl, rfl⟩ .nil
            · cases isEntry.symm.trans isLink
          · have noFile (text? : Option String) :
                first.system.entry (first.base.join below) ≠ .ok (.file text?) :=
              fun isEntry => isFile ⟨text?, isEntry⟩
            rw [filesAt_of_neither isListable noFile,
              filesAt_of_neither (sameListable ▸ isListable) (sameEntry ▸ noFile)]
            exact .nil

end Site

end DirectiveScan
