import DirectiveScan.Project.Scan
import DirectiveScan.Proofs.File.Stored
import DirectiveScan.Proofs.Glob.Bound
import DirectiveScan.Proofs.Glob.Invariant
import DirectiveScan.Proofs.Project.Order

namespace DirectiveScan

/-! The files of a project have absolute paths.

What is joined to an absolute path stays absolute, so a walk and an expansion that start at
absolute paths find nothing else. A project is looked for below the absolute path of its
directory. -/

mutual

theorem FileNode.isAbsolute_of_mem_walkInside {path : Path} (absolute : path.isAbsolute = true)
    (node : FileNode) : ∀ found, .ok found ∈ node.walkInside path → found.1.isAbsolute = true := by
  intro found member
  match node with
  | .file _ => cases member
  | .link _ => cases member
  | .locked => cases List.mem_singleton.mp member
  | .directory entries => exact FileNode.isAbsolute_of_mem_walkEntries absolute entries found member

theorem FileNode.isAbsolute_of_mem_walkEntries {path : Path} (absolute : path.isAbsolute = true)
    (entries : List (String × FileNode)) :
    ∀ found, .ok found ∈ walkEntries path entries → found.1.isAbsolute = true := by
  intro found member
  match entries with
  | [] => cases member
  | (name, node) :: rest =>
      have joined := Path.join_isAbsolute absolute ⟨name⟩
      rcases mem_walkEntries_cons.mp member with atEntry | inRest
      · rcases List.mem_cons.mp atEntry with same | inside
        · cases same
          exact joined
        · exact FileNode.isAbsolute_of_mem_walkInside joined node found inside
      · exact FileNode.isAbsolute_of_mem_walkEntries absolute rest found inRest

end

theorem FileSystem.isAbsolute_of_mem_walk {system : FileSystem} {path : Path}
    (absolute : path.isAbsolute = true) {found : Path × FileNode}
    (member : .ok found ∈ system.walk path) : found.1.isAbsolute = true := by
  rcases mem_walk_cases member with ⟨atPath, _⟩ | ⟨entries, _, below⟩
  · exact atPath ▸ absolute
  · exact FileNode.isAbsolute_of_mem_walkEntries absolute entries found below

namespace Glob

/-- Every path for which an absolute pattern stands is absolute. -/
theorem isAbsolute_of_mem_expand {system : FileSystem} {pattern found : Path} {paths : List Path}
    (absolute : pattern.isAbsolute = true) (succeeds : expand system pattern = .ok paths)
    (member : found ∈ paths) :
    found.isAbsolute = true := by
  have keeps : Carries system (fun _ => True) fun path => path.isAbsolute = true :=
    { literal := fun _ name _ _ _ absolute =>
        step_of_isAbsolute absolute name ▸ Path.join_isAbsolute absolute ⟨name⟩
      point := fun _ name _ _ _ absolute => Path.join_isAbsolute absolute ⟨name⟩
      entry := fun name _ _ absolute =>
        step_of_isAbsolute absolute name ▸ Path.join_isAbsolute absolute ⟨name⟩ }
  refine kept_of_mem_expand keeps ?_ (fun _ _ _ _ => trivial) succeeds member
  rw [absolute]
  rfl

end Glob

namespace Discovery

variable {system : FileSystem} {base : Path}

theorem isAbsolute_of_mem_roots (absolute : base.isAbsolute = true) {includes : List String}
    {root : Path} (member : root ∈ roots system base includes) : root.isAbsolute = true := by
  rw [roots] at member
  split at member
  · exact List.mem_singleton.mp member ▸ absolute
  · rcases List.mem_flatMap.mp member with ⟨text, _, isRoot⟩
    rw [rootsOf] at isRoot
    split at isRoot
    · have inExpansion := (List.mem_filter.mp isRoot).1
      cases expands : Glob.expand system (base.join ⟨text⟩) with
      | error error => rw [expands] at inExpansion; cases inExpansion
      | ok paths =>
          rw [expands] at inExpansion
          exact Glob.isAbsolute_of_mem_expand (Path.join_isAbsolute absolute _) expands inExpansion
    · split at isRoot
      · exact List.mem_singleton.mp isRoot ▸ Path.join_isAbsolute absolute _
      · cases isRoot

theorem isAbsolute_of_mem_filesBelow {exclusion : Exclusion} {root path : Path}
    (absolute : root.isAbsolute = true) (member : path ∈ filesBelow system exclusion root) :
    path.isAbsolute = true := by
  rcases List.mem_map.mp member with ⟨found, isFound, rfl⟩
  rcases List.mem_filterMap.mp (List.mem_filter.mp isFound).1 with ⟨encounter, inWalk, isOk⟩
  cases encounter with
  | error error => cases isOk
  | ok one =>
      cases isOk
      exact FileSystem.isAbsolute_of_mem_walk absolute inWalk

end Discovery

theorem isAbsolute_of_mem_discover {system : FileSystem} {base : Path}
    (absolute : base.isAbsolute = true) {includes ignores : List String} {ignoreTestFiles : Bool}
    {path : Path} (member : path ∈ (discover system base includes ignores ignoreTestFiles).files) :
    path.isAbsolute = true := by
  rcases List.mem_flatMap.mp (Path.mem_of_mem_ordered member) with ⟨root, isRoot, below⟩
  exact Discovery.isAbsolute_of_mem_filesBelow
    (Discovery.isAbsolute_of_mem_roots absolute isRoot) below

end DirectiveScan
