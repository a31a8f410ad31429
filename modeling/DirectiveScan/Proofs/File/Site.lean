import DirectiveScan.File.Walk
import DirectiveScan.Proofs.File.Closed

namespace DirectiveScan

/-! Places that hold the same tree.

A site is a directory of some file system with the entries of a tree. Below two sites of
one closed tree, the same relative paths lead to the same nodes. -/

/-- A directory that holds a tree. -/
structure Site (entries : List (String × FileNode)) where
  system : FileSystem
  /-- The names that lead to the directory. -/
  names : List String
  named : ∀ name ∈ names, Path.isName name = true
  holds : system.node (Path.directory names) = .ok (.directory entries)

namespace FileSystem

/-- A path that starts at the root is followed from there. -/
theorem locate_of_isAbsolute (system : FileSystem) (followsEnd : Bool) {path : Path}
    (absolute : path.isAbsolute = true) :
    system.locate followsEnd path =
      if path.text.toList.contains '\x00' then .error .endInsidePath
      else follow system.root followsEnd linkLimit [] path.body := by
  have notEmpty : path.text ≠ "" := by
    intro empty
    rw [Path.isAbsolute, empty] at absolute
    cases absolute
  have joined : system.workingDirectory.join path = path := by
    rw [Path.join, if_pos (by simp [absolute])]
  rw [locate, if_neg notEmpty, joined]

/-- What is at such a path is what its pieces lead to. -/
theorem node_of_isAbsolute (system : FileSystem) {path : Path}
    (absolute : path.isAbsolute = true) :
    system.node path =
      if path.text.toList.contains '\x00' then .error .endInsidePath
      else outcome (follow system.root true linkLimit [] path.body) := by
  rw [node_eq_outcome, locate_of_isAbsolute system true absolute]
  split <;> rfl

end FileSystem

namespace Site

open FileSystem

variable {entries : List (String × FileNode)}

/-- The path of a site. -/
def base (site : Site entries) : Path := Path.directory site.names

/-- Whether no name on the way to a site is a link. -/
def IsReal (site : Site entries) : Prop :=
  site.system.root.descendant? site.names = some (.directory entries)

theorem isAbsolute_base (site : Site entries) : site.base.isAbsolute = true :=
  Path.isAbsolute_directory site.names

theorem isAbsolute_join (site : Site entries) {below : Path}
    (relative : below.isAbsolute = false) : (site.base.join below).isAbsolute = true :=
  Path.isAbsolute_join_directory site.named relative

theorem body_join (site : Site entries) {below : Path} (relative : below.isAbsolute = false) :
    (site.base.join below).body = site.names ++ below.body :=
  Path.body_join_directory site.named relative

theorem not_contains_base (site : Site entries) :
    site.base.text.toList.contains '\x00' = false := by
  have holds := site.holds
  rw [node_of_isAbsolute _ (Path.isAbsolute_directory _)] at holds
  split at holds
  · cases holds
  · next free => simpa [base] using free

/-- An empty piece does not change where a directory is found. -/
theorem outcome_follow_empty {root : FileNode} {others : List (String × FileNode)}
    (found : outcome (follow root true linkLimit [] [""]) = .ok (.directory others)) :
    outcome (follow root true linkLimit [] []) = .ok (.directory others) := by
  have isRoot : root.descendant? [] = some root := rfl
  rw [follow_empty isRoot] at found
  rw [follow_nil isRoot]
  split at found
  · exact found
  · cases found

/-- The names of a site lead to its tree. -/
theorem follow_names (site : Site entries) : ∃ place,
    follow site.system.root true linkLimit [] site.names =
      .ok (.occupied place (.directory entries)) := by
  have holds := site.holds
  rw [node_of_isAbsolute _ (Path.isAbsolute_directory _),
    if_neg (by simpa [base] using site.not_contains_base), Path.body_directory site.named] at holds
  have atNames : outcome (follow site.system.root true linkLimit [] site.names) =
      .ok (.directory entries) := by
    split at holds
    · next empty =>
        rw [empty]
        exact outcome_follow_empty holds
    · exact holds
  exact exists_occupied atNames

/-- Below a site, paths are followed from the place of its tree. -/
theorem exists_onward (site : Site entries) : ∃ left place,
    site.system.root.descendant? place = some (.directory entries) ∧
    (site.IsReal → left = linkLimit) ∧
    ∀ followsEnd rest, rest ≠ [] →
      follow site.system.root followsEnd linkLimit [] (site.names ++ rest) =
        follow site.system.root followsEnd left place rest := by
  rcases site.follow_names with ⟨place, found⟩
  by_cases isReal : site.IsReal
  · refine ⟨linkLimit, site.names, isReal, fun _ => rfl, fun followsEnd rest _ => ?_⟩
    exact onward_of_descendant? site.named found isReal followsEnd rest
  · rcases leadsTo_of_found found with ⟨left, leads⟩
    exact ⟨left, place, leads.isNode, fun real => absurd real isReal, leads.onward⟩

theorem contains_join (site : Site entries) {below : Path} (relative : below.isAbsolute = false)
    (character : Char) (absent : site.base.text.toList.contains character = false)
    (noSlash : character ≠ '/') :
    (site.base.join below).text.toList.contains character =
      below.text.toList.contains character := by
  rw [base, Path.toList_join (Path.text_directory_ne _) relative, Path.ended]
  simp only [base, List.contains_eq_mem, decide_eq_false_iff_not] at absent
  split <;> simp [List.mem_append, absent, noSlash]

/-! ## Two sites of one tree -/

variable {linked : Bool} (first second : Site entries)

/-- What is compared: two sites of a closed tree. Where the tree holds links, the links on
the way to the sites must not use up those that a path may lead through. -/
structure Comparable (linked : Bool) (first second : Site entries) : Prop where
  closed : FileNode.entriesClosed linked 0 entries = true
  real : linked = true → first.IsReal ∧ second.IsReal

variable {first second} (comparable : Comparable linked first second)

include comparable

theorem outcome_locate_join_eq {below : Path} (relative : below.isAbsolute = false)
    (inside : below.body.all (· != "..") = true) (followsEnd : Bool) :
    outcome (first.system.locate followsEnd (first.base.join below)) =
      outcome (second.system.locate followsEnd (second.base.join below)) := by
  have contains (site : Site entries) :=
    site.contains_join relative '\x00' site.not_contains_base (by decide)
  rw [locate_of_isAbsolute _ _ (first.isAbsolute_join relative),
    locate_of_isAbsolute _ _ (second.isAbsolute_join relative), contains, contains,
    body_join _ relative, body_join _ relative]
  split
  · rfl
  · rcases first.exists_onward with ⟨firstLeft, firstPlace, isFirst, firstReal, firstOnward⟩
    rcases second.exists_onward with ⟨secondLeft, secondPlace, isSecond, secondReal, secondOnward⟩
    have notEmpty := Path.body_ne_nil relative
    rw [firstOnward _ _ notEmpty, secondOnward _ _ notEmpty]
    have sameLinks : linked = true → firstLeft = secondLeft := by
      intro isLinked
      have ⟨real, alsoReal⟩ := comparable.real isLinked
      rw [firstReal real, secondReal alsoReal]
    have same := @outcome_follow_eq linked entries _ _ firstPlace secondPlace comparable.closed
      isFirst isSecond followsEnd _ _ sameLinks [] below.body (Path.staysAt_of_free inside)
    simpa using same

theorem node_join_eq {below : Path} (relative : below.isAbsolute = false)
    (inside : below.body.all (· != "..") = true) :
    first.system.node (first.base.join below) = second.system.node (second.base.join below) := by
  rw [node_eq_outcome, node_eq_outcome]
  exact outcome_locate_join_eq comparable relative inside true

theorem entry_join_eq {below : Path} (relative : below.isAbsolute = false)
    (inside : below.body.all (· != "..") = true) :
    first.system.entry (first.base.join below) = second.system.entry (second.base.join below) := by
  rw [entry_eq_outcome, entry_eq_outcome]
  exact outcome_locate_join_eq comparable relative inside false

end Site

end DirectiveScan
