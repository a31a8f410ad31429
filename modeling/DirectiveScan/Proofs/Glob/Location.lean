import DirectiveScan.Proofs.Glob.Depth
import DirectiveScan.Proofs.Glob.Literal

namespace DirectiveScan

/-! Expansions below two sites.

A pattern below a site whose names hold no wildcards is expanded from the site on. At two
sites of one closed tree, the paths that a pattern stands for are twins. -/

namespace Glob

/-! ## Reading a pattern behind a directory -/

/-- The pieces of a pattern that stands behind a slash. -/
def readBehind (text : Path) : Option PathPattern := do
  let _ ← (readTokens (some '/') 0 0 text.text.toList).toOption
  let needsDirectory := text.body.getLast? = some ""
  let pieces := if needsDirectory then text.body.dropLast else text.body
  return ⟨← (pieces.mapM Pattern.read).toOption, needsDirectory⟩

theorem mapM_read_names {names pieces : List String}
    (plain : ∀ name ∈ names, isPlain name.toList = true) :
    (names ++ pieces).mapM Pattern.read =
      (pieces.mapM Pattern.read).map (names.map Pattern.ofText ++ ·) := by
  induction names with
  | nil => cases isRead : pieces.mapM Pattern.read <;> simp [isRead, Except.map]
  | cons name names induction =>
      rw [List.cons_append, List.mapM_cons, read_plain (plain name List.mem_cons_self),
        induction fun one member => plain one (List.mem_cons_of_mem _ member)]
      cases pieces.mapM Pattern.read <;> rfl

/-- Whether a piece of a pattern can lead to the parent of a directory. -/
def leadsUp (piece : String) : Bool :=
  (Pattern.read piece).toOption.any fun pattern => (pointNames pattern).contains ".."

theorem isLevel_of_read {piece : String} {pattern : Pattern}
    (read : Pattern.read piece = .ok pattern) (free : '/' ∉ piece.toList)
    (level : leadsUp piece = false) : pattern.IsLevel where
  literal := by
    rintro name isLiteral
    cases eq_of_literal? read isLiteral
    refine ⟨free, ?_⟩
    rintro rfl
    exact absurd level (by decide)
  points := by
    rw [leadsUp, read] at level
    simpa [Except.toOption] using level

theorem isLevel_of_readBehind {text : Path}
    (level : ∀ piece ∈ text.body, leadsUp piece = false) {behind : PathPattern}
    (read : readBehind text = some behind) : ∀ pattern ∈ behind.pieces, pattern.IsLevel := by
  rw [readBehind] at read
  rcases Option.bind_eq_some_iff.mp read with ⟨_, _, read⟩
  rcases Option.bind_eq_some_iff.mp read with ⟨pieces, isPieces, same⟩
  cases same
  intro pattern member
  rcases exists_of_mem_mapM (eq_ok_of_toOption isPieces) member with ⟨piece, isPiece, isRead⟩
  have inBody : piece ∈ text.body := by
    split at isPiece
    · exact List.dropLast_subset _ isPiece
    · exact isPiece
  exact isLevel_of_read isRead (Path.not_mem_of_mem_body inBody) (level piece inBody)

end Glob

namespace Site

open FileSystem Glob

variable {entries : List (String × FileNode)} {linked : Bool} {first second : Site entries}
  {needsDirectory : Bool}

/-! ## Expansions at twins -/

theorem Twin.entry_join_eq (comparable : Comparable linked first second) {left right : Path}
    (twin : Twin first second left right) {piece : String} (free : '/' ∉ piece.toList)
    (notUp : piece ≠ "..") :
    first.system.entry (Glob.step left piece) = second.system.entry (Glob.step right piece) := by
  rw [step_of_isAbsolute twin.isAbsolute_left, step_of_isAbsolute twin.symm.isAbsolute_left]
  cases twin with
  | base =>
      have tail := isTail_piece free notUp
      exact Site.entry_join_eq comparable tail.relative tail.inside
  | below tail =>
      have next := isTail_join tail free notUp
      rw [base_join_join first tail free, base_join_join second tail free]
      exact Site.entry_join_eq comparable next.relative next.inside

theorem Twin.leadsOn_eq (comparable : Comparable linked first second) {left right : Path}
    (twin : Twin first second left right) {piece : String} (free : '/' ∉ piece.toList)
    (notUp : piece ≠ "..") :
    leadsOn first.system left (Glob.step left piece) piece =
      leadsOn second.system right (Glob.step right piece) piece := by
  have sameNode := (twin.step free notUp).node_eq comparable
  rw [leadsOn, leadsOn, twin.isDirectory_eq comparable, twin.entry_join_eq comparable free notUp,
    FileSystem.holds, FileSystem.holds, sameNode]

theorem Twin.forall₂_finish (comparable : Comparable linked first second) {left right : Path}
    (twin : Twin first second left right) :
    List.Forall₂ (Twin first second) (finish first.system needsDirectory left)
      (finish second.system needsDirectory right) := by
  rw [finish, finish, twin.isDirectory_eq comparable]
  split
  · exact .nil
  · exact .cons twin .nil

theorem forall₂_flatMap {α β γ : Type} {related : β → γ → Prop} {values : List α}
    {left : α → List β} {right : α → List γ}
    (each : ∀ value ∈ values, List.Forall₂ related (left value) (right value)) :
    List.Forall₂ related (values.flatMap left) (values.flatMap right) := by
  induction values with
  | nil => exact .nil
  | cons value rest induction =>
      rw [List.flatMap_cons, List.flatMap_cons]
      exact List.rel_append (each value List.mem_cons_self)
        (induction fun one member => each one (List.mem_cons_of_mem _ member))

/-- With a bound, expansions at twins give twins. -/
structure ExpandsToTwins (first second : Site entries) (needsDirectory : Bool) (bound : Nat) :
    Prop where
  below : ∀ patterns left right, (∀ pattern ∈ patterns, pattern.IsLevel) →
    Twin first second left right →
    List.Forall₂ (Twin first second) (expandBelow first.system needsDirectory bound patterns left)
      (expandBelow second.system needsDirectory bound patterns right)
  at_ : ∀ patterns left right, (∀ pattern ∈ patterns, pattern.IsLevel) →
    NamedTwin first second left right →
    List.Forall₂ (Twin first second) (expandAt first.system needsDirectory bound patterns left)
      (expandAt second.system needsDirectory bound patterns right)
  name : ∀ patterns left right, (∀ pattern ∈ patterns, pattern.IsLevel) →
    NamedTwin first second left right →
    List.Forall₂ (Twin first second) (expandName first.system needsDirectory bound patterns left)
      (expandName second.system needsDirectory bound patterns right)

theorem forall₂_expandBelow (comparable : Comparable linked first second) {bound : Nat}
    (known : ExpandsToTwins first second needsDirectory bound) {patterns : List Pattern}
    {left right : Path} (level : ∀ pattern ∈ patterns, pattern.IsLevel)
    (twin : Twin first second left right) :
    List.Forall₂ (Twin first second)
      (expandBelow first.system needsDirectory (bound + 1) patterns left)
      (expandBelow second.system needsDirectory (bound + 1) patterns right) := by
  cases patterns with
  | nil => exact twin.forall₂_finish comparable
  | cons pattern rest =>
      have isLevel := level pattern List.mem_cons_self
      have restLevel : ∀ one ∈ rest, one.IsLevel :=
        fun one member => level one (List.mem_cons_of_mem _ member)
      rw [expandBelow, expandBelow]
      cases literal : pattern.literal? with
      | some name =>
          rcases isLevel.literal name literal with ⟨free, notUp⟩
          simp only [twin.leadsOn_eq comparable free notUp]
          split
          · exact known.below rest _ _ restLevel (twin.step free notUp)
          · exact .nil
      | none =>
          simp only [twin.isListable_eq comparable, twin.namesIn_eq comparable]
          split
          · next isListable =>
              apply List.rel_append
              · apply forall₂_flatMap
                intro name member
                rw [eq_point isLevel (List.mem_reverse.mp member)]
                exact known.below rest _ _ restLevel (twin.join (by decide) (by decide))
              · apply forall₂_flatMap
                intro name member
                have named := twin.symm.isName_of_mem_namesIn comparable.symm isListable member
                exact known.at_ (pattern :: rest) _ _ level (twin.step_name named)
          · exact .nil

theorem forall₂_expandAt (comparable : Comparable linked first second) {bound : Nat}
    (known : ExpandsToTwins first second needsDirectory bound) {patterns : List Pattern}
    {left right : Path} (level : ∀ pattern ∈ patterns, pattern.IsLevel)
    (twin : NamedTwin first second left right) :
    List.Forall₂ (Twin first second)
      (expandAt first.system needsDirectory (bound + 1) patterns left)
      (expandAt second.system needsDirectory (bound + 1) patterns right) := by
  cases patterns with
  | nil => exact twin.twin.forall₂_finish comparable
  | cons pattern rest =>
      have isLevel := level pattern List.mem_cons_self
      have furtherLevel : ∀ one ∈ rest.dropWhile Pattern.isRecursive, one.IsLevel :=
        fun one member =>
          level one (List.mem_cons_of_mem _ ((List.dropWhile_sublist _).subset member))
      rw [expandAt, expandAt]
      split
      · cases further : rest.dropWhile Pattern.isRecursive with
        | nil =>
            simp only [twin.twin.isDirectory_eq comparable]
            split
            · exact .cons twin.twin (known.below [pattern] _ _ (by simpa using isLevel) twin.twin)
            · exact .nil
        | cons next others =>
            rw [further] at furtherLevel
            exact List.rel_append (known.name _ _ _ furtherLevel twin)
              (known.below _ _ _ (List.forall_mem_cons.mpr ⟨isLevel, furtherLevel⟩) twin.twin)
      · exact known.name _ _ _ level twin

theorem forall₂_expandName (comparable : Comparable linked first second) {bound : Nat}
    (known : ExpandsToTwins first second needsDirectory bound) {patterns : List Pattern}
    {left right : Path} (level : ∀ pattern ∈ patterns, pattern.IsLevel)
    (twin : NamedTwin first second left right) :
    List.Forall₂ (Twin first second)
      (expandName first.system needsDirectory (bound + 1) patterns left)
      (expandName second.system needsDirectory (bound + 1) patterns right) := by
  cases patterns with
  | nil => exact twin.twin.forall₂_finish comparable
  | cons pattern rest =>
      unfold expandName
      rw [twin.fileName?_eq]
      split
      · cases rest with
        | nil => exact twin.twin.forall₂_finish comparable
        | cons next others =>
            have restLevel : ∀ one ∈ next :: others, one.IsLevel :=
              fun one member => level one (List.mem_cons_of_mem _ member)
            exact known.below _ _ _ restLevel twin.twin
      · exact .nil

theorem expandsToTwins (comparable : Comparable linked first second) (bound : Nat) :
    ExpandsToTwins first second needsDirectory bound := by
  induction bound with
  | zero =>
      refine ⟨fun _ _ _ _ _ => ?_, fun _ _ _ _ _ => ?_, fun _ _ _ _ _ => ?_⟩
      · exact .nil
      · exact .nil
      · exact .nil
  | succ bound known =>
      exact ⟨fun _ _ _ => forall₂_expandBelow comparable known,
        fun _ _ _ => forall₂_expandAt comparable known,
        fun _ _ _ => forall₂_expandName comparable known⟩

/-! ## From the root to a site -/

/-- Every directory on the way to a site is there. -/
theorem holds_directory (site : Site entries) {done others : List String} (notEmpty : done ≠ [])
    (isNames : done ++ others = site.names) : site.system.holds (Path.directory done) = true := by
  have named : ∀ name ∈ done, Path.isName name = true := fun name member =>
    site.named name (isNames ▸ List.mem_append_left _ member)
  have free : (Path.directory done).text.toList.contains '\x00' = false := by
    have absent := site.not_contains_base
    simp only [List.contains_eq_mem, decide_eq_false_iff_not, base,
      Path.mem_directory site.named (by decide : '\x00' ≠ '/')] at absent
    simp only [List.contains_eq_mem, decide_eq_false_iff_not,
      Path.mem_directory named (by decide : '\x00' ≠ '/')]
    rintro ⟨name, member, holdsIt⟩
    exact absent ⟨name, isNames ▸ List.mem_append_left _ member, holdsIt⟩
  have found : ∃ there node,
      follow site.system.root true linkLimit [] done = .ok (.occupied there node) := by
    rcases site.follow_names with ⟨place, found⟩
    rw [← isNames] at found
    rcases FileSystem.leads site.system.root linkLimit [] done
      with ⟨left, there, node, leads⟩ | nowhere
    · exact ⟨there, node, leads.found⟩
    · cases others with
      | nil =>
          rw [List.append_nil] at found
          exact absurd found (nowhere.nothing _ _)
      | cons name rest =>
          rcases nowhere.onward true (name :: rest) (by simp) with ⟨failure, fails⟩
          cases found.symm.trans fails
  rcases found with ⟨there, node, found⟩
  rw [FileSystem.holds, node_of_isAbsolute _ (Path.isAbsolute_directory _),
    free, if_neg Bool.false_ne_true, Path.body_directory named, if_neg notEmpty, found]
  rfl

/-- The names of a site are looked up one after the other. -/
theorem expandBelow_names (site : Site entries) (bound : Nat) (patterns : List Pattern)
    {done others : List String} (isNames : done ++ others = site.names) :
    expandBelow site.system needsDirectory (bound + others.length)
        (others.map Pattern.ofText ++ patterns) (Path.directory done) =
      expandBelow site.system needsDirectory bound patterns site.base := by
  induction others generalizing done with
  | nil =>
      rw [List.append_nil] at isNames
      rw [isNames]
      rfl
  | cons name rest induction =>
      have next : (done ++ [name]) ++ rest = site.names := by simpa using isNames
      have named : ∀ one ∈ done ++ [name], Path.isName one = true := fun one member =>
        site.named one (next ▸ List.mem_append_left _ member)
      have isNamed := named name (by simp)
      have joined : step (Path.directory done) name = Path.directory (done ++ [name]) := by
        rw [step_of_isAbsolute (Path.isAbsolute_directory done)]
        exact Path.join_directory_name named
          (Path.body_of_not_mem (Path.not_mem_of_isName isNamed)).1
      have notPoint : (name = "." || name = "..") = false := by
        have counts := Path.isSignificant_of_isName isNamed
        have notUp := Path.ne_parent_of_isName isNamed
        simp_all [Path.isSignificant]
      have found : leadsOn site.system (Path.directory done)
          (Path.directory (done ++ [name])) name = true := by
        rw [leadsOn, notPoint, site.holds_directory (by simp) next]
        rfl
      rw [List.map_cons, List.cons_append, List.length_cons, ← Nat.add_assoc, expandBelow]
      simp only [literal?_ofText, joined, found, if_true]
      exact induction next

/-! ## Patterns below a site -/

/-- The pieces of a pattern below a site follow the names of the site. -/
theorem toOption_read_join (site : Site entries) (plain : isPlain site.base.text.toList = true)
    {text : Path} (relative : text.isAbsolute = false) :
    (PathPattern.read (site.base.join text)).toOption =
      (readBehind text).map fun behind =>
        ⟨site.names.map Pattern.ofText ++ behind.pieces, behind.needsDirectory⟩ := by
  have plainNames : ∀ name ∈ site.names, isPlain name.toList = true := by
    intro name member
    rw [isPlain, List.all_eq_true] at plain ⊢
    intro character inName
    have noSlash : character ≠ '/' := fun same =>
      Path.not_mem_of_isName (site.named name member) (same ▸ inName)
    exact plain character ((Path.mem_directory site.named noSlash).mpr ⟨name, member, inName⟩)
  have plainStem : isPlain (Path.stem site.names) = true := by
    rw [← Path.ended_directory site.named, Path.ended]
    split
    · exact plain
    · rw [isPlain, List.all_append, Bool.and_eq_true]
      exact ⟨plain, by decide⟩
  have notEmpty := Path.body_ne_nil relative
  have whole : (Pattern.read (site.base.join text).text).toOption.isSome =
      (readTokens (some '/') 0 0 text.text.toList).toOption.isSome := by
    rw [Pattern.read, toOption_map, Option.isSome_map, base,
      Path.toList_join_directory site.named relative,
      isSome_readTokens_plain plainStem (Path.stem_ne_nil _), Path.getLast?_stem]
  have pieces : (if text.body.getLast? = some "" then (site.names ++ text.body).dropLast
        else site.names ++ text.body) =
      site.names ++ if text.body.getLast? = some "" then text.body.dropLast else text.body := by
    rw [List.dropLast_append_of_ne_nil notEmpty]
    split <;> rfl
  rw [PathPattern.read, readBehind, body_join _ relative]
  simp only [toOption_bind, Path.getLast?_append_of_ne_nil _ notEmpty, pieces,
    mapM_read_names plainNames, toOption_map]
  cases isWhole : (Pattern.read (site.base.join text).text).toOption <;>
    cases isText : (readTokens (some '/') 0 0 text.text.toList).toOption <;>
    simp only [isWhole, isText, Option.isSome_none, Option.isSome_some, Bool.false_eq_true,
      Bool.true_eq_false] at whole
  · rfl
  · simp only [Option.bind_some]
    cases (List.mapM Pattern.read _).toOption <;> rfl

/-- There are steps enough in the bound of an expansion for what lies below a site. -/
theorem steps_le_bound (site : Site entries) (patterns : List Pattern) :
    site.names.length + (steps (depthOf entries) patterns (depthOf entries) + 1) ≤
      4 * ((site.names.map Pattern.ofText ++ patterns).length + 1) * (site.system.root.size + 1) *
        (linkLimit + 1) := by
  rcases site.exists_onward with ⟨_, place, isPlace, _⟩
  have size := FileNode.size_le_of_descendant? isPlace
  generalize large : (site.system.root.size + 1) * (linkLimit + 1) = most
  have smaller : depthOf entries ≤ most := by
    rw [← large, depthOf, Nat.mul_comm]
    exact Nat.mul_le_mul_right _ (by omega)
  have atLeast : 41 ≤ most := by
    rw [← large]
    exact Nat.le_mul_of_pos_left _ (Nat.succ_pos _)
  have product : patterns.length * (depthOf entries + 1) ≤
      most * patterns.length + patterns.length := by
    rw [← Nat.succ_mul, Nat.mul_comm]
    exact Nat.mul_le_mul_right _ (by omega)
  have few : 41 * patterns.length ≤ most * patterns.length := Nat.mul_le_mul_right _ atLeast
  have fewNames : 41 * site.names.length ≤ most * site.names.length :=
    Nat.mul_le_mul_right _ atLeast
  rw [Nat.mul_assoc, large, steps, List.length_append, List.length_map]
  have whole : 4 * (site.names.length + patterns.length + 1) * most =
      4 * (most * site.names.length + most * patterns.length + most) := by
    rw [Nat.mul_assoc, Nat.add_mul, Nat.add_mul, Nat.one_mul, Nat.mul_comm most, Nat.mul_comm most]
  omega

/-- A pattern below a site is expanded from the site on. -/
theorem toOption_expand (comparable : Comparable linked first (alone entries))
    (plain : isPlain first.base.text.toList = true) {text : Path}
    (relative : text.isAbsolute = false) (level : ∀ piece ∈ text.body, leadsUp piece = false) :
    (expand first.system (first.base.join text)).toOption =
      (readBehind text).map fun behind =>
        expandBelow first.system behind.needsDirectory
          (steps (depthOf entries) behind.pieces (depthOf entries) + 1) behind.pieces
          first.base := by
  have atRoot : (first.base.join text).isAbsolute = true := first.isAbsolute_join relative
  rw [expand, toOption_bind, toOption_read_join first plain relative, Option.bind_map, atRoot]
  cases isRead : readBehind text with
  | none => rfl
  | some behind =>
      have level := isLevel_of_readBehind level isRead
      have atBase : first.Reaches first.base := ⟨_, .base⟩
      have isRegion := region comparable
      have bounds := first.steps_le_bound behind.pieces
      rcases Nat.exists_eq_add_of_le' (Nat.le_trans (Nat.le_add_right _ _) bounds)
        with ⟨bound, isBound⟩
      rw [isBound] at bounds
      have fromBase : expandBelow first.system behind.needsDirectory (bound + first.names.length)
            (first.names.map Pattern.ofText ++ behind.pieces) ⟨"/"⟩ =
          expandBelow first.system behind.needsDirectory bound behind.pieces first.base :=
        first.expandBelow_names bound behind.pieces (List.nil_append _)
      have isStable : Stable first.system behind.needsDirectory _ _ bound := stable isRegion bound
      have fewer := isStable.below _ _ _ _ level atBase (isRegion.shallow _ atBase)
        (Nat.le_refl _) (by omega) (Nat.le_refl _)
      simp only [Option.map_some, Option.bind_some, Function.comp_apply, isBound]
      exact congrArg some (fromBase.trans fewer)

/-- The paths that a pattern stands for below two sites are twins. -/
theorem forall₂_expand (comparable : Comparable linked first second)
    (plain : isPlain first.base.text.toList = true)
    (alsoPlain : isPlain second.base.text.toList = true) {text : Path}
    (relative : text.isAbsolute = false) (level : ∀ piece ∈ text.body, leadsUp piece = false) :
    List.Forall₂ (Twin first second)
      ((expand first.system (first.base.join text)).toOption.getD [])
      ((expand second.system (second.base.join text)).toOption.getD []) := by
  rw [toOption_expand comparable.alone plain relative level,
    toOption_expand comparable.symm.alone alsoPlain relative level]
  cases isRead : readBehind text with
  | none => exact .nil
  | some behind =>
      exact (expandsToTwins comparable _).below _ _ _ (isLevel_of_readBehind level isRead) .base

end Site

end DirectiveScan
