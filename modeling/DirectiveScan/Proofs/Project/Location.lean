import DirectiveScan.Proofs.Glob.Accept
import DirectiveScan.Proofs.Glob.Location
import DirectiveScan.Proofs.Project.Order

namespace DirectiveScan

/-! Discovery and the place of a project.

The places to look at and the paths to leave out are told by the tree of a project alone. The
patterns of what is left out are not: they are matched with whole paths, so the directories
above a project count as well. The main statement says exactly which files are found at a
site, and when two sites of one tree find the same. -/

open Glob

namespace Discovery

/-- Whether a text to include leads to places at and below a directory only. -/
def staysInside (text : String) : Bool :=
  !(Path.mk text).isAbsolute &&
    (Path.mk text).body.all fun piece =>
      if Pattern.isMeant text then !leadsUp piece else piece != ".."

/-- Whether a project is searched by paths and patterns below its directory. -/
structure AreInside (includes ignores : List String) : Prop where
  includes : ∀ text ∈ includes, staysInside text = true
  ignores : ∀ text ∈ ignores, Pattern.isMeant text = false → (Path.mk text).isAbsolute = false

/-- The source files at and below the roots that no path leaves out. -/
def considered (system : FileSystem) (base : Path) (includes ignores : List String) : List Path :=
  (roots system base includes).flatMap
    (filesBelow system ⟨(exclusion base ignores false).paths, []⟩)

variable {system : FileSystem} {base : Path} {includes ignores : List String}
  {ignoreTestFiles : Bool}

theorem filesBelow_eq (exclusion : Exclusion) (root : Path) :
    filesBelow system exclusion root =
      (Site.filesAt system root).filter fun path =>
        !exclusion.excludes path && path.isSourceFile := by
  rw [filesBelow, Site.filesAt, Site.filesOf, List.filter_map, List.filter_filter]
  congr 1
  apply List.filter_congr
  intro found _
  simp only [Function.comp_apply]
  rw [Bool.and_right_comm]

theorem mem_considered_iff_exists_root {path : Path} :
    path ∈ considered system base includes ignores ↔
      ∃ root ∈ roots system base includes, path ∈ Site.filesAt system root ∧
        (exclusion base ignores false).paths.any path.isBelow = false ∧
        path.isSourceFile = true := by
  simp [considered, filesBelow_eq, Exclusion.excludes]

/-- Found are the places of the considered files that no pattern is matched with. -/
theorem exists_mem_files_iff (place : List Component) :
    (∃ path ∈ (discover system base includes ignores ignoreTestFiles).files,
      path.components = place) ↔
    ∃ path ∈ considered system base includes ignores, path.components = place ∧
      (exclusion base ignores ignoreTestFiles).patterns.any (·.accepts path.text) = false := by
  have samePaths : (exclusion base ignores ignoreTestFiles).paths =
      (exclusion base ignores false).paths := rfl
  rw [discover, Path.exists_mem_ordered_iff]
  apply exists_congr
  intro path
  rw [mem_considered_iff_exists_root]
  simp only [List.mem_flatMap, filesBelow_eq, List.mem_filter, Exclusion.excludes, samePaths,
    Bool.and_eq_true, Bool.not_eq_true', Bool.or_eq_false_iff]
  constructor
  · rintro ⟨⟨root, isRoot, found, ⟨kept, unmatched⟩, isSource⟩, atPlace⟩
    exact ⟨⟨root, isRoot, found, kept, isSource⟩, atPlace, unmatched⟩
  · rintro ⟨⟨root, isRoot, found, kept, isSource⟩, atPlace, unmatched⟩
    exact ⟨⟨root, isRoot, found, ⟨kept, unmatched⟩, isSource⟩, atPlace⟩

theorem mem_patternsOf_iff {texts : List String} {pattern : Pattern} :
    pattern ∈ patternsOf texts ↔ ∃ text ∈ texts, Pattern.read text = .ok pattern := by
  rw [patternsOf, List.mem_filterMap]
  apply exists_congr
  intro text
  apply and_congr_right
  intro _
  cases Pattern.read text <;> simp [Except.toOption]

end Discovery

namespace Site

open Discovery

variable {entries : List (String × FileNode)} {linked : Bool} {first second : Site entries}
  {includes ignores : List String} {ignoreTestFiles : Bool}

/-! ## The considered files of two sites -/

/-- Where patterns stand in what is included, the paths of two sites hold no wildcards. -/
def ArePlain (first second : Site entries) (includes : List String) : Prop :=
  ∀ text ∈ includes, Pattern.isMeant text = true →
    isPlain first.base.text.toList = true ∧ isPlain second.base.text.toList = true

theorem forall₂_rootsOf (comparable : Comparable linked first second) {text : String}
    (inside : staysInside text = true)
    (plain : Pattern.isMeant text = true →
      isPlain first.base.text.toList = true ∧ isPlain second.base.text.toList = true) :
    List.Forall₂ (Twin first second) (rootsOf first.system first.base text)
      (rootsOf second.system second.base text) := by
  rw [staysInside, Bool.and_eq_true, List.all_eq_true] at inside
  have relative : (Path.mk text).isAbsolute = false := by simpa using inside.1
  rw [rootsOf, rootsOf]
  cases isMeant : Pattern.isMeant text with
  | true =>
      have ⟨firstPlain, secondPlain⟩ := plain isMeant
      have level : ∀ piece ∈ (Path.mk text).body, leadsUp piece = false := by
        intro piece member
        simpa [isMeant] using inside.2 piece member
      refine List.rel_filter ?_ (forall₂_expand comparable firstPlain secondPlain relative level)
      intro left right twin
      simp only [twin.isDirectory_eq comparable]
  | false =>
      have tail : IsTail ⟨text⟩ := by
        refine ⟨relative, List.all_eq_true.mpr fun piece member => ?_⟩
        simpa [isMeant] using inside.2 piece member
      have twin : Twin first second (first.base.join ⟨text⟩) (second.base.join ⟨text⟩) := .below tail
      have sameHolds : first.system.holds (first.base.join ⟨text⟩) =
          second.system.holds (second.base.join ⟨text⟩) := by
        rw [FileSystem.holds, FileSystem.holds, twin.node_eq comparable]
      simp only [sameHolds, Bool.false_eq_true, if_false]
      cases second.system.holds (second.base.join ⟨text⟩) with
      | true => exact .cons twin .nil
      | false => exact .nil

theorem forall₂_roots (comparable : Comparable linked first second)
    (inside : AreInside includes ignores) (plain : ArePlain first second includes) :
    List.Forall₂ (Twin first second) (roots first.system first.base includes)
      (roots second.system second.base includes) := by
  rw [roots, roots]
  split
  · exact .cons .base .nil
  · exact forall₂_flatMap fun text member =>
      forall₂_rootsOf comparable (inside.includes text member) (plain text member)

/-- What paths leave out is left out of both sites. -/
theorem NamedTwin.excluded_eq (inside : AreInside includes ignores) {left right : Path}
    (twin : NamedTwin first second left right) :
    (exclusion first.base ignores false).paths.any left.isBelow =
      (exclusion second.base ignores false).paths.any right.isBelow := by
  rcases twin with ⟨below, tail, _, rfl, rfl⟩
  have excluded (site : Site entries) :
      (exclusion site.base ignores false).paths.any (site.base.join below).isBelow =
        (ignores.filter fun text => !Pattern.isMeant text).any fun text =>
          (Path.mk text).steps.isPrefixOf below.steps := by
    rw [exclusion, Bool.eq_iff_iff]
    simp only [List.any_map, List.any_eq_true, Function.comp_apply]
    apply exists_congr
    intro text
    apply and_congr_right
    intro member
    have ⟨isIgnored, isPath⟩ := List.mem_filter.mp member
    rw [base, Path.isBelow_join (Path.text_directory_ne _) tail.relative
      (inside.ignores text isIgnored (by simpa using isPath))]
  rw [excluded, excluded]

theorem NamedTwin.isSourceFile_eq {left right : Path} (twin : NamedTwin first second left right) :
    left.isSourceFile = right.isSourceFile := by
  rw [Path.isSourceFile, Path.isSourceFile, Path.extension?, Path.extension?, twin.fileName?_eq]

/-- The files that are considered at two sites are twins. -/
theorem forall₂_considered (comparable : Comparable linked first second)
    (inside : AreInside includes ignores) (plain : ArePlain first second includes) :
    List.Forall₂ (NamedTwin first second)
      (considered first.system first.base includes ignores)
      (considered second.system second.base includes ignores) := by
  refine List.rel_flatMap (forall₂_roots comparable inside plain) ?_
  intro left right twin
  rw [filesBelow_eq, filesBelow_eq]
  refine List.rel_filter ?_ (forall₂_filesAt comparable twin)
  intro one other files
  simp only [Exclusion.excludes, List.any_nil, Bool.or_false, files.excluded_eq inside,
    files.isSourceFile_eq]

/-! ## What is found at a site -/

/-- Whether a relative path spells a file of the tree that is considered. -/
def IsCandidate (entries : List (String × FileNode)) (includes ignores : List String)
    (below : Path) : Prop :=
  below.isAbsolute = false ∧ (alone entries).base.join below ∈
    considered (alone entries).system (alone entries).base includes ignores

/-- Whether a pattern of what is left out is matched with a path below a site. -/
def isMatched (site : Site entries) (ignores : List String) (ignoreTestFiles : Bool)
    (below : Path) : Bool :=
  (exclusion site.base ignores ignoreTestFiles).patterns.any
    (·.accepts (site.base.join below).text)

/-- Whether the files found at a site include one at a place below the site. -/
def Finds (site : Site entries) (includes ignores : List String) (ignoreTestFiles : Bool)
    (place : List Component) : Prop :=
  ∃ path ∈ (discover site.system site.base includes ignores ignoreTestFiles).files,
    path.components = site.base.components ++ place

instance (site : Site entries) (includes ignores : List String) (ignoreTestFiles : Bool)
    (place : List Component) : Decidable (site.Finds includes ignores ignoreTestFiles place) :=
  inferInstanceAs (Decidable (∃ path ∈ _, _))

theorem join_injective (site : Site entries) {left right : Path}
    (relative : left.isAbsolute = false) (alsoRelative : right.isAbsolute = false)
    (same : site.base.join left = site.base.join right) : left = right := by
  have texts := congrArg (·.text.toList) same
  simp only [base, Path.toList_join_directory site.named relative,
    Path.toList_join_directory site.named alsoRelative] at texts
  exact Path.ext_toList (List.append_cancel_left texts)

theorem exists_mem_of_forall₂ {α β : Type} {related : α → β → Prop} {lefts : List α}
    {rights : List β} (all : List.Forall₂ related lefts rights) {left : α} (member : left ∈ lefts) :
    ∃ right ∈ rights, related left right := by
  induction all with
  | nil => cases member
  | cons isRelated _ induction =>
      rcases List.mem_cons.mp member with rfl | inRest
      · exact ⟨_, List.mem_cons_self, isRelated⟩
      · rcases induction inRest with ⟨right, inRights, alsoRelated⟩
        exact ⟨right, List.mem_cons_of_mem _ inRights, alsoRelated⟩

section

variable (comparable : Comparable linked first (alone entries))
  (inside : AreInside includes ignores) (plain : ArePlain first (alone entries) includes)

include comparable inside plain

/-- At every site the candidates are considered. -/
theorem mem_considered_iff {path : Path} :
    path ∈ considered first.system first.base includes ignores ↔
      ∃ below, IsCandidate entries includes ignores below ∧ path = first.base.join below := by
  have twins := forall₂_considered comparable inside plain
  constructor
  · intro member
    rcases exists_mem_of_forall₂ twins member with ⟨_, isFound, below, tail, _, rfl, rfl⟩
    exact ⟨below, ⟨tail.relative, isFound⟩, rfl⟩
  · rintro ⟨below, ⟨isRelative, isFound⟩, rfl⟩
    rcases exists_mem_of_forall₂ twins.flip isFound with ⟨_, member, other, tail, _, rfl, same⟩
    rwa [join_injective _ isRelative tail.relative same]

/-- What is found are the candidates that no pattern is matched with. -/
theorem exists_mem_files_iff_candidate (place : List Component) :
    (∃ path ∈ (discover first.system first.base includes ignores ignoreTestFiles).files,
      path.components = place) ↔
    ∃ below, IsCandidate entries includes ignores below ∧
      first.base.components ++ below.steps = place ∧
      first.isMatched ignores ignoreTestFiles below = false := by
  simp only [exists_mem_files_iff, mem_considered_iff comparable inside plain]
  constructor
  · rintro ⟨_, ⟨below, candidate, rfl⟩, rfl, unmatched⟩
    exact ⟨below, candidate,
      (Path.components_join (Path.text_directory_ne _) candidate.1).symm, unmatched⟩
  · rintro ⟨below, candidate, rfl, unmatched⟩
    exact ⟨_, ⟨below, candidate, rfl⟩,
      Path.components_join (Path.text_directory_ne _) candidate.1, unmatched⟩

end

/-! ## What patterns see of the way to a site -/

/-- Patterns that tell the same of a path, wherever the names lead that stand before it: those
for directories of another name, and those for ends of paths. -/
inductive LooksBelow (names : List String) : String → Prop where
  | directory {name : String} (named : Path.isName name = true)
      (plain : isPlain name.toList = true) (apart : name ∉ names) :
      LooksBelow names (directoryPattern name)
  | ending {ending : String} (plain : isPlain ending.toList = true)
      (free : '/' ∉ ending.toList) : LooksBelow names (endPattern ending)

/-- Such a pattern tells the same as for the tree on its own. -/
theorem LooksBelow.accepts_eq {site : Site entries} {text : String}
    (looks : LooksBelow site.names text) {pattern : Pattern}
    (read : Pattern.read text = .ok pattern) {below : Path} (relative : below.isAbsolute = false) :
    pattern.accepts (site.base.join below).text =
      pattern.accepts ((alone entries).base.join below).text := by
  rw [Bool.eq_iff_iff, base, base]
  cases looks with
  | directory named plain apart =>
      cases (read_directoryPattern plain).symm.trans read
      have noNames : (alone entries).names = [] := rfl
      rw [inDirectory_accepts_join site.named relative named,
        inDirectory_accepts_join (alone entries).named relative named, noNames]
      simp [apart]
  | ending plain free =>
      cases (read_endPattern plain).symm.trans read
      rw [withEnd_accepts_join site.named relative free,
        withEnd_accepts_join (alone entries).named relative free]

/-- The ends of the names of test files. -/
def testFileEnds : List String :=
  ["test", "spec"].flatMap fun word =>
    Path.sourceExtensions.map fun extension => "." ++ word ++ "." ++ extension

/-- The directory of test files. -/
def testDirectory : String := "__tests__"

theorem testFilePatterns_eq :
    testFilePatterns = testFileEnds.map endPattern ++ [directoryPattern testDirectory] := by
  decide

theorem looksBelow_of_mem_testFilePatterns {names : List String} (apart : testDirectory ∉ names)
    {text : String} (member : text ∈ testFilePatterns) : LooksBelow names text := by
  have ends : ∀ ending ∈ testFileEnds,
      isPlain ending.toList = true ∧ '/' ∉ ending.toList := by decide
  rw [testFilePatterns_eq, List.mem_append, List.mem_map, List.mem_singleton] at member
  rcases member with ⟨ending, isEnd, rfl⟩ | rfl
  · exact .ending (ends ending isEnd).1 (ends ending isEnd).2
  · exact .directory (by decide) (by decide) apart

/-- Whether no pattern of what is left out sees the way to a site. -/
structure IgnoresBelow (site : Site entries) (ignores : List String) (ignoreTestFiles : Bool) :
    Prop where
  patterns : ∀ text ∈ ignores, Pattern.isMeant text = true → LooksBelow site.names text
  tests : ignoreTestFiles = true → testDirectory ∉ site.names

theorem IgnoresBelow.isMatched_eq {site : Site entries}
    (ignoresBelow : site.IgnoresBelow ignores ignoreTestFiles) {below : Path}
    (relative : below.isAbsolute = false) :
    site.isMatched ignores ignoreTestFiles below =
      (alone entries).isMatched ignores ignoreTestFiles below := by
  have samePatterns : (exclusion site.base ignores ignoreTestFiles).patterns =
      (exclusion (alone entries).base ignores ignoreTestFiles).patterns := rfl
  have looks : ∀ pattern ∈ (exclusion (alone entries).base ignores ignoreTestFiles).patterns,
      ∃ text, LooksBelow site.names text ∧ Pattern.read text = .ok pattern := by
    intro pattern member
    rcases List.mem_append.mp member with isIgnored | isTest
    · rcases mem_patternsOf_iff.mp isIgnored with ⟨text, isText, isRead⟩
      have ⟨inIgnores, isMeant⟩ := List.mem_filter.mp isText
      exact ⟨text, ignoresBelow.patterns text inIgnores isMeant, isRead⟩
    · split at isTest
      · next ignoresTests =>
          rcases mem_patternsOf_iff.mp isTest with ⟨text, isText, isRead⟩
          exact ⟨text, looksBelow_of_mem_testFilePatterns (ignoresBelow.tests ignoresTests) isText,
            isRead⟩
      · cases isTest
  rw [isMatched, isMatched, samePatterns, Bool.eq_iff_iff, List.any_eq_true, List.any_eq_true]
  apply exists_congr
  intro pattern
  apply and_congr_right
  intro member
  rcases looks pattern member with ⟨text, looksBelow, isRead⟩
  rw [looksBelow.accepts_eq isRead relative]

/-- Whether directories of some name are left out. -/
def IgnoresDirectory (ignores : List String) (ignoreTestFiles : Bool) (name : String) : Prop :=
  directoryPattern name ∈ ignores ∨ (ignoreTestFiles = true ∧ name = testDirectory)

/-- Below a directory that is left out, everything is left out. -/
theorem isMatched_of_mem (site : Site entries) {name : String} (onTheWay : name ∈ site.names)
    (plain : isPlain name.toList = true) (ignored : IgnoresDirectory ignores ignoreTestFiles name)
    {below : Path} (relative : below.isAbsolute = false) :
    site.isMatched ignores ignoreTestFiles below = true := by
  have isMeant : Pattern.isMeant (directoryPattern name) = true := by
    simp [Pattern.isMeant, directoryPattern]
  have read := read_directoryPattern plain
  have member : Pattern.inDirectory name ∈
      (exclusion site.base ignores ignoreTestFiles).patterns := by
    rcases ignored with isIgnored | ⟨rfl, rfl⟩
    · exact List.mem_append_left _ (mem_patternsOf_iff.mpr
        ⟨_, List.mem_filter.mpr ⟨isIgnored, isMeant⟩, read⟩)
    · exact List.mem_append_right _ (mem_patternsOf_iff.mpr
        ⟨_, by rw [testFilePatterns_eq]; simp, read⟩)
  rw [isMatched, List.any_eq_true]
  exact ⟨_, member, (inDirectory_accepts_join site.named relative (site.named name onTheWay)).mpr
    (.inl onTheWay)⟩

/-! ## Two sites -/

/-- Whether the same places below two sites are found. -/
def FindSame (first second : Site entries) (includes ignores : List String)
    (ignoreTestFiles : Bool) : Prop :=
  ∀ place, first.Finds includes ignores ignoreTestFiles place ↔
    second.Finds includes ignores ignoreTestFiles place

theorem ArePlain.alone (plain : ArePlain first second includes) :
    ArePlain first (Site.alone entries) includes :=
  fun text member isMeant => ⟨(plain text member isMeant).1,
    (by decide : isPlain (Path.directory []).text.toList = true)⟩

theorem ArePlain.symm (plain : ArePlain first second includes) : ArePlain second first includes :=
  fun text member isMeant => (plain text member isMeant).symm

/-- What is found at a site: the candidates of the tree, less those with which a pattern is
matched behind the names that lead to the site. -/
structure FindsUnmatched (site : Site entries) (includes ignores : List String)
    (ignoreTestFiles : Bool) : Prop where
  below : ∀ path ∈ (discover site.system site.base includes ignores ignoreTestFiles).files,
    ∃ place, path.components = site.base.components ++ place
  places : ∀ place, site.Finds includes ignores ignoreTestFiles place ↔
    ∃ below, IsCandidate entries includes ignores below ∧ below.steps = place ∧
      site.isMatched ignores ignoreTestFiles below = false
  /-- Below a directory that is left out, nothing is found. -/
  nothing : ∀ name ∈ site.names, isPlain name.toList = true →
    IgnoresDirectory ignores ignoreTestFiles name →
    (discover site.system site.base includes ignores ignoreTestFiles).files = []

theorem findsUnmatched (comparable : Comparable linked first (alone entries))
    (inside : AreInside includes ignores) (plain : ArePlain first (alone entries) includes) :
    first.FindsUnmatched includes ignores ignoreTestFiles where
  below := by
    intro path member
    rcases (exists_mem_files_iff_candidate comparable inside plain _).mp
      ⟨path, member, rfl⟩ with ⟨below, _, isPlace, _⟩
    exact ⟨below.steps, isPlace.symm⟩
  places := by
    intro place
    simp only [Finds, exists_mem_files_iff_candidate comparable inside plain,
      List.append_cancel_left_eq]
  nothing := by
    intro name onTheWay plainName ignored
    apply List.eq_nil_iff_forall_not_mem.mpr
    intro path member
    rcases (exists_mem_files_iff_candidate comparable inside plain _).mp
      ⟨path, member, rfl⟩ with ⟨below, candidate, _, unmatched⟩
    cases (first.isMatched_of_mem onTheWay plainName ignored candidate.1).symm.trans unmatched

/-- Two sites of one tree find the same if every candidate of the tree meets the same verdict
of the patterns behind both. That is so where the patterns only look at what is below. -/
theorem found_unless_matched (comparable : Comparable linked first second)
    (inside : AreInside includes ignores) (plain : ArePlain first second includes) :
    first.FindsUnmatched includes ignores ignoreTestFiles ∧
    second.FindsUnmatched includes ignores ignoreTestFiles ∧
    ((∀ below, IsCandidate entries includes ignores below →
        first.isMatched ignores ignoreTestFiles below =
          second.isMatched ignores ignoreTestFiles below) →
      FindSame first second includes ignores ignoreTestFiles) ∧
    (first.IgnoresBelow ignores ignoreTestFiles → second.IgnoresBelow ignores ignoreTestFiles →
      FindSame first second includes ignores ignoreTestFiles) := by
  have atFirst : first.FindsUnmatched includes ignores ignoreTestFiles :=
    findsUnmatched comparable.alone inside plain.alone
  have atSecond : second.FindsUnmatched includes ignores ignoreTestFiles :=
    findsUnmatched comparable.symm.alone inside plain.symm.alone
  have bySameVerdict (same : ∀ below, IsCandidate entries includes ignores below →
      first.isMatched ignores ignoreTestFiles below =
        second.isMatched ignores ignoreTestFiles below) :
      FindSame first second includes ignores ignoreTestFiles := by
    intro place
    rw [atFirst.places, atSecond.places]
    apply exists_congr
    intro below
    apply and_congr_right
    intro candidate
    rw [same below candidate]
  refine ⟨atFirst, atSecond, bySameVerdict, fun firstBelow secondBelow => ?_⟩
  apply bySameVerdict
  intro below candidate
  rw [firstBelow.isMatched_eq candidate.1, secondBelow.isMatched_eq candidate.1]

/-! ## A tree in several homes -/

def pets : List (String × FileNode) :=
  [("src", .directory
      [("pets", .directory [("cat.js", .file (some "")), ("cat.spec.js", .file (some ""))])]),
    ("latest", .link ⟨"src/pets"⟩)]

/-- A file system with the tree in one directory. -/
def lodge (name : String) : FileSystem := ⟨.directory [(name, .directory pets)], ⟨"/"⟩⟩

def home (name : String) (named : Path.isName name = true)
    (holds : (lodge name).node (Path.directory [name]) = .ok (.directory pets)) : Site pets where
  system := lodge name
  names := [name]
  named := by simpa using named
  holds := holds

/-- The place of a file of the tree. -/
def cat : List Component := [.name "src", .name "pets", .name "cat.js"]

/-- Where no ignored name leads to a home, the tree decides what is found. -/
theorem cat_found_in_app_and_dist :
    let app := home "app" (by decide) rfl
    let dist := home "dist" (by decide) rfl
    let includes := ["src/*"]
    let ignores := [directoryPattern "old", "src/dogs"]
    FindSame app dist includes ignores true ∧ app.Finds includes ignores true cat := by
  intro app dist includes ignores
  have comparable : Comparable true app dist := ⟨by decide, fun _ => ⟨rfl, rfl⟩⟩
  have looks (name : String) (apart : "old" ∉ [name]) : ∀ text ∈ ignores,
      Pattern.isMeant text = true → LooksBelow [name] text := by
    intro text member isMeant
    rcases List.mem_cons.mp member with rfl | member
    · exact .directory (by decide) (by decide) apart
    · rw [List.mem_singleton.mp member] at isMeant
      cases isMeant
  refine ⟨(found_unless_matched comparable ⟨by decide, by decide⟩ ?_).2.2.2
    ⟨looks "app" (by decide), by decide⟩ ⟨looks "dist" (by decide), by decide⟩, by decide +kernel⟩
  exact fun _ _ _ => ⟨by decide, by decide⟩

/-- A pattern for directories called `dist` empties a home of that name, and brackets in the
name of a home are read as a set of characters. -/
theorem way_to_a_site_counts :
    let app := home "app" (by decide) rfl
    let dist := home "dist" (by decide) rfl
    let brackets := home "a[p]p" (by decide) rfl
    (app.Finds [] ["**/dist/**"] false cat ∧ ¬dist.Finds [] ["**/dist/**"] false cat) ∧
      (app.Finds ["src/*"] [] false cat ∧ ¬brackets.Finds ["src/*"] [] false cat) := by
  decide +kernel

end Site

end DirectiveScan
