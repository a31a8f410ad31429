import DirectiveScan.Project.Discovery

namespace DirectiveScan

/-! The order of paths.

Two paths are neither before nor behind each other exactly if they have the same
components. Putting paths in order therefore keeps one spelling of every place, and no
two of the paths that are left are equal in the order. -/

theorem Component.compare_eq_eq_iff (left right : Component) :
    left.compare right = .eq ↔ left = right := by
  cases left with
  | name one =>
      cases right with
      | name other =>
          rw [compare, Component.name.injEq]
          exact Std.LawfulEqOrd.compare_eq_iff_eq
      | _ => simp [compare, rank]
  | _ => cases right <;> simp [compare, rank]

/-- The text of a name; other components have none. -/
def Component.spelling : Component → String
  | .name text => text
  | _ => ""

theorem Component.compare_eq_compareLex :
    Component.compare = compareLex (compareOn rank) (compareOn spelling) := by
  funext left right
  cases left with
  | name one => cases right <;> rfl
  | _ =>
      cases right <;> simp [compare, compareLex, compareOn, rank, spelling, Nat.compare_eq_ite_lt]

instance : Std.TransCmp Component.compare := by
  rw [Component.compare_eq_compareLex]
  infer_instance

namespace Path

theorem compareComponents_eq_eq_iff (left right : List Component) :
    compareComponents left right = .eq ↔ left = right := by
  induction left generalizing right with
  | nil => cases right <;> simp [compareComponents]
  | cons one lefts induction =>
      cases right with
      | nil => simp [compareComponents]
      | cons other rights =>
          rw [compareComponents, List.cons.injEq, ← Component.compare_eq_eq_iff]
          cases one.compare other <;> simp [induction]

theorem compare_eq_eq_iff (left right : Path) :
    left.compare right = .eq ↔ left.components = right.components :=
  compareComponents_eq_eq_iff _ _

theorem compareComponents_eq_compareLex :
    compareComponents = List.compareLex Component.compare := by
  funext left right
  induction left generalizing right with
  | nil => cases right <;> rfl
  | cons one lefts induction =>
      cases right with
      | nil => rfl
      | cons other rights =>
          rw [compareComponents, List.compareLex_cons_cons, induction]
          cases one.compare other <;> rfl

instance : Std.TransCmp compareComponents := by
  rw [compareComponents_eq_compareLex]
  infer_instance

instance : Std.TransCmp Path.compare where
  eq_swap :=
    show compareComponents _ _ = (compareComponents _ _).swap from Std.OrientedCmp.eq_swap
  isLE_trans first second :=
    show (compareComponents _ _).isLE from Std.TransCmp.isLE_trans first second

/-! ## Putting paths in order -/

theorem mem_of_mem_insertOrdered {path found : Path} {sorted : List Path}
    (member : found ∈ insertOrdered path sorted) : found = path ∨ found ∈ sorted := by
  induction sorted with
  | nil => exact .inl (List.mem_singleton.mp member)
  | cons first rest induction =>
      rw [insertOrdered] at member
      split at member
      · exact List.mem_cons.mp member
      · exact .inr member
      · rcases List.mem_cons.mp member with rfl | inRest
        · exact .inr List.mem_cons_self
        · exact (induction inRest).imp_right (List.mem_cons_of_mem _)

theorem mem_insertOrdered_of_mem {path found : Path} {sorted : List Path}
    (member : found ∈ sorted) : found ∈ insertOrdered path sorted := by
  induction sorted with
  | nil => cases member
  | cons first rest induction =>
      rw [insertOrdered]
      split
      · exact List.mem_cons_of_mem _ member
      · exact member
      · rcases List.mem_cons.mp member with rfl | inRest
        · exact List.mem_cons_self
        · exact List.mem_cons_of_mem _ (induction inRest)

/-- A path that is put into an ordered list is there in some spelling. -/
theorem exists_mem_insertOrdered (path : Path) (sorted : List Path) :
    ∃ found ∈ insertOrdered path sorted, found.components = path.components := by
  induction sorted with
  | nil => exact ⟨path, List.mem_cons_self, rfl⟩
  | cons first rest induction =>
      rw [insertOrdered]
      split
      · exact ⟨path, List.mem_cons_self, rfl⟩
      · next same => exact ⟨first, List.mem_cons_self, ((compare_eq_eq_iff _ _).mp same).symm⟩
      · rcases induction with ⟨found, member, same⟩
        exact ⟨found, List.mem_cons_of_mem _ member, same⟩

/-- The places of paths are those of the paths in order. -/
theorem exists_mem_ordered_iff (paths : List Path) (place : List Component) :
    (∃ path ∈ ordered paths, path.components = place) ↔
      ∃ path ∈ paths, path.components = place := by
  have fold (sorted : List Path) :
      (∃ path ∈ paths.foldl (fun sorted path => insertOrdered path sorted) sorted,
        path.components = place) ↔
      (∃ path ∈ sorted, path.components = place) ∨ ∃ path ∈ paths, path.components = place := by
    induction paths generalizing sorted with
    | nil => simp
    | cons first rest induction =>
        have inserted : (∃ path ∈ insertOrdered first sorted, path.components = place) ↔
            (∃ path ∈ sorted, path.components = place) ∨ first.components = place := by
          constructor
          · rintro ⟨path, member, atPlace⟩
            rcases mem_of_mem_insertOrdered member with rfl | inSorted
            · exact .inr atPlace
            · exact .inl ⟨path, inSorted, atPlace⟩
          · rintro (⟨path, member, atPlace⟩ | atPlace)
            · exact ⟨path, mem_insertOrdered_of_mem member, atPlace⟩
            · rcases exists_mem_insertOrdered first sorted with ⟨found, member, same⟩
              exact ⟨found, member, same.trans atPlace⟩
        simp only [List.foldl_cons, induction, inserted, List.mem_cons, exists_eq_or_imp, or_assoc]
  simpa [ordered] using fold []

theorem mem_of_mem_ordered {paths : List Path} {path : Path} (member : path ∈ ordered paths) :
    path ∈ paths := by
  have fold (sorted : List Path)
      (inFold : path ∈ paths.foldl (fun sorted path => insertOrdered path sorted) sorted) :
      path ∈ sorted ∨ path ∈ paths := by
    clear member
    induction paths generalizing sorted with
    | nil => exact .inl inFold
    | cons first rest induction =>
        rcases induction _ inFold with inserted | inRest
        · rcases mem_of_mem_insertOrdered inserted with rfl | inSorted
          · exact .inr List.mem_cons_self
          · exact .inl inSorted
        · exact .inr (List.mem_cons_of_mem _ inRest)
  rcases fold [] member with inNone | inPaths
  · cases inNone
  · exact inPaths

/-- Paths stand in strictly increasing order. -/
def Increasing (paths : List Path) : Prop :=
  paths.Pairwise fun left right => left.compare right = .lt

theorem Increasing.nodup {paths : List Path} (increasing : Increasing paths) : paths.Nodup := by
  apply increasing.imp
  rintro path _ less rfl
  cases ((compare_eq_eq_iff path path).mpr rfl).symm.trans less

/-- In order, no two paths have the same components. -/
theorem Increasing.eq_of_components_eq {paths : List Path} (increasing : Increasing paths)
    {left right : Path} (isLeft : left ∈ paths) (isRight : right ∈ paths)
    (same : left.components = right.components) : left = right := by
  have apart {first second : Path} (less : first.compare second = .lt)
      (same : first.components = second.components) : first = second := by
    cases ((compare_eq_eq_iff first second).mpr same).symm.trans less
  refine List.Pairwise.forall_of_forall_of_flip (fun _ _ _ => rfl) (increasing.imp apart) ?_
    isLeft isRight same
  apply increasing.imp
  intro first second less same
  exact (apart less same.symm).symm

theorem increasing_insertOrdered (path : Path) {sorted : List Path}
    (increasing : Increasing sorted) : Increasing (insertOrdered path sorted) := by
  induction sorted with
  | nil => exact List.pairwise_singleton _ path
  | cons first rest induction =>
      rcases List.pairwise_cons.mp increasing with ⟨before, restIncreasing⟩
      rw [insertOrdered]
      split
      · next less =>
          refine List.pairwise_cons.mpr ⟨?_, increasing⟩
          intro other member
          rcases List.mem_cons.mp member with rfl | inRest
          · exact less
          · exact Std.TransCmp.lt_trans less (before other inRest)
      · exact increasing
      · next greater =>
          refine List.pairwise_cons.mpr ⟨?_, induction restIncreasing⟩
          intro other member
          rcases mem_of_mem_insertOrdered member with rfl | inRest
          · exact Std.OrientedCmp.lt_of_gt greater
          · exact before other inRest

theorem increasing_ordered (paths : List Path) : Increasing (ordered paths) := by
  have fold (sorted : List Path) (increasing : Increasing sorted) :
      Increasing (paths.foldl (fun sorted path => insertOrdered path sorted) sorted) := by
    induction paths generalizing sorted with
    | nil => exact increasing
    | cons first rest induction => exact induction _ (increasing_insertOrdered first increasing)
  exact fold [] List.Pairwise.nil

/-! ## Choosing among paths -/

theorem insertOrdered_of_forall_lt {path : Path} {sorted : List Path}
    (before : ∀ other ∈ sorted, path.compare other = .lt) :
    insertOrdered path sorted = path :: sorted := by
  cases sorted with
  | nil => rfl
  | cons first rest => rw [insertOrdered, before first List.mem_cons_self]

section

variable {keep : Path → Bool}
  (samePlace : ∀ left right : Path, left.components = right.components → keep left = keep right)

include samePlace

/-- Where all spellings of a place are kept or none is, it does not matter whether paths are
chosen before or after they are put in order. -/
theorem filter_insertOrdered (path : Path) {sorted : List Path} (increasing : Increasing sorted) :
    (insertOrdered path sorted).filter keep =
      if keep path then insertOrdered path (sorted.filter keep) else sorted.filter keep := by
  induction sorted with
  | nil => cases kept : keep path <;> simp [insertOrdered, kept]
  | cons first rest induction =>
      rcases List.pairwise_cons.mp increasing with ⟨before, restIncreasing⟩
      rw [insertOrdered]
      split
      · next less =>
          have beforeAll : ∀ other ∈ (first :: rest).filter keep, path.compare other = .lt := by
            intro other member
            rcases List.mem_cons.mp (List.mem_filter.mp member).1 with rfl | inRest
            · exact less
            · exact Std.TransCmp.lt_trans less (before other inRest)
          rw [insertOrdered_of_forall_lt beforeAll, List.filter_cons]
      · next same =>
          have alike : keep path = keep first := samePlace _ _ ((compare_eq_eq_iff _ _).mp same)
          cases kept : keep first with
          | false => rw [alike, kept, if_neg (by simp)]
          | true =>
              rw [alike, kept, if_pos rfl, List.filter_cons_of_pos kept, insertOrdered, same]
      · next greater =>
          cases kept : keep first with
          | false =>
              rw [List.filter_cons_of_neg (by simp [kept]),
                List.filter_cons_of_neg (by simp [kept]), induction restIncreasing]
          | true =>
              rw [List.filter_cons_of_pos kept, List.filter_cons_of_pos kept,
                induction restIncreasing]
              split
              · rw [insertOrdered, greater]
              · rfl

theorem ordered_filter (paths : List Path) :
    ordered (paths.filter keep) = (ordered paths).filter keep := by
  have fold (sorted : List Path) (increasing : Increasing sorted) :
      (paths.filter keep).foldl (fun sorted path => insertOrdered path sorted)
          (sorted.filter keep) =
        (paths.foldl (fun sorted path => insertOrdered path sorted) sorted).filter keep := by
    induction paths generalizing sorted with
    | nil => rfl
    | cons first rest induction =>
        rw [List.foldl_cons, ← induction _ (increasing_insertOrdered first increasing),
          filter_insertOrdered samePlace first increasing, List.filter_cons]
        split <;> rfl
  exact fold [] List.Pairwise.nil

end

end Path

end DirectiveScan
