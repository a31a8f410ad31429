import DirectiveScan.Directive.Basic
import DirectiveScan.Proofs.Query.Walker

namespace DirectiveScan.Directive

/-! Registrations that are read in place.

Reading a registration where it stands gives the same result as reading an owned copy of it,
because everything that is read comes from fields and from searches, and both are the same
for copies. -/

namespace InPlace

theorem isRegistration_eq (view : View) :
    InPlace.isRegistration view = Directive.isRegistration view.copy := by
  rw [InPlace.isRegistration, Directive.isRegistration, view.kind_copy, view.deepText?_copy]

theorem foundShape_eq (field : Option ViewField) :
    InPlace.foundShape field = Directive.foundShape (field.map ViewField.copy) := by
  cases field with
  | none => rfl
  | some found =>
      cases found with
      | node view => exact congrArg NodeKind.tag view.kind_copy.symm
      | _ => rfl

theorem stringText?_eq (field : Option ViewField) :
    InPlace.stringText? field = Directive.stringText? (field.map ViewField.copy) := by
  cases field with
  | none => rfl
  | some found =>
      cases found with
      | node view => cases view <;> rfl
      | _ => rfl

theorem name_eq (call : Call) : InPlace.name call = Directive.name call.node := by
  have first := (View.call call).copy_deepField? "arguments.0"
  rw [InPlace.name, stringText?_eq, foundShape_eq, first]
  rfl

theorem module?_eq (call : Call) : InPlace.module? call = Directive.module? call.node := by
  simp only [InPlace.module?, ← View.deepText?_copy]
  rfl

theorem entriesNamed_eq (call : Call) (key : String) :
    InPlace.entriesNamed call key = Directive.entriesNamed call.node key := by
  let accepts (visit : Visit) : Bool :=
    visit.node.kind = .objectProperty && visit.node.deepText? "key.name" = some key
  have sameEntries (sighting : Sighting) : (sighting.view.kind = .objectProperty &&
      sighting.view.deepText? "key.name" = some key) = accepts sighting.visit := by
    simp only [accepts, Sighting.visit, View.kind_copy, View.deepText?_copy]
  simp only [InPlace.entriesNamed, sameEntries, Root.findWhere_visit]
  rfl

/-- A registration is read in place like its owned copy. -/
theorem read_eq (call : Call) : InPlace.read call = Directive.read call.node := by
  simp only [InPlace.read, name_eq, module?_eq, entriesNamed_eq]
  rfl

end InPlace

theorem readSighting?_eq (sighting : Sighting) : readSighting? sighting =
    if isRegistration sighting.visit.node then some (read sighting.visit.node) else none := by
  rcases sighting with ⟨view, role, parent⟩
  cases view with
  | call call =>
      simp only [readSighting?, InPlace.isRegistration_eq, InPlace.read_eq]
      rfl
  | _ => simp [readSighting?, isRegistration, Sighting.visit, View.copy, Node.kind]

/-- What is read depends on neither role nor parent. -/
theorem readSighting?_congr {left right : Sighting} (same : left.view.copy = right.view.copy) :
    readSighting? left = readSighting? right := by
  have sameNode : left.visit.node = right.visit.node := same
  rw [readSighting?_eq, readSighting?_eq, sameNode]

/-- What is read in place are the registrations that a search for them returns. -/
theorem readIn_eq (root : Root) : readIn root = (registrations root.start).map read := by
  have isSearch : registrations root.start =
      root.findWhere fun sighting => isRegistration sighting.visit.node :=
    (root.findWhere_visit fun visit => isRegistration visit.node).symm
  rw [isSearch, Root.findWhere, List.map_map, ← List.filterMap_eq_map, List.filterMap_filter,
    readIn]
  congr 1
  funext sighting
  exact readSighting?_eq sighting

theorem readAll_eq (start : Start) : readAll start = (registrations start).map read := by
  rw [readAll, readIn_eq]
  cases start <;> rfl

end DirectiveScan.Directive
