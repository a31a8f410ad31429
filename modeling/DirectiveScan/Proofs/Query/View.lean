import DirectiveScan.Query.View

namespace DirectiveScan

/-! Fields of views and of their copies.

Copying comes to the same before a field is read and after it: the fields of a copy are
copies of the fields. The only thing that a copy does not keep, whether an identifier is a
variable, is a thing that no path of fields asks for. -/

@[simp] theorem View.copy_ofNode (found : Node) : (View.ofNode found).copy = found := by
  cases found <;> rfl

@[simp] theorem Node.copy_asView (found : Node) : found.asView.copy = found := by
  cases found <;> rfl

/-- The view of a copy is the view that was copied, but for variables, which become names. -/
theorem View.asView_copy (view : View) :
    view.copy.asView = view ∨ ∃ word, view = .ident word ∧ view.copy.asView = .name word := by
  cases view with
  | ident word => exact .inr ⟨word, rfl, rfl⟩
  | _ => exact .inl rfl

theorem View.kind_copy (view : View) : view.copy.kind = view.kind := by
  cases view <;> rfl

/-! ## Copies of fields -/

namespace ViewField

theorem copyAll_eq_map (items : List ViewField) : copyAll items = items.map copy := by
  induction items with
  | nil => rfl
  | cons item rest induction => rw [copyAll, induction, List.map_cons]

@[simp] theorem copy_ofExpr (expr : Expr) : (ofExpr expr).copy = .ofExpr expr := by
  cases expr with
  | node found => simp [ofExpr, Field.ofExpr, copy]
  | _ => rfl

@[simp] theorem copy_ofKey (key : PropertyKey) : (ofKey key).copy = .ofKey key := by
  cases key with
  | computed inner => exact copy_ofExpr inner
  | _ => rfl

@[simp] theorem copy_ofCallee (callee : Callee) : (ofCallee callee).copy = .ofCallee callee := by
  cases callee with
  | expr called => exact copy_ofExpr called
  | _ => rfl

@[simp] theorem copy_ofMemberName (last : MemberName) :
    (ofMemberName last).copy = .ofMemberName last := by
  cases last with
  | computed property => exact copy_ofExpr property
  | _ => rfl

@[simp] theorem copy_ofEntry (entry : Entry) : (ofEntry entry).copy = .ofEntry entry := by
  cases entry <;> rfl

@[simp] theorem copy_ofElement (element : Element) :
    (ofElement element).copy = .ofElement element := by
  cases element with
  | hole => rfl
  | value inner => exact copy_ofExpr inner
  | spread inner => exact copy_ofExpr inner

@[simp] theorem copy_ofTarget (target : Target) : (ofTarget target).copy = .ofTarget target := by
  cases target <;> rfl

end ViewField

theorem View.copy_ownField? (view : View) (field : String) :
    (view.ownField? field).map ViewField.copy = view.copy.ownField? field := by
  cases view with
  | variableDeclarator declarator =>
      cases declarator
      simp only [ownField?, copy, Node.ownField?]
      split <;> simp [Function.comp_def]
  | _ =>
      simp only [ownField?, copy, Call.node, Node.ownField?]
      split <;> simp [ViewField.copy, ViewField.copyAll_eq_map, copy, Function.comp_def]

theorem View.copy_field? (view : View) (name : String) :
    (view.field? name).map ViewField.copy = view.copy.field? name := by
  rw [field?, Node.field?, kind_copy]
  split
  · rfl
  · exact view.copy_ownField? name

/-! ## Paths -/

theorem ViewField.copy_step? (field : ViewField) (segment : String) :
    (field.step? segment).map copy = field.copy.step? segment := by
  cases field with
  | node view => exact view.copy_field? segment
  | list items =>
      simp only [step?, copy, copyAll_eq_map, Field.step?, Option.map_bind]
      congr 1
      funext index
      simp
  | unmodeled tag =>
      simp only [step?, copy, Field.step?]
      split <;> rfl
  | _ => rfl

/-- A path leads from a copy to a copy of what it leads to from the original. -/
theorem View.copy_deepField? (view : View) (path : String) :
    (view.deepField? path).map ViewField.copy = view.copy.deepField? path := by
  have follow (field : ViewField) (segments : List String) :
      (segments.foldlM ViewField.step? field).map ViewField.copy =
        field.copy.follow? segments := by
    induction segments generalizing field with
    | nil => rfl
    | cons segment rest induction =>
        rw [List.foldlM_cons, Field.follow?, List.foldlM_cons, ← ViewField.copy_step?]
        cases field.step? segment with
        | none => rfl
        | some next => exact induction next
  exact follow (.node view) (Text.split '.' path)

theorem ViewField.text?_copy (field : ViewField) : field.copy.text? = field.text? := by
  cases field <;> rfl

theorem View.deepText?_copy (view : View) (path : String) :
    view.copy.deepText? path = view.deepText? path := by
  rw [Node.deepText?, ← copy_deepField?, deepText?, Option.bind_map]
  congr 1
  funext field
  exact field.text?_copy

/-- Fields do not tell names from variables. -/
theorem View.field?_asView_copy (view : View) (name : String) :
    view.copy.asView.field? name = view.field? name := by
  rcases view.asView_copy with same | ⟨word, rfl, isName⟩
  · rw [same]
  · rw [isName]
    rfl

/-- A copy answers every path like the original. -/
theorem View.deepField?_asView_copy (view : View) (path : String) :
    view.copy.asView.deepField? path = view.deepField? path := by
  have notEmpty : Text.split '.' path ≠ [] := by
    rw [Text.split, Ne, List.map_eq_nil_iff]
    exact Text.pieces_ne_nil '.' path.toList
  rcases List.exists_cons_of_ne_nil notEmpty with ⟨segment, rest, isPath⟩
  rw [deepField?, deepField?, isPath, List.foldlM_cons, List.foldlM_cons]
  exact congrArg (· >>= _) (view.field?_asView_copy segment)

end DirectiveScan
