import DirectiveScan.Config.Basic
import DirectiveScan.Proofs.Json.RoundTrip

namespace DirectiveScan.Config

/-! Written settings are read back.

Any members of the written form may be left out. Reading then gives the settings as they
were, with the standard value in the place of every setting that is missing. -/

/-- The written form without the members whose keys are left out. -/
def toJsonWithout (omitted : String → Bool) (config : Config) : JsonValue :=
  .ofFields (config.fields.filter fun field => !omitted field.1)

/-- The settings with standard values in the place of what is left out. -/
def orStandard (omitted : String → Bool) (config : Config) : Config where
  includes := if omitted includesKey then standard.includes else config.includes
  ignores := if omitted ignoresKey then standard.ignores else config.ignores
  ignoreTestFiles :=
    if omitted ignoreTestFilesKey then standard.ignoreTestFiles else config.ignoreTestFiles
  templateLookup :=
    if omitted templateLookupKey then standard.templateLookup else config.templateLookup
  templateExtension :=
    if omitted templateExtensionKey then standard.templateExtension else config.templateExtension

/-! ## Members -/

theorem nodup_keys (config : Config) : (config.fields.map Prod.fst).Nodup := by
  change [includesKey, ignoresKey, ignoreTestFilesKey, templateLookupKey,
    templateExtensionKey].Nodup
  decide

/-- A key that is written once leads to one field. -/
theorem filter_key_eq {fields : List (String × JsonValue)} {key : String} {value : JsonValue}
    (distinct : (fields.map Prod.fst).Nodup) (isField : (key, value) ∈ fields) :
    fields.filter (fun field => field.1 = key) = [(key, value)] := by
  induction fields with
  | nil => cases isField
  | cons first rest induction =>
      rw [List.map_cons, List.nodup_cons] at distinct
      rcases List.mem_cons.mp isField with rfl | inRest
      · have noOther : rest.filter (fun field => field.1 = key) = [] := by
          rw [List.filter_eq_nil_iff]
          intro field member sameKey
          have equal : field.1 = key := by simpa using sameKey
          exact distinct.1 (List.mem_map.mpr ⟨field, member, equal⟩)
        simp [noOther]
      · have different : first.1 ≠ key := by
          intro equal
          exact distinct.1 (List.mem_map.mpr ⟨_, inRest, equal.symm⟩)
        simp [different, induction distinct.2 inRest]

theorem member?_without {config : Config} {key : String} {value : JsonValue}
    (omitted : String → Bool) (isField : (key, value) ∈ config.fields) :
    member? ((config.fields.filter fun field => !omitted field.1).map fun field =>
      (some field.1, field.2)) key = some (if omitted key then none else some value) := by
  have single := filter_key_eq config.nodup_keys isField
  have found : ((config.fields.filter fun field => !omitted field.1).map fun field =>
        ((some field.1 : JsonText), field.2)).filter (fun member => member.1 = some key) =
      ([(key, value)].filter fun field => !omitted field.1).map fun field =>
        (some field.1, field.2) := by
    rw [List.filter_map, ← single, List.filter_filter, List.filter_filter]
    simp [Bool.and_comm]
  rw [member?, found]
  cases isOmitted : omitted key <;> simp [isOmitted]

/-! ## Values -/

theorem valueOr_of_read {α : Type} {decode : JsonValue → Option α} {written : JsonValue}
    {value : α} (default : α) (omitted : Bool) (isRead : decode written = some value) :
    valueOr default decode (if omitted then none else some written) =
      some (if omitted then default else value) := by
  cases omitted with
  | true => rfl
  | false => exact isRead

theorem textsOf?_ofTexts (texts : List String) : textsOf? (.ofTexts texts) = some texts := by
  rw [JsonValue.ofTexts, textsOf?]
  induction texts with
  | nil => rfl
  | cons text rest induction =>
      rw [List.map_cons, List.mapM_cons, induction]
      rfl

theorem lookupOf?_lookupText (lookup : TemplateLookup) :
    lookupOf? (.ofText (lookupText lookup)) = some lookup := by
  cases lookup <;> decide

theorem ofJson?_without (config : Config) (omitted : String → Bool) :
    ofJson? (config.toJsonWithout omitted) = some (config.orStandard omitted) := by
  have keyed : (((config.fields.filter fun field => !omitted field.1).map fun field =>
      ((some field.1 : JsonText), field.2)).all fun member => member.1.isSome) = true := by
    simp
  have isIncludes : (includesKey, .ofTexts config.includes) ∈ config.fields := by simp [fields]
  have isIgnores : (ignoresKey, .ofTexts config.ignores) ∈ config.fields := by simp [fields]
  have isFlag : (ignoreTestFilesKey, .boolean config.ignoreTestFiles) ∈ config.fields := by
    simp [fields]
  have isLookup : (templateLookupKey, .ofText (lookupText config.templateLookup)) ∈
      config.fields := by simp [fields]
  have isExtension : (templateExtensionKey, .ofText config.templateExtension) ∈
      config.fields := by simp [fields]
  rw [toJsonWithout, JsonValue.ofFields, ofJson?, if_pos keyed, member?_without omitted isIncludes,
    member?_without omitted isIgnores, member?_without omitted isFlag,
    member?_without omitted isLookup, member?_without omitted isExtension]
  simp only [Option.bind_eq_bind, Option.bind_some, ofValues?,
    valueOr_of_read _ _ (textsOf?_ofTexts _), valueOr_of_read _ _ (lookupOf?_lookupText _),
    @valueOr_of_read _ flagOf? (.boolean config.ignoreTestFiles) _ _ _ rfl,
    @valueOr_of_read _ textOf? (.ofText config.templateExtension) _ _ _ rfl]
  rfl

theorem toJsonWithout_none (config : Config) :
    config.toJsonWithout (fun _ => false) = config.toJson := by
  simp [toJsonWithout, toJson]

theorem readable_without (config : Config) (omitted : String → Bool) :
    (config.toJsonWithout omitted).Readable := by
  apply JsonValue.readable_ofFields
  intro field member
  have isField := (List.mem_filter.mp member).1
  simp only [fields, List.mem_cons, List.not_mem_nil, or_false] at isField
  rcases isField with rfl | rfl | rfl | rfl | rfl
  · exact JsonValue.readable_ofTexts _
  · exact JsonValue.readable_ofTexts _
  · exact JsonValue.readable_boolean _
  · exact JsonValue.readable_text _
  · exact JsonValue.readable_text _

/-- Whatever members are left out, the written form is read as the settings with standard
values for what is missing, both as a value and as a text. With all its members it is read
as the settings themselves. -/
theorem written_settings_read_back (config : Config) (omitted : String → Bool) :
    ofJson? (config.toJsonWithout omitted) = some (config.orStandard omitted) ∧
    (JsonValue.read? (config.toJsonWithout omitted).write).bind ofJson? =
      some (config.orStandard omitted) ∧
    ofJson? config.toJson = some config ∧
    (JsonValue.read? config.toJson.write).bind ofJson? = some config := by
  have partly := config.ofJson?_without omitted
  have fully := config.ofJson?_without fun _ => false
  have readable := config.readable_without fun _ => false
  rw [toJsonWithout_none] at fully readable
  refine ⟨partly, ?_, fully, ?_⟩
  · rw [JsonValue.read?_write (config.readable_without omitted)]
    exact partly
  · rw [JsonValue.read?_write readable]
    exact fully

end DirectiveScan.Config
