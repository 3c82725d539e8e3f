import JavaTypes.Json.Settings
import JavaTypes.Json.Types

/-!
# JSON encodings can be read back

Types, declarations and configurations are decoded from more JSON values than
they are encoded to: records may have their fields in any order, further fields
may be ignored, a field may be left out for `null` or for its default, and a
record may be given as a list.  All of these stand for the one value that the
encoding writes.

Decoding therefore undoes encoding, and encoding what was decoded gives a normal
form, which stays as it is when it is decoded and encoded once more.
-/

namespace JavaTypes

/-- Decoding gives back what was encoded.  What is decoded from any JSON value
has a normal form: its encoding stands for it too, and is encoded as itself. -/
structure RoundTrips {α : Type} (encode : α → Json) (decode : Json → Option α) :
    Prop where
  back : ∀ value, decode (encode value) = some value
  normal : ∀ json value, decode json = some value →
    decode (encode value) = some value ∧
      (decode (encode value)).map encode = some (encode value)

private theorem RoundTrips.of_back
    {α : Type} {encode : α → Json} {decode : Json → Option α}
    (back : ∀ value, decode (encode value) = some value) :
    RoundTrips encode decode where
  back := back
  normal := by
    intro json value _
    rw [back value]
    exact ⟨rfl, rfl⟩

/-! ## Parts of JSON values -/

namespace Json

private theorem natBelow?_int {limit value : Nat} (small : value < limit) :
    (Json.int value).natBelow? limit = some value := by
  have inRange : 0 ≤ (value : Int) ∧ (value : Int) < limit := by omega
  simp [natBelow?, inRange]

/-- The items of a list are decoded one by one. -/
private theorem list?_map
    {α : Type} {encode : α → Json} {decode : Json → Option α}
    (back : ∀ value, decode (encode value) = some value) (values : List α) :
    list? decode (.list (values.map encode)) = some values := by
  simp only [list?]
  induction values with
  | nil => rfl
  | cons value values inductionHypothesis =>
      simp [back value, inductionHypothesis]

/-- A member that may be null is decoded if no value is written as null. -/
private theorem optional?_ofOption
    {α : Type} {encode : α → Json} {decode : Json → Option α}
    (back : ∀ value, decode (encode value) = some value)
    (notNull : ∀ value, encode value ≠ .null) (value : Option α) :
    optional? decode (some (ofOption encode value)) = some value := by
  cases value with
  | none => rfl
  | some value =>
      have written := notNull value
      unfold ofOption optional?
      split
      · rename_i absent
        cases absent
      · rename_i isNull
        exact absurd (Option.some.inj isNull) written
      · rename_i json isJson
        cases isJson
        rw [back value]
        rfl

/-- In an object that lists its names in order, each name leads to its value. -/
private theorem map_lookup_zip
    {names : List String} {values : List Json} (distinct : names.Nodup)
    (sameLength : names.length = values.length) :
    names.map (fun name => (names.zip values).lookup name) =
      values.map some := by
  induction names generalizing values with
  | nil =>
      cases values with
      | nil => rfl
      | cons value values => cases sameLength
  | cons name names inductionHypothesis =>
      cases values with
      | nil => cases sameLength
      | cons value values =>
          obtain ⟨fresh, distinct⟩ := List.nodup_cons.mp distinct
          have rest := inductionHypothesis distinct (Nat.succ.inj sameLength)
          -- The first field hides nothing from the names behind it.
          have skipped :
              names.map (fun other =>
                  ((name :: names).zip (value :: values)).lookup other) =
                names.map fun other => (names.zip values).lookup other := by
            apply List.map_congr_left
            intro other member
            have differs : (other == name) = false := by
              rw [beq_eq_false_iff_ne]
              intro same
              exact fresh (same ▸ member)
            simp [List.lookup_cons, differs]
          rw [List.map_cons, skipped, rest]
          simp

private theorem record?_zip
    {names : List String} {values : List Json} (distinct : names.Nodup)
    (sameLength : names.length = values.length) :
    record? names (.obj (names.zip values)) = some (values.map some) := by
  rw [record?, map_lookup_zip distinct sameLength]

private theorem partialRecord?_zip
    {names : List String} {values : List Json} (distinct : names.Nodup)
    (sameLength : names.length = values.length) :
    partialRecord? names (.obj (names.zip values)) = some (values.map some) := by
  have expected :
      (names.zip values).all (fun field => names.contains field.1) = true := by
    rw [List.all_eq_true]
    intro field member
    have named : field.1 ∈ names := (List.of_mem_zip member).1
    simpa using named
  rw [partialRecord?, if_pos expected, map_lookup_zip distinct sameLength]

end Json

/-! ## Ids and words -/

theorem ClassId.ofJson?_toJson (id : ClassId) :
    ClassId.ofJson? id.toJson = some id := by
  rw [ofJson?, toJson, Json.natBelow?_int id.toNat_lt, Option.map_some,
    ofNat_toNat]

theorem TypeVarId.ofJson?_toJson (id : TypeVarId) :
    TypeVarId.ofJson? id.toJson = some id := by
  rw [ofJson?, toJson, Json.natBelow?_int id.toNat_lt, Option.map_some,
    ofNat_toNat]

theorem Primitive.ofJson?_toJson (kind : Primitive) :
    Primitive.ofJson? kind.toJson = some kind :=
  ofKeyword?_keyword kind

theorem ClassKind.ofJson?_toJson (kind : ClassKind) :
    ClassKind.ofJson? kind.toJson = some kind := by
  cases kind with
  | cls => rfl
  | interface => rfl

theorem Bootstrap.ofJson?_toJson (bootstrap : Bootstrap) :
    Bootstrap.ofJson? bootstrap.toJson = some bootstrap := by
  cases bootstrap with
  | rootOnly => rfl
  | javaLang => rfl

/-! ## Types -/

private theorem ParameterizedTy.ofJson?_obj
    {fields : List (String × Json)} {items : List Json}
    (found : fields.lookup "args" = some (.list items)) :
    ParameterizedTy.ofJson? (.obj fields) =
      ((fields.lookup "erasure").bind ClassId.ofJson?).bind fun erasure =>
        (Ty.listOfJson? items).map fun args => ⟨erasure, args⟩ := by
  rw [ofJson?]
  split
  · rename_i items' found'
    rw [found] at found'
    cases found'
    rfl
  · rename_i noList
    exact absurd found (noList items)

private theorem ParameterizedTy.ofJson?_record
    {json : Json} {erasure : ClassId} {items : List Json} {args : List Ty}
    (decodedErasure : ClassId.ofJson? json = some erasure)
    (decodedArgs : Ty.listOfJson? items = some args) :
    ParameterizedTy.ofJson? (.obj [("erasure", json), ("args", .list items)]) =
      some ⟨erasure, args⟩ := by
  let fields := [("erasure", json), ("args", Json.list items)]
  have argsFound : fields.lookup "args" = some (.list items) := rfl
  have erasureFound : fields.lookup "erasure" = some json := rfl
  rw [ofJson?_obj argsFound, erasureFound, Option.bind_some, decodedErasure,
    Option.bind_some, decodedArgs, Option.map_some]

mutual

theorem Ty.ofJson?_toJson :
    (type : Ty) → Ty.ofJson? type.toJson = some type
  | .primitive kind => by
      rw [toJson, ofJson?, Primitive.ofJson?_toJson, Option.map_some]
  | .cls id => by
      rw [toJson, ofJson?, ClassId.ofJson?_toJson, Option.map_some]
  | .array element => by
      rw [toJson, ofJson?, ofJson?_toJson element, Option.map_some]
  | .typeVar id => by
      rw [toJson, ofJson?, TypeVarId.ofJson?_toJson, Option.map_some]
  | .parameterized erasure args => by
      have decodedErasure := ClassId.ofJson?_toJson erasure
      have decodedArgs := listOfJson?_listToJson args
      rw [toJson, ofJson?,
        ParameterizedTy.ofJson?_record decodedErasure decodedArgs]
      rfl
  | .unbounded => by
      rw [toJson, ofJson?, WildcardBound.ofJson?]
      rfl
  | .upperBounded bound => by
      rw [toJson, ofJson?, WildcardBound.ofJson?, ofJson?_toJson bound]
      rfl
  | .lowerBounded bound => by
      rw [toJson, ofJson?, WildcardBound.ofJson?, ofJson?_toJson bound]
      rfl

theorem Ty.listOfJson?_listToJson :
    (types : List Ty) → Ty.listOfJson? (Ty.listToJson types) = some types
  | [] => by
      rw [listToJson, listOfJson?]
  | head :: tail => by
      rw [listToJson, listOfJson?, ofJson?_toJson head,
        listOfJson?_listToJson tail]
      rfl

end

private theorem Ty.toJson_ne_null (type : Ty) : type.toJson ≠ .null := by
  cases type <;> simp [toJson]

theorem ParameterizedTy.ofJson?_toJson (node : ParameterizedTy) :
    ParameterizedTy.ofJson? node.toJson = some node := by
  rw [toJson, ← Ty.listToJson_eq_map]
  exact ofJson?_record (ClassId.ofJson?_toJson node.erasure)
    (Ty.listOfJson?_listToJson node.args)

theorem WildcardBound.ofJson?_toJson (bound : WildcardBound) :
    WildcardBound.ofJson? bound.toJson = some bound := by
  cases bound with
  | unbounded => rw [toJson, ofJson?]
  | upper bound => rw [toJson, ofJson?, Ty.ofJson?_toJson, Option.map_some]
  | lower bound => rw [toJson, ofJson?, Ty.ofJson?_toJson, Option.map_some]

/-! ## Declarations and configurations -/

theorem ClassDef.ofJson?_toJson (definition : ClassDef) :
    ClassDef.ofJson? definition.toJson = some definition := by
  have members :=
    @Json.record?_zip
      ["name", "kind", "type_params", "super_class", "interfaces"]
      [.str definition.name, definition.kind.toJson,
        .list (definition.typeParams.map TypeVarId.toJson),
        Json.ofOption Ty.toJson definition.superClass,
        .list (definition.interfaces.map Ty.toJson)]
      (by decide) rfl
  change definition.toJson.record? _ = _ at members
  have typeParams :=
    Json.list?_map TypeVarId.ofJson?_toJson definition.typeParams
  have superClass :=
    Json.optional?_ofOption Ty.ofJson?_toJson Ty.toJson_ne_null
      definition.superClass
  have interfaces := Json.list?_map Ty.ofJson?_toJson definition.interfaces
  simp only [ofJson?, members, List.map_cons, List.map_nil, Json.required?,
    Option.bind_some, Json.string?, ClassKind.ofJson?_toJson, typeParams,
    superClass, interfaces, Option.bind_eq_bind, Option.pure_def]

private theorem TypeVarOwner.ofJson?_method
    {json : Json} {owner : ClassId} (decoded : ClassId.ofJson? json = some owner)
    (name : String) :
    TypeVarOwner.ofJson?
        (.obj [("Method", .obj [("class", json), ("name", .str name)])]) =
      some (.method owner name) := by
  let fields := [("class", json), ("name", Json.str name)]
  have ownerFound : fields.lookup "class" = some json := rfl
  have nameFound : fields.lookup "name" = some (.str name) := rfl
  rw [ofJson?, ownerFound, nameFound]
  simp only [Json.required?, Option.bind_some, decoded, Json.string?,
    Option.bind_eq_bind, Option.pure_def]

theorem TypeVarOwner.ofJson?_toJson (owner : TypeVarOwner) :
    TypeVarOwner.ofJson? owner.toJson = some owner := by
  cases owner with
  | cls id => rw [toJson, ofJson?, ClassId.ofJson?_toJson, Option.map_some]
  | method owner name =>
      rw [toJson]
      exact ofJson?_method (ClassId.ofJson?_toJson owner) name

theorem TypeVarDef.ofJson?_toJson (definition : TypeVarDef) :
    TypeVarDef.ofJson? definition.toJson = some definition := by
  have members :=
    @Json.record?_zip ["name", "owner", "upper_bound"]
      [.str definition.name, definition.owner.toJson,
        Json.ofOption Ty.toJson definition.upperBound]
      (by decide) rfl
  change definition.toJson.record? _ = _ at members
  have upperBound :=
    Json.optional?_ofOption Ty.ofJson?_toJson Ty.toJson_ne_null
      definition.upperBound
  simp only [ofJson?, members, List.map_cons, List.map_nil, Json.required?,
    Option.bind_some, Json.string?, TypeVarOwner.ofJson?_toJson, upperBound,
    Option.bind_eq_bind, Option.pure_def]

theorem Config.ofJson?_toJson (config : Config) :
    Config.ofJson? config.toJson = some config := by
  have members :=
    @Json.partialRecord?_zip
      ["root_class", "unchecked_raw_conversion", "bootstrap"]
      [.str config.rootClass, .bool config.uncheckedRawConversion,
        config.bootstrap.toJson]
      (by decide) rfl
  change config.toJson.partialRecord? _ = _ at members
  simp only [ofJson?, members, List.map_cons, List.map_nil, Json.defaulted?,
    Json.string?, Json.bool?, Bootstrap.ofJson?_toJson, Option.bind_some,
    Option.bind_eq_bind, Option.pure_def]

/-- Types of any shape and depth, parameterized nodes, wildcard bounds,
definitions of classes and of type variables, owners of type variables, and
configurations are read back from their JSON encodings, and every JSON value
that stands for one of them has a normal form. -/
theorem json_encodings_round_trip :
    RoundTrips Ty.toJson Ty.ofJson? ∧
      RoundTrips ParameterizedTy.toJson ParameterizedTy.ofJson? ∧
      RoundTrips WildcardBound.toJson WildcardBound.ofJson? ∧
      RoundTrips ClassDef.toJson ClassDef.ofJson? ∧
      RoundTrips TypeVarDef.toJson TypeVarDef.ofJson? ∧
      RoundTrips TypeVarOwner.toJson TypeVarOwner.ofJson? ∧
      RoundTrips Config.toJson Config.ofJson? :=
  ⟨.of_back Ty.ofJson?_toJson, .of_back ParameterizedTy.ofJson?_toJson,
    .of_back WildcardBound.ofJson?_toJson, .of_back ClassDef.ofJson?_toJson,
    .of_back TypeVarDef.ofJson?_toJson, .of_back TypeVarOwner.ofJson?_toJson,
    .of_back Config.ofJson?_toJson⟩

/-- The normal form of a configuration names the fields that were left out. -/
example :
    (Config.ofJson? (.obj [("bootstrap", .str "java-lang")])).map Config.toJson =
      some (.obj [("root_class", .str "java.lang.Object"),
        ("unchecked_raw_conversion", .bool true),
        ("bootstrap", .str "java-lang")]) := rfl

end JavaTypes
