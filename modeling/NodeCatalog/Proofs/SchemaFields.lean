import NodeCatalog.Proofs.SchemaRun
/-!
# The fields of a node's schema

A node's schema is built in stages, each overriding what the stages before it set: the defaults its
file name gives, the base description, the declared versions, the single fields of the whole source,
and a subtitle looked up in the whole source when none is set yet. The properties and a second
cleaning of the connection lists come last and touch nothing else. This is `deep_extract_node_info`
(`src/tools/extract_schemas.py`, lines 230–291).

So the keys of a schema are fixed but for one: the single fields include `version`, which the
defaults lack, and a schema carries it exactly when its source declares a readable one. And a
field of the base description survives only where no later stage sets it again. The display
name and the name always survive, and the subtitle when it is not empty. The description and
the group are those the single fields find first in the whole source, whenever they find one.
A declared default version of one or zero gives way to the highest declared version.

- `Schema.merged`, `Schema.extract_eq_ok`: an extracted schema is the merged one, with its
  properties and its connection lists cleaned again.
- `Schema.keys_toValue`: the keys of a schema as a mapping.
- `Schema.keys_and_type_of_extract`: **the keys of a node's schema, and its type.**
- `Schema.fields_of_extract`: **which fields of the base description a node's schema keeps, and
  what the others hold.**
-/

namespace NodeCatalog

namespace Schema

variable {s : Schema}

/-! ## The stages -/

/-- The schema a source gives before its properties are read. -/
def merged (base content : Text) : Schema :=
  initial base
    |>.withBase (BaseDescription.ofContent content)
    |>.withVersions (Versions.ofContent content)
    |>.withSingle (SingleFields.ofContent content)
    |>.withSubtitle content

@[simp] theorem withVersions_nil : s.withVersions [] = s := rfl

/-- With versions declared, they are listed, and the last (the highest, the list being sorted)
becomes the default when the default may be replaced. -/
theorem withVersions_of_getLast? {vs : List Float} {top : Float} (h : vs.getLast? = some top) :
    s.withVersions vs = { s with
      availableVersions := vs
      defaultVersion := if replaceableDefault s.defaultVersion then some top
        else s.defaultVersion } := by
  simp [withVersions, h]

/-- Looking up a subtitle sets the subtitle and nothing else. -/
theorem withSubtitle_eq (content : Text) :
    s.withSubtitle content = { s with subtitle := (s.withSubtitle content).subtitle } := by
  unfold withSubtitle withSubtitle.lookup
  split
  · split
    · split <;> rfl
    · rfl
  · split <;> rfl

/-- A subtitle that is set and not empty is not looked up again. -/
theorem withSubtitle_subtitle_of_ne {content n : Text} (h : s.subtitle = some n) (hn : n ≠ []) :
    (s.withSubtitle content).subtitle = some n := by
  simp [withSubtitle, h, List.isEmpty_iff, hn]

/-- The stages after the base description leave the display name, the name and the type. -/
theorem merged_names (base content : Text) :
    (merged base content).displayName =
        (BaseDescription.ofContent content).displayName.getD base ∧
      (merged base content).name = (BaseDescription.ofContent content).name.getD base ∧
      (merged base content).type = typePrefix ++ base := by
  rw [merged, withSubtitle_eq]
  cases h : (Versions.ofContent content).getLast? with
  | none =>
    rw [List.getLast?_eq_none_iff.mp h]
    simp [withSingle, withBase, initial]
  | some top =>
    rw [withVersions_of_getLast? h]
    simp [withSingle, withBase, initial]

/-- The declared versions are listed, and nothing after them lists any. -/
theorem merged_availableVersions (base content : Text) :
    (merged base content).availableVersions = Versions.ofContent content := by
  rw [merged, withSubtitle_eq]
  cases h : (Versions.ofContent content).getLast? with
  | none =>
    rw [List.getLast?_eq_none_iff.mp h]
    simp [withSingle, withBase, initial]
  | some top =>
    rw [withVersions_of_getLast? h]
    simp [withSingle]

/-- The description and the group are the single fields' when they are found, else the base
description's; the version is the single fields' when it reads as a number. -/
theorem merged_single (base content : Text) :
    (merged base content).description = (SingleFields.ofContent content).description.orElse
        (fun _ => (BaseDescription.ofContent content).description) ∧
      (merged base content).group = (SingleFields.ofContent content).group.getD
        ((BaseDescription.ofContent content).group.getD []) ∧
      (merged base content).version = (SingleFields.ofContent content).version.join := by
  have hsingle : ∀ m : Schema, m.version = none →
      (m.withSingle (SingleFields.ofContent content)).version =
        (SingleFields.ofContent content).version.join := by
    intro m hm
    simp only [withSingle]
    rcases (SingleFields.ofContent content).version with _ | _ | x <;> simp [hm]
  rw [merged, withSubtitle_eq]
  cases h : (Versions.ofContent content).getLast? with
  | none =>
    rw [List.getLast?_eq_none_iff.mp h]
    refine ⟨by simp [withSingle, withBase, initial], by simp [withSingle, withBase, initial],
      hsingle _ rfl⟩
  | some top =>
    rw [withVersions_of_getLast? h]
    refine ⟨by simp [withSingle, withBase, initial], by simp [withSingle, withBase, initial],
      hsingle _ rfl⟩

/-- A non-empty subtitle of the base description is kept. -/
theorem merged_subtitle_of_base {base content n : Text}
    (h : (BaseDescription.ofContent content).subtitle = some n) (hn : n ≠ []) :
    (merged base content).subtitle = some n := by
  refine withSubtitle_subtitle_of_ne ?_ hn
  cases hv : (Versions.ofContent content).getLast? with
  | none =>
    rw [List.getLast?_eq_none_iff.mp hv]
    simp [withSingle, withBase, h]
  | some top =>
    rw [withVersions_of_getLast? hv]
    simp [withSingle, withBase, h]

/-- The default version: the declared one, replaced by the last declared version when versions
are declared and the declared default is missing, one or zero. -/
theorem merged_defaultVersion (base content : Text) :
    (merged base content).defaultVersion =
      if Versions.ofContent content ≠ [] ∧
          replaceableDefault ((BaseDescription.ofContent content).defaultVersion.join) = true
      then (Versions.ofContent content).getLast?
      else (BaseDescription.ofContent content).defaultVersion.join := by
  have hbase : ((initial base).withBase (BaseDescription.ofContent content)).defaultVersion =
      (BaseDescription.ofContent content).defaultVersion.join := by
    simp only [withBase, initial]
    rcases (BaseDescription.ofContent content).defaultVersion with _ | _ | x <;> simp
  rw [merged, withSubtitle_eq]
  cases h : (Versions.ofContent content).getLast? with
  | none =>
    have hnil := List.getLast?_eq_none_iff.mp h
    rw [hnil]
    simpa [withSingle] using hbase
  | some top =>
    have hne : Versions.ofContent content ≠ [] := by
      intro e
      simp [e] at h
    rw [withVersions_of_getLast? h]
    simp only [withSingle, hbase, ne_eq, hne, not_false_eq_true, true_and]

/-- An extracted schema is the merged one, with its properties read and its connection lists
cleaned again. -/
theorem extract_eq_ok {t : FileTree} {file : Text} (h : extract t file = .ok s) :
    ∃ props, s =
      let m := merged (Node.baseName (Path.ofText file).stem) ((t.readText file).toOption.getD [])
      { m with
        properties := props
        inputs := recleaned m.inputs
        outputs := recleaned m.outputs
        credentials := recleaned m.credentials
        webhooks := recleaned m.webhooks } := by
  simp only [extract] at h
  obtain ⟨c, -, h⟩ := Except.bind_eq_ok.mp h
  obtain ⟨ps, -, h⟩ := Except.bind_eq_ok.mp h
  cases h
  exact ⟨_, rfl⟩

/-! ## The keys of a schema -/

/-- The fields every schema has, in the order a schema lists them. -/
def fieldNames : List String :=
  ["name", "displayName", "type", "subtitle", "description", "group", "defaultVersion",
    "availableVersions", "inputs", "outputs", "credentials", "webhooks", "properties"]

/-- A schema as a mapping has the thirteen fields, in order, then `version` when it has one. -/
theorem keys_toValue (s : Schema) :
    ∃ es, s.toValue = .dict es ∧
      es.map (·.1) = (fieldNames ++ if s.version.isSome then ["version"] else []).map
        fun k => .str (Text.ofString k) := by
  refine ⟨_, rfl, ?_⟩
  cases s.version <;> rfl

/-- **The keys of a node's schema, and its type.** The schema of a node file, whatever its
content, has the thirteen fields of every schema, in order, and one key more, `version`, exactly
when the single fields of its source find a version that reads as a number. Its type is the
file's name without `.node.ts`, under `n8n-nodes-base.`. -/
theorem keys_and_type_of_extract {t : FileTree} {file : Text}
    (hname : (Path.ofText file).name.endsWith ".node.ts" = true) {s : Schema}
    (h : extract t file = .ok s) :
    (∃ es, s.toValue = .dict es ∧
      es.map (·.1) = (fieldNames ++
        if (SingleFields.ofContent ((t.readText file).toOption.getD [])).version.join.isSome
        then ["version"] else []).map fun k => .str (Text.ofString k)) ∧
      s.type = typePrefix ++ Catalog.nodeKey (Path.ofText file) := by
  obtain ⟨props, rfl⟩ := extract_eq_ok h
  obtain ⟨es, hes, hkeys⟩ := keys_toValue
    { merged (Node.baseName (Path.ofText file).stem) ((t.readText file).toOption.getD []) with
      properties := props }
  refine ⟨⟨_, rfl, ?_⟩, ?_⟩
  · -- the version is the single fields' readable one, and the last stage does not touch it
    have hversion := (merged_single (Node.baseName (Path.ofText file).stem)
      ((t.readText file).toOption.getD [])).2.2
    simp only [hversion]
    cases (SingleFields.ofContent ((t.readText file).toOption.getD [])).version.join <;> rfl
  · rw [(merged_names _ _).2.2, Catalog.baseName_stem_eq_nodeKey hname]

/-- A node file declaring a version, every hypothesis met: its schema has fourteen keys. -/
theorem keys_and_type_of_versioned_node :
    let t : FileTree := { files := [(["A.node.ts"], Utf8.encode "version: 2")] }
    (Path.ofText "A.node.ts").name.endsWith ".node.ts" = true ∧
      ∃ s, extract t "A.node.ts" = .ok s ∧
        (∃ es, s.toValue = .dict es ∧
          es.map (·.1) = (fieldNames ++
            if (SingleFields.ofContent ((t.readText "A.node.ts").toOption.getD [])).version.join.isSome
            then ["version"] else []).map fun k => .str (Text.ofString k)) ∧
        s.type = typePrefix ++ Catalog.nodeKey (Path.ofText "A.node.ts") := by
  intro t
  have hname : (Path.ofText "A.node.ts").name.endsWith ".node.ts" = true := by decide +kernel
  have hok : (extract t "A.node.ts").isOk = true := by decide +kernel
  obtain ⟨s, h⟩ := Except.exists_ok_of_isOk hok
  exact ⟨hname, s, h, keys_and_type_of_extract hname h⟩

/-- A source that declares `version: 1` gives a schema with fourteen keys, not thirteen. -/
theorem schema_gains_version_key :
    (extract { files := [(["A.node.ts"], Utf8.encode "version: 1")] } "A.node.ts").toOption.map
      (fun s => match s.toValue with
        | .dict es => es.length
        | _ => 0) = some 14 := by
  decide +kernel

/-! ## What survives of the base description -/

/-- **Which fields of the base description a node's schema keeps.** In the schema of a node
file, the available versions are the declared ones. The display name, the name and a non-empty
subtitle of the base description are kept. The description and the group are those the single
fields find in the whole source when they find them, else the base description's. A declared
default version that reads as a number is kept, unless versions are declared and it is one or
zero; then, and when no readable default is declared, the default is the last (highest)
declared version, or the starting integer one (`none`) when no version is declared. -/
theorem fields_of_extract {t : FileTree} {file : Text} {s : Schema} (h : extract t file = .ok s) :
    let content := (t.readText file).toOption.getD []
    let b := BaseDescription.ofContent content
    let vs := Versions.ofContent content
    let f := SingleFields.ofContent content
    s.availableVersions = vs ∧
      (∀ n, b.displayName = some n → s.displayName = n) ∧
      (∀ n, b.name = some n → s.name = n) ∧
      (∀ n, b.subtitle = some n → n ≠ [] → s.subtitle = some n) ∧
      s.description = f.description.orElse (fun _ => b.description) ∧
      s.group = f.group.getD (b.group.getD []) ∧
      (∀ x, b.defaultVersion = some (some x) → (vs = [] ∨ replaceableDefault (some x) = false) →
        s.defaultVersion = some x) ∧
      (∀ x, b.defaultVersion = some (some x) → vs ≠ [] → replaceableDefault (some x) = true →
        s.defaultVersion = vs.getLast?) ∧
      (b.defaultVersion.join = none → s.defaultVersion = vs.getLast?) := by
  dsimp only
  obtain ⟨props, rfl⟩ := extract_eq_ok h
  generalize (t.readText file).toOption.getD [] = content
  obtain ⟨hdisplay, hname, -⟩ := merged_names (Node.baseName (Path.ofText file).stem) content
  obtain ⟨hdesc, hgroup, -⟩ := merged_single (Node.baseName (Path.ofText file).stem) content
  have hdefault := merged_defaultVersion (Node.baseName (Path.ofText file).stem) content
  refine ⟨merged_availableVersions _ _, fun n hn => ?_, fun n hn => ?_,
    fun n hn hne => merged_subtitle_of_base hn hne, hdesc, hgroup, ?kept, ?replaced, ?missing⟩
  · simp [hdisplay, hn]
  · simp [hname, hn]
  case kept =>
    intro x hx hkeep
    -- the declared default is replaced only when versions are declared and it is one or zero
    have hnot : ¬(Versions.ofContent content ≠ [] ∧ replaceableDefault (some x) = true) := by
      rintro ⟨hne, hrep⟩
      rcases hkeep with hnil | hfalse
      · exact hne hnil
      · rw [hrep] at hfalse
        cases hfalse
    rw [hdefault, hx, Option.join_some, if_neg hnot]
  case replaced =>
    intro x hx hne hrep
    rw [hdefault, hx, Option.join_some, if_pos ⟨hne, hrep⟩]
  case missing =>
    intro hnone
    rw [hdefault, hnone]
    by_cases hnil : Versions.ofContent content = []
    · simp [hnil]
    · rw [if_pos ⟨hnil, rfl⟩]

/-- A node file with a base description, every hypothesis met. -/
theorem fields_of_described_node :
    let t : FileTree := { files := [(["A.node.ts"],
      Utf8.encode "const baseDescription = \x7b displayName: 'A', name: 'a' \x7d;")] }
    ∃ s, extract t "A.node.ts" = .ok s ∧
      let content := (t.readText "A.node.ts").toOption.getD []
      let b := BaseDescription.ofContent content
      let vs := Versions.ofContent content
      let f := SingleFields.ofContent content
      s.availableVersions = vs ∧
        (∀ n, b.displayName = some n → s.displayName = n) ∧
        (∀ n, b.name = some n → s.name = n) ∧
        (∀ n, b.subtitle = some n → n ≠ [] → s.subtitle = some n) ∧
        s.description = f.description.orElse (fun _ => b.description) ∧
        s.group = f.group.getD (b.group.getD []) ∧
        (∀ x, b.defaultVersion = some (some x) → (vs = [] ∨ replaceableDefault (some x) = false) →
          s.defaultVersion = some x) ∧
        (∀ x, b.defaultVersion = some (some x) → vs ≠ [] → replaceableDefault (some x) = true →
          s.defaultVersion = vs.getLast?) ∧
        (b.defaultVersion.join = none → s.defaultVersion = vs.getLast?) := by
  intro t
  have hok : (extract t "A.node.ts").isOk = true := by decide +kernel
  obtain ⟨s, h⟩ := Except.exists_ok_of_isOk hok
  exact ⟨s, h, fields_of_extract h⟩

/-- The single fields find the description again in the whole source, and strip it: a base
description `' x '` becomes `x` in the schema. -/
theorem description_stripped_by_single_fields :
    let t : FileTree := { files := [(["A.node.ts"],
      Utf8.encode "const baseDescription = \x7b description: ' x ' \x7d;")] }
    (BaseDescription.ofContent ((t.readText "A.node.ts").toOption.getD [])).description =
        some (Text.ofString " x ") ∧
      (extract t "A.node.ts").toOption.map (·.description) = some (some (Text.ofString "x")) := by
  decide +kernel

end Schema

end NodeCatalog
