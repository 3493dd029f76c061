import Registry.Proofs.LintReferences
import Registry.Proofs.SchemaAgain
import Registry.Proofs.WrittenFiles

/-!
# The index of a rendering

A rendering asks for the class of every message with a data schema, and writes the classes under keys
that join the names of collection, group and message. The index has every such message, unless the
names have slashes: of several messages with one key it keeps the last one.
-/

namespace Registry

namespace Render

/-- What a message says of its data schema. -/
def Names (message : Value) (t : TypedMessage) : Prop :=
  message.textAt? "dataschemauri" = some t.reference ∧
    message.textAt? "dataschemaformat" = some t.format

/-- A document has a message that names a data schema, in a group of one of its collections. -/
def TypedAt (document : Value) (t : TypedMessage) : Prop :=
  ∃ message, document.under [t.collection, t.groupId, "messages", t.messageId] = some message ∧
    Names message t

/-- The place of a message. -/
def TypedMessage.place (t : TypedMessage) : List String := [t.collection, t.groupId, t.messageId]

lemma TypedAt.eq_of_place {document : Value} {t u : TypedMessage} (ht : TypedAt document t)
    (hu : TypedAt document u) (h : t.place = u.place) : t = u := by
  obtain ⟨collection, groupId, messageId, reference, format⟩ := t
  obtain ⟨collection', groupId', messageId', reference', format'⟩ := u
  simp only [TypedMessage.place, List.cons.injEq, and_true] at h
  obtain ⟨rfl, rfl, rfl⟩ := h
  obtain ⟨message, hunder, hreference, hformat⟩ := ht
  obtain ⟨message', hunder', hreference', hformat'⟩ := hu
  obtain rfl := Option.some.inj (hunder.symm.trans hunder')
  obtain rfl : reference = reference' := Option.some.inj (hreference.symm.trans hreference')
  obtain rfl : format = format' := Option.some.inj (hformat.symm.trans hformat')
  rfl

/-- The entry of a message in the index, by the name of its class. -/
def TypedMessage.entry (className : TypedMessage → String) (t : TypedMessage) : String × Value :=
  (t.key, .string (className t))

variable {l l' : Loader} {project : String} {document : Value} {types table : Fields}
  {messages : List TypedMessage}

/-- Typed messages in different places. -/
abbrev Lists (P : TypedMessage → Prop) : List TypedMessage → Prop :=
  Shows id (fun t u => t.place ≠ u.place) P

/-- What is listed for each entry of a mapping is listed for the whole. -/
lemma lists_entries {fields : Fields} (hn : fields.keys.Nodup) (name : TypedMessage → String)
    (Q : Value → TypedMessage → Prop) {f : String × Value → List TypedMessage}
    (hplace : ∀ t u : TypedMessage, name t ≠ name u → t.place ≠ u.place)
    (hf : ∀ e ∈ fields, Lists (fun t => name t = e.1 ∧ Q e.2 t) (f e)) :
    Lists (fun t => ∃ v, fields.get? (name t) = some v ∧ Q v t) (fields.flatMap f) := by
  refine (shows_flatMap hf ?_).congr ?_
  · refine (List.pairwise_map.1 hn).imp ?_
    rintro e e' hne t u ⟨ht, -⟩ ⟨hu, -⟩
    apply hplace
    rwa [ht, hu]
  · intro t
    constructor
    · rintro ⟨e, he, hname, hq⟩
      exact ⟨e.2, hname ▸ Table.get?_of_mem hn he, hq⟩
    · rintro ⟨v, hv, hq⟩
      exact ⟨(name t, v), Table.mem_of_get? hv, rfl, hq⟩

lemma lists_typed (collection groupId messageId : String) (message : Value) :
    Lists (fun t => t.messageId = messageId ∧ t.collection = collection ∧ t.groupId = groupId ∧
      Names message t) ((do
        let reference ← message.textAt? "dataschemauri"
        let format ← message.textAt? "dataschemaformat"
        some ⟨collection, groupId, messageId, reference, format⟩ : Option TypedMessage)).toList := by
  unfold Names
  cases message.textAt? "dataschemauri" with
  | none => exact shows_nil (by simp)
  | some reference =>
    cases message.textAt? "dataschemaformat" with
    | none => exact shows_nil (by simp)
    | some format =>
      refine shows_singleton
        (g := (⟨collection, groupId, messageId, reference, format⟩ : TypedMessage)) fun t => ?_
      cases t
      simp only [Option.some.injEq, TypedMessage.mk.injEq]
      tauto

lemma lists_typedInGroup (collection groupId : String) {group : Value} (hg : group.WellKeyed) :
    Lists (fun t => t.groupId = groupId ∧ t.collection = collection ∧
      ∃ message, group.under ["messages", t.messageId] = some message ∧ Names message t)
      (typedInGroup collection groupId group) := by
  have hmessages : ∀ id, group.under ["messages", id] =
      ((group.get? "messages").bind Value.fields?).bind (·.get? id) := by
    intro id
    rw [Value.under, Option.bind_assoc]
    congr 1
    funext v
    cases v <;> simp [Value.under, Value.get?, Value.fields?]
  unfold typedInGroup
  simp only [hmessages]
  cases hfields : (group.get? "messages").bind Value.fields? with
  | none => exact shows_nil (by simp)
  | some messages =>
    have hwell : Fields.WellKeyed messages := by
      obtain ⟨v, hv, hfields⟩ := Option.bind_eq_some_iff.1 hfields
      obtain rfl := Value.fields?_eq_some.1 hfields
      exact hg.of_get? hv
    dsimp only
    rw [List.filterMap_eq_flatMap_toList]
    refine (lists_entries hwell.nodup TypedMessage.messageId
      (fun message t => t.collection = collection ∧ t.groupId = groupId ∧ Names message t)
      (fun t u hne => by simp [TypedMessage.place, hne])
      fun e _ => lists_typed collection groupId e.1 e.2).congr ?_
    intro t
    simp only [Option.bind_some]
    tauto

/-- The typed messages of a document are listed, one for each place. -/
lemma lists_typedMessages (hd : document.WellKeyed) :
    Lists (TypedAt document) (typedMessages document) := by
  cases document with
  | mapping root =>
    refine (lists_entries (Fields.WellKeyed.nodup hd) TypedMessage.collection
      (fun groups t => ∃ message, groups.under [t.groupId, "messages", t.messageId] =
        some message ∧ Names message t)
      (fun t u hne => by simp [TypedMessage.place, hne]) ?_).congr ?_
    · rintro ⟨collection, groups⟩ he
      have hgroups : groups.WellKeyed := Fields.WellKeyed.of_mem hd he
      cases groups with
      | mapping groups =>
        refine (lists_entries (Fields.WellKeyed.nodup hgroups) TypedMessage.groupId
          (fun group t => t.collection = collection ∧ ∃ message,
            group.under ["messages", t.messageId] = some message ∧ Names message t)
          (fun t u hne => by simp [TypedMessage.place, hne])
          fun e he => lists_typedInGroup collection e.1 (Fields.WellKeyed.of_mem hgroups he)).congr ?_
        intro t
        simp only [Value.under_mapping_cons, Option.bind_eq_some_iff]
        grind
      | _ => exact shows_nil (by simp [Value.under, Value.get?, Value.fields?])
    · intro t
      simp only [TypedAt, Value.under_mapping_cons, Option.bind_eq_some_iff]
      grind
  | _ => exact shows_nil (by simp [TypedAt, Value.under, Value.get?, Value.fields?])

lemma mem_typedMessages (hd : document.WellKeyed) {t : TypedMessage} :
    t ∈ typedMessages document ↔ TypedAt document t := by
  obtain ⟨typed, htyped, -, hmem⟩ := lists_typedMessages hd
  rw [htyped, List.map_id, hmem]

lemma append_sep_inj {sep : Char} {front front' back back' : List Char} (hf : sep ∉ front)
    (hf' : sep ∉ front') (h : front ++ sep :: back = front' ++ sep :: back') :
    front = front' ∧ back = back' := by
  have hcut := congrArg (Text.cut? sep) h
  rwa [Text.cut?_append hf, Text.cut?_append hf', Option.some.injEq, Prod.mk.injEq] at hcut

/-- Names without slashes are told apart by the key. -/
lemma place_eq_of_key {t u : TypedMessage} (h : t.key = u.key)
    (ht : '/' ∉ t.collection.toList ∧ '/' ∉ t.groupId.toList)
    (hu : '/' ∉ u.collection.toList ∧ '/' ∉ u.groupId.toList) : t.place = u.place := by
  have hkey : ∀ t : TypedMessage, t.key.toList =
      t.collection.toList ++ '/' :: (t.groupId.toList ++ '/' :: t.messageId.toList) := by
    intro t
    simp [TypedMessage.key, List.append_assoc]
  have hchars := congrArg String.toList h
  rw [hkey, hkey] at hchars
  obtain ⟨hcollection, hrest⟩ := append_sep_inj ht.1 hu.1 hchars
  obtain ⟨hgroup, hmessage⟩ := append_sep_inj ht.2 hu.2 hrest
  rw [TypedMessage.place, TypedMessage.place, String.toList_injective hcollection,
    String.toList_injective hgroup, String.toList_injective hmessage]

/-- The class that a loader gives for a message, if it gives one. -/
def classGiven (l : Loader) (project : String) (document : Value) (t : TypedMessage) : String :=
  ((l.schemaClass t.reference project document t.format).1.toOption).getD ""

/-- An index has the entries of its messages, with the classes that the loader still gives
afterwards. -/
lemma index_eq_ok (h : index project document messages types l = (.ok table, l')) :
    (∀ t ∈ messages, (l'.schemaClass t.reference project document t.format).1 =
      .ok (classGiven l' project document t)) ∧
    table = (messages.map (TypedMessage.entry (classGiven l' project document))).foldl
      (fun types e => types.insert e.1 e.2) types := by
  induction messages generalizing types l with
  | nil =>
    obtain ⟨htable, -⟩ := Prod.mk.inj h
    exact ⟨by simp, (Except.ok.inj htable).symm⟩
  | cons t rest ih =>
    unfold index at h
    split at h
    · cases (Prod.mk.inj h).1
    · next name between hclass =>
      -- the loader at the end keeps what this message was answered from
      have hlater : between.fetcher.GoesOn l'.fetcher := by
        have hgoes := Loader.goesOn_index (.refl between.fetcher) project document rest
          (types.insert t.key (.string name))
        rwa [h] at hgoes
      have hsame : (l'.schemaClass t.reference project document t.format).1 = .ok name := by
        have hfirst : (l.schemaClass t.reference project document t.format).1 = .ok name := by
          rw [hclass]
        rw [← hfirst]
        apply Loader.schemaClass_again
        rw [hclass]
        exact hlater.keeps_cache
      have hname : classGiven l' project document t = name := by
        rw [classGiven, hsame]
        rfl
      obtain ⟨hclasses, htable⟩ := ih h
      refine ⟨List.forall_mem_cons.2 ⟨hname ▸ hsame, hclasses⟩, ?_⟩
      rw [htable, List.map_cons, List.foldl_cons, TypedMessage.entry, hname]

/-- What a rendering that was written consists of. -/
lemma render_of_completed {directory : String} {d : Disk} {paths : List String}
    (h : (l.renderInto project document directory d).1 = .ok (.completed paths)) :
    let l' := (l.renderInto project document directory d).2.1
    let d' := (l.renderInto project document directory d).2.2
    ∃ types, index project document (typedMessages document) [] l = (.ok types, l') ∧
      d.writeAll directory (filesOf project document types) = (some paths, d') := by
  unfold Loader.renderInto at h ⊢
  have hrender : ∀ files, (l.render project document).1 = .ok (.files files) →
      ∃ types, index project document (typedMessages document) [] l =
        (.ok types, (l.render project document).2) ∧ files = filesOf project document types := by
    intro files hfiles
    unfold Loader.render at hfiles ⊢
    split at hfiles
    · next hgroups =>
      rw [if_pos hgroups]
      generalize index project document (typedMessages document) [] l = indexed at hfiles
      obtain ⟨fault | types, after⟩ := indexed
      · cases hfiles
      · exact ⟨types, rfl, (Rendering.files.inj (Except.ok.inj hfiles)).symm⟩
    · cases Except.ok.inj hfiles
  generalize l.render project document = rendered at h hrender ⊢
  obtain ⟨fault | (files | reason), after⟩ := rendered
  · cases h
  · obtain ⟨types, hindex, rfl⟩ := hrender files rfl
    refine ⟨types, ?_⟩
    dsimp only at h ⊢
    generalize d.writeAll directory (filesOf project document types) = written at h ⊢
    obtain ⟨_ | paths', d'⟩ := written
    · cases h
    · obtain rfl := Output.completed.inj (Except.ok.inj h)
      exact ⟨hindex, rfl⟩
  · cases Except.ok.inj h

/-- The file of an index: it is written exactly if the index has entries, and what stands in its place
stays otherwise. -/
lemma readBytes_index {directory : String} {d d' : Disk} {paths : List String}
    (h : d.writeAll directory (filesOf project document types) = (some paths, d')) :
    let path := Disk.join directory (project ++ ".types.json")
    (path ∈ paths ↔ types ≠ []) ∧
      d'.readBytes path = if types = [] then (d'.filePlace? path).bind d.file?
        else some (Text.Utf8.encode (Json.pretty (.mapping types)).toList) := by
  intro path
  have hwrote := Disk.wrote_writeAll h
  have hdocument : '/' ∉ ".json".toList := by decide
  have hindex : '/' ∉ ".types.json".toList := by decide
  cases types with
  | nil =>
    have hpaths : paths = [Disk.join directory (project ++ ".json")] := hwrote.paths_eq
    constructor
    · have hne : path ≠ Disk.join directory (project ++ ".json") := by
        intro he
        change Disk.join directory (project ++ ".types.json") = _ at he
        rw [Disk.join_append _ _ hindex, Disk.join_append _ _ hdocument,
          String.append_right_inj] at he
        exact absurd he (by decide)
      simp [hpaths, hne]
    · rw [if_pos rfl, Disk.readBytes]
      cases hplace : d'.filePlace? path with
      | none => rfl
      | some q =>
        apply hwrote.file?_of_ne
        rw [hpaths, List.forall_mem_singleton]
        exact fun hq => Disk.ne_of_filePlace?_join hdocument hindex (by decide) hq hplace rfl
  | cons e types =>
    have hfiles : filesOf project document (e :: types) =
        [(project ++ ".json", Json.pretty document)] ++
          (project ++ ".types.json", Json.pretty (.mapping (e :: types))) :: [] := rfl
    constructor
    · simp [hwrote.paths_eq, hfiles, path]
    · rw [if_neg (List.cons_ne_nil _ _)]
      exact hwrote.readBytes _ _ _ _ hfiles (by simp)

/-- The table of an index: the keys of its messages, and under each key the class of the last message
with that key; an entry for each message exactly if their keys differ. -/
lemma table_index {typed : List TypedMessage} (className : TypedMessage → String)
    (hplaces : typed.Pairwise fun t u => t.place ≠ u.place) :
    let types := Table.ofEntries (typed.map (TypedMessage.entry className))
    (types = [] ↔ typed = []) ∧ (∀ key, key ∈ types.keys ↔ ∃ t ∈ typed, t.key = key) ∧
      (∀ before t after, typed = before ++ t :: after → (∀ u ∈ after, u.key ≠ t.key) →
        types.get? t.key = some (.string (className t))) ∧
      (types = typed.map (TypedMessage.entry className) ↔
        ∀ t ∈ typed, ∀ u ∈ typed, t.key = u.key → t = u) := by
  intro types
  have hkeys : (typed.map (TypedMessage.entry className)).map Prod.fst =
      typed.map TypedMessage.key := by
    rw [List.map_map]
    rfl
  have hmem : ∀ key, key ∈ types.keys ↔ ∃ t ∈ typed, t.key = key := by
    intro key
    rw [Table.mem_keys_ofEntries, hkeys, List.mem_map]
  refine ⟨?_, hmem, ?_, ?_⟩
  · constructor
    · intro htypes
      rw [List.eq_nil_iff_forall_not_mem]
      intro t ht
      have hkey := (hmem t.key).2 ⟨t, ht, rfl⟩
      rw [htypes] at hkey
      exact List.not_mem_nil hkey
    · rintro rfl
      rfl
  · rintro before t after rfl hafter
    have hlast : ∀ e ∈ after.map (TypedMessage.entry className), e.1 ≠ (t.entry className).1 :=
      List.forall_mem_map.2 hafter
    have hget := Table.get?_ofEntries (before.map (TypedMessage.entry className)) _ hlast
    rwa [← List.map_cons, ← List.map_append] at hget
  · have hn : typed.Nodup := hplaces.imp fun hne he => hne (congrArg TypedMessage.place he)
    rw [Table.ofEntries_eq_iff, hkeys]
    exact ⟨fun h _ ht _ hu => List.inj_on_of_nodup_map h ht hu, fun h => hn.map_on h⟩

/-- A rendering that was written has an index exactly if the document has messages that name a data
schema; without them what stands in its place stays. The index has the keys of these messages, each
once, and under each key the class of the last message with that key, as the loader still gives it
afterwards. So it has an entry for each message exactly if their keys differ, and they do differ unless
the name of a collection or the id of a group has a slash. -/
theorem renderInto_index {directory : String} {d : Disk} {paths : List String}
    (hd : document.WellKeyed)
    (h : (l.renderInto project document directory d).1 = .ok (.completed paths)) :
    let l' := (l.renderInto project document directory d).2.1
    let d' := (l.renderInto project document directory d).2.2
    let path := Disk.join directory (project ++ ".types.json")
    ∃ (typed : List TypedMessage) (className : TypedMessage → String),
      let types := Table.ofEntries (typed.map (TypedMessage.entry className))
      (∀ t, t ∈ typed ↔ TypedAt document t) ∧ typed.Pairwise (fun t u => t.place ≠ u.place) ∧
      (∀ t ∈ typed, (l'.schemaClass t.reference project document t.format).1 =
        .ok (className t)) ∧
      (path ∈ paths ↔ typed ≠ []) ∧
      d'.readBytes path = (if typed = [] then (d'.filePlace? path).bind d.file?
        else some (Text.Utf8.encode (Json.pretty (.mapping types)).toList)) ∧
      types.keys.Nodup ∧ (∀ key, key ∈ types.keys ↔ ∃ t ∈ typed, t.key = key) ∧
      (∀ before t after, typed = before ++ t :: after → (∀ u ∈ after, u.key ≠ t.key) →
        types.get? t.key = some (.string (className t))) ∧
      (types = typed.map (TypedMessage.entry className) ↔
        ∀ t u, TypedAt document t → TypedAt document u → t.key = u.key → t = u) ∧
      ((∀ t, TypedAt document t → '/' ∉ t.collection.toList ∧ '/' ∉ t.groupId.toList) →
        types = typed.map (TypedMessage.entry className)) := by
  obtain ⟨types, hindex, hwritten⟩ := render_of_completed h
  intro l' d' path
  obtain ⟨hclasses, htypes⟩ := index_eq_ok hindex
  obtain ⟨typed, htyped, hplaces, hmem⟩ := lists_typedMessages hd
  rw [List.map_id] at htyped
  subst htyped
  obtain ⟨hempty, hkeys, hlast, hcomplete⟩ :=
    table_index (classGiven l' project document) hplaces
  obtain ⟨hpath, hbytes⟩ := readBytes_index hwritten
  have htable : types = Table.ofEntries
      ((typedMessages document).map (TypedMessage.entry (classGiven l' project document))) := htypes
  rw [← htable] at hempty hkeys hlast hcomplete
  have hcomplete' : types = (typedMessages document).map
      (TypedMessage.entry (classGiven l' project document)) ↔
      ∀ t u, TypedAt document t → TypedAt document u → t.key = u.key → t = u := by
    simp only [hcomplete, hmem]
    exact ⟨fun h t u ht hu => h t ht u hu, fun h t ht u hu => h t u ht hu⟩
  refine ⟨typedMessages document, classGiven l' project document, ?_⟩
  rw [← htable]
  refine ⟨hmem, hplaces, hclasses, ?_, ?_, ?_, hkeys, hlast, hcomplete', ?_⟩
  · rw [hpath, ne_eq, hempty]
  · exact hbytes.trans (if_congr hempty rfl rfl)
  · exact htable ▸ Table.nodup_keys_ofEntries _
  · intro hslash
    rw [hcomplete']
    intro t u ht hu hkey
    exact ht.eq_of_place hu (place_eq_of_key hkey (hslash t ht) (hslash u hu))

/-- Two messages in groups without slashes have an entry each, although the id of one has a slash. -/
theorem renderInto_index_of_two :
    let message : Value := .mapping [("dataschemauri", .string "#/schemagroups/s/schemas/x"),
      ("dataschemaformat", .string "JsonSchema/draft-07")]
    let schema : Value := .mapping [("format", .string "JsonSchema/draft-07"),
      ("schema", .mapping [("type", .string "object")])]
    let document : Value := .mapping [
      ("messagegroups", .mapping [("g", .mapping [("messages", .mapping [("a", message),
        ("a/b", message)])])]),
      ("schemagroups", .mapping [("s", .mapping [("schemas", .mapping [("x", schema)])])])]
    let l := Loader.start Model.standard (.ofDocuments []) .strict
    let rendered := l.renderInto "App" document "out" (.empty ["w"])
    let typed (id : String) : TypedMessage :=
      ⟨"messagegroups", "g", id, "#/schemagroups/s/schemas/x", "JsonSchema/draft-07"⟩
    document.WellKeyed ∧ rendered.1 = .ok (.completed ["out/App.json", "out/App.types.json"]) ∧
      ∃ (types : Fields) (className : TypedMessage → String),
        rendered.2.2.readBytes "out/App.types.json" =
          some (Text.Utf8.encode (Json.pretty (.mapping types)).toList) ∧
        ∀ t ∈ ["a", "a/b"].map typed, t.entry className ∈ types ∧
          (rendered.2.1.schemaClass t.reference "App" document t.format).1 = .ok (className t) := by
  intro message schema document l rendered typed
  have hdocument : document.WellKeyed := by
    simp [document, message, schema, Value.WellKeyed, Value.WellKeyedFields, Table.keys]
  have hrendered : rendered.1 = .ok (.completed ["out/App.json", "out/App.types.json"]) := by
    decide +kernel
  refine ⟨hdocument, hrendered, ?_⟩
  have hmessages : typedMessages document = ["a", "a/b"].map typed := by decide +kernel
  have hslash : ∀ t, TypedAt document t →
      '/' ∉ t.collection.toList ∧ '/' ∉ t.groupId.toList := by
    intro t ht
    rw [← mem_typedMessages hdocument, hmessages] at ht
    revert t
    decide
  obtain ⟨messages, className, hmem, -, hclasses, -, hbytes, -, -, -, -, hcomplete⟩ :=
    renderInto_index hdocument hrendered
  have hin : ∀ t ∈ ["a", "a/b"].map typed, t ∈ messages := by
    intro t ht
    rwa [hmem, ← mem_typedMessages hdocument, hmessages]
  have hpath : Disk.join "out" ("App" ++ ".types.json") = "out/App.types.json" := by decide
  have hne : messages ≠ [] := List.ne_nil_of_mem (hin (typed "a") (by simp))
  have hrun : l.renderInto "App" document "out" (.empty ["w"]) = rendered := rfl
  rw [if_neg hne, hcomplete hslash, hpath, hrun] at hbytes
  rw [hrun] at hclasses
  refine ⟨_, className, hbytes, ?_⟩
  intro t ht
  exact ⟨List.mem_map_of_mem (hin t ht), hclasses t (hin t ht)⟩

/-- Of two messages whose groups and ids join to the same key the index has the second one alone. -/
theorem renderInto_loses_message :
    let message (reference : String) : Value := .mapping [("dataschemauri", .string reference),
      ("dataschemaformat", .string "JsonSchema/draft-07")]
    let schema : Value := .mapping [("format", .string "JsonSchema/draft-07"),
      ("schema", .mapping [("type", .string "object")])]
    let document : Value := .mapping [
      ("messagegroups", .mapping [
        ("a/b", .mapping [("messages", .mapping [("c", message "#/schemagroups/s/schemas/x")])]),
        ("a", .mapping [("messages", .mapping [("b/c", message "#/schemagroups/s/schemas/y")])])]),
      ("schemagroups", .mapping [("s", .mapping [("schemas", .mapping [("x", schema),
        ("y", schema)])])])]
    let l := Loader.start Model.standard (.ofDocuments []) .strict
    let rendered := l.renderInto "App" document "out" (.empty ["w"])
    TypedAt document ⟨"messagegroups", "a/b", "c", "#/schemagroups/s/schemas/x",
        "JsonSchema/draft-07"⟩ ∧
      TypedAt document ⟨"messagegroups", "a", "b/c", "#/schemagroups/s/schemas/y",
        "JsonSchema/draft-07"⟩ ∧
      rendered.1 = .ok (.completed ["out/App.json", "out/App.types.json"]) ∧
      rendered.2.2.readBytes "out/App.types.json" = some (Text.Utf8.encode (Json.pretty
        (.mapping [("messagegroups/a/b/c", .string "App.s.y")])).toList) ∧
      (rendered.2.1.schemaClass "#/schemagroups/s/schemas/x" "App" document
        "JsonSchema/draft-07").1 = .ok "App.s.x" := by
  intro message schema document l rendered
  refine ⟨⟨message "#/schemagroups/s/schemas/x", ?_, ?_, ?_⟩,
    ⟨message "#/schemagroups/s/schemas/y", ?_, ?_, ?_⟩, ?_, ?_, ?_⟩ <;>
    decide +kernel

end Render

end Registry
