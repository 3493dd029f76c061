import Mathlib.Data.List.Infix
import Registry.Proofs.SchemaSoundness

/-!
# The messages of a Protocol Buffers schema

A text declares a message wherever the word `message` is followed by a name and an opening brace.
Only the first declaration counts for a class name: a name that the reference gives is kept if the
first message has it, and otherwise gives way to the first message, whatever else is declared.
-/

namespace Registry.SchemaClass

open Text

variable {cs name : List Char} {text message : String}

lemma not_isWordChar_of_isBlank {c : Char} (h : isBlank c = true) : isWordChar c = false := by
  have hcodes : ∀ n ∈ [9, 10, 11, 12, 13, 0x20, 0x85, 0xa0, 0x1680, 0x2000, 0x2001, 0x2002, 0x2003,
      0x2004, 0x2005, 0x2006, 0x2007, 0x2008, 0x2009, 0x200a, 0x2028, 0x2029, 0x202f, 0x205f, 0x3000],
      isWordChar (Char.ofNat n) = false := by
    decide +kernel
  rw [← Char.ofNat_toNat c]
  apply hcodes
  simp only [isBlank, Bool.or_eq_true, Bool.and_eq_true, decide_eq_true_eq, beq_iff_eq] at h
  simp only [List.mem_cons, List.not_mem_nil, or_false]
  omega

/-- A text starts with the declaration of a message: the word `message`, blanks, the name, and an
opening brace, possibly behind more blanks. Comments are not told apart. -/
inductive Declaring (name : List Char) : List Char → Prop
  | intro {gap space : List Char} (rest : List Char) (hgap : gap ≠ [])
      (hblank : ∀ c ∈ gap, isBlank c = true) (hname : name ≠ [])
      (hword : ∀ c ∈ name, isWordChar c = true) (hspace : ∀ c ∈ space, isBlank c = true) :
      Declaring name ("message".toList ++ (gap ++ (name ++ (space ++ '\x7b' :: rest))))

/-- A text declares a message, wherever that is. -/
def Declares (text message : String) : Prop :=
  ∃ before after, text.toList = before ++ after ∧ Declaring message.toList after

/-- A text declares a message, and none before it. -/
def DeclaresFirst (text message : String) : Prop :=
  ∃ before after, text.toList = before ++ after ∧ Declaring message.toList after ∧
    ∀ front back, text.toList = front ++ back → front.length < before.length →
      ∀ other, ¬Declaring other back

lemma DeclaresFirst.declares (h : DeclaresFirst text message) : Declares text message := by
  obtain ⟨before, after, htext, hafter, -⟩ := h
  exact ⟨before, after, htext, hafter⟩

lemma Declaring.not_mem_dot (h : Declaring name cs) : '.' ∉ name := by
  obtain ⟨-, -, -, -, hword, -⟩ := h
  intro hdot
  exact absurd (hword '.' hdot) (by decide)

/-- A text in which blanks, a name and a brace follow the word declares a message. -/
lemma declaring_of_parts {rest tail : List Char} (hhead : rest.head?.any isBlank = true)
    (hname : (trimStart rest).takeWhile isWordChar ≠ [])
    (hbrace : trimStart ((trimStart rest).dropWhile isWordChar) = '\x7b' :: tail) :
    Declaring ((trimStart rest).takeWhile isWordChar) ("message".toList ++ rest) := by
  have hgap : rest.takeWhile isBlank ≠ [] := by
    cases rest with
    | nil => simp at hhead
    | cons c rest =>
      have hc : isBlank c = true := by simpa using hhead
      simp [hc]
  have hall : ∀ (p : Char → Bool) (cs : List Char), ∀ c ∈ cs.takeWhile p, p c = true :=
    fun p cs => List.all_eq_true.1 List.all_takeWhile
  have hparts : rest = rest.takeWhile isBlank ++ ((trimStart rest).takeWhile isWordChar ++
      (((trimStart rest).dropWhile isWordChar).takeWhile isBlank ++ '\x7b' :: tail)) := by
    rw [← hbrace, trimStart, trimStart, List.takeWhile_append_dropWhile,
      List.takeWhile_append_dropWhile, List.takeWhile_append_dropWhile]
  have hdeclaring := Declaring.intro tail hgap (hall _ _) hname (hall _ _)
    (hall isBlank ((trimStart rest).dropWhile isWordChar))
  rwa [← hparts] at hdeclaring

lemma Declaring.ne_nil (h : Declaring name cs) : name ≠ [] := by
  obtain ⟨-, -, -, hname, -⟩ := h
  exact hname

/-- What follows the word where a message is declared. -/
lemma Declaring.parts (h : Declaring name cs) : ∃ rest tail, cs = "message".toList ++ rest ∧
    rest.head?.any isBlank = true ∧ (trimStart rest).takeWhile isWordChar = name ∧
      trimStart ((trimStart rest).dropWhile isWordChar) = '\x7b' :: tail := by
  obtain @⟨gap, space, tail, hgap, hblank, hname, hword, hspace⟩ := h
  obtain ⟨b, gap, rfl⟩ := List.exists_cons_of_ne_nil hgap
  obtain ⟨w, word, rfl⟩ := List.exists_cons_of_ne_nil hname
  have hbrace : isWordChar '\x7b' = false := by decide
  have hw := hword w List.mem_cons_self
  have hnot : isBlank w = false :=
    Bool.eq_false_iff.2 fun hb => by simp [not_isWordChar_of_isBlank hb] at hw
  have hname : (b :: gap ++ (w :: word ++ (space ++ '\x7b' :: tail))).dropWhile isBlank =
      w :: word ++ (space ++ '\x7b' :: tail) :=
    (takeWhile_append_stop hblank _ (by simpa using hnot)).2
  have hsplit := takeWhile_append_stop hword (space ++ '\x7b' :: tail) (by
    cases space with
    | nil => simpa using hbrace
    | cons c space => simpa using not_isWordChar_of_isBlank (hspace c List.mem_cons_self))
  refine ⟨_, tail, rfl, by simpa using hblank b List.mem_cons_self, ?_, ?_⟩
  · rw [trimStart, hname, hsplit.1]
  · rw [trimStart, trimStart, hname, hsplit.2]
    exact (takeWhile_append_stop hspace _ (by simp; decide)).2

/-- The name that is read at the start of a text is the one of the message declared there. -/
lemma messageAtStart?_eq_some :
    messageAtStart? cs = some message ↔ Declaring message.toList cs := by
  have hdrop : ∀ rest : List Char, ("message".toList ++ rest).drop 7 = rest := fun rest => rfl
  constructor
  · intro h
    unfold messageAtStart? at h
    split at h
    · next hstart =>
      obtain ⟨rest, rfl⟩ := List.isPrefixOf_iff_prefix.1 hstart
      rw [hdrop] at h
      dsimp only at h
      split at h
      · next hparts =>
        simp only [Bool.and_eq_true, beq_iff_eq] at hparts
        obtain ⟨⟨hhead, hname⟩, hbrace⟩ := hparts
        obtain ⟨tail, htail⟩ := List.head?_eq_some_iff.1 hbrace
        rw [← Option.some.inj h, String.toList_ofList]
        exact declaring_of_parts hhead (by simpa using hname) htail
      · cases h
    · cases h
  · intro h
    obtain ⟨rest, tail, rfl, hhead, hname, hbrace⟩ := h.parts
    have hne := h.ne_nil
    rw [messageAtStart?, if_pos (List.isPrefixOf_iff_prefix.2 (List.prefix_append _ _)), hdrop]
    dsimp only
    rw [hname, hbrace, if_pos (by simp [hhead, hne]), String.ofList_toList]

lemma findSome?_suffixes {α : Type} {f : List Char → Option α} {a : α} :
    (suffixes cs).findSome? f = some a ↔ ∃ before after, cs = before ++ after ∧ f after = some a ∧
      ∀ front back, cs = front ++ back → front.length < before.length → f back = none := by
  induction cs with
  | nil =>
    constructor
    · intro h
      refine ⟨[], [], rfl, by simpa [suffixes] using h, by simp⟩
    · rintro ⟨before, after, hcs, ha, -⟩
      obtain ⟨rfl, rfl⟩ := List.append_eq_nil_iff.1 hcs.symm
      simpa [suffixes] using ha
  | cons c cs ih =>
    rw [suffixes, List.findSome?_cons]
    cases hf : f (c :: cs) with
    | some b =>
      constructor
      · rintro ⟨⟩
        exact ⟨[], _, rfl, hf, by simp⟩
      · rintro ⟨before, after, hcs, ha, hfirst⟩
        cases before with
        | nil =>
          rw [List.nil_append] at hcs
          rw [← hf, hcs, ha]
        | cons d before =>
          have hnone := hfirst [] (c :: cs) rfl (by simp)
          rw [hf] at hnone
          cases hnone
    | none =>
      dsimp only
      rw [ih]
      constructor
      · rintro ⟨before, after, rfl, ha, hfirst⟩
        refine ⟨c :: before, after, rfl, ha, fun front back hcs hlt => ?_⟩
        cases front with
        | nil => exact (show c :: (before ++ after) = back from hcs) ▸ hf
        | cons d front =>
          obtain ⟨-, hcs⟩ := List.cons.inj hcs
          exact hfirst front back hcs (by simpa using hlt)
      · rintro ⟨before, after, hcs, ha, hfirst⟩
        cases before with
        | nil =>
          rw [List.nil_append] at hcs
          rw [← hcs, hf] at ha
          cases ha
        | cons d before =>
          obtain ⟨rfl, rfl⟩ := List.cons.inj hcs
          refine ⟨before, after, rfl, ha, fun front back hcs hlt => ?_⟩
          exact hfirst (c :: front) back (by rw [hcs]; rfl) (by simpa using hlt)

/-- The message that is read from a text is the first one that it declares. -/
lemma firstMessage?_eq_some : firstMessage? text = some message ↔ DeclaresFirst text message := by
  have hnone : ∀ cs, messageAtStart? cs = none ↔ ∀ other, ¬Declaring other cs := by
    intro cs
    rw [Option.eq_none_iff_forall_ne_some]
    constructor
    · intro h other hother
      rw [← String.toList_ofList (l := other)] at hother
      exact h _ (messageAtStart?_eq_some.2 hother)
    · exact fun h other hother => h _ (messageAtStart?_eq_some.1 hother)
  simp only [firstMessage?, findSome?_suffixes, DeclaresFirst, messageAtStart?_eq_some, hnone]

lemma mem_suffixes {after : List Char} : after ∈ suffixes cs ↔ ∃ before, cs = before ++ after := by
  induction cs with
  | nil =>
    rw [suffixes, List.mem_singleton]
    constructor
    · rintro rfl
      exact ⟨[], rfl⟩
    · rintro ⟨before, h⟩
      exact (List.append_eq_nil_iff.1 h.symm).2
  | cons c cs ih =>
    rw [suffixes, List.mem_cons, ih]
    constructor
    · rintro (rfl | ⟨before, rfl⟩)
      · exact ⟨[], rfl⟩
      · exact ⟨c :: before, rfl⟩
    · rintro ⟨before, h⟩
      cases before with
      | nil => exact .inl h.symm
      | cons d before => exact .inr ⟨before, (List.cons.inj h).2⟩

lemma declares_iff :
    Declares text message ↔ some message ∈ (suffixes text.toList).map messageAtStart? := by
  rw [List.mem_map]
  constructor
  · rintro ⟨before, after, htext, hafter⟩
    exact ⟨after, mem_suffixes.2 ⟨before, htext⟩, messageAtStart?_eq_some.2 hafter⟩
  · rintro ⟨after, hmem, hafter⟩
    obtain ⟨before, htext⟩ := mem_suffixes.1 hmem
    exact ⟨before, after, htext, messageAtStart?_eq_some.1 hafter⟩

instance (text message : String) : Decidable (Declares text message) :=
  decidable_of_iff _ declares_iff.symm

/-- No message is read from a text exactly if it declares none. -/
lemma firstMessage?_eq_none : firstMessage? text = none ↔ ∀ message, ¬Declares text message := by
  rw [firstMessage?, List.findSome?_eq_none_iff]
  constructor
  · intro h message hdeclares
    obtain ⟨after, hmem, hafter⟩ := List.mem_map.1 (declares_iff.1 hdeclares)
    rw [h after hmem] at hafter
    cases hafter
  · intro h after hmem
    cases hafter : messageAtStart? after with
    | none => rfl
    | some message =>
      exact absurd (declares_iff.2 (List.mem_map.2 ⟨after, hmem, hafter⟩)) (h message)

/-- A reference does not end in an empty name of a type. -/
lemma typeName_ne_empty {reference typeName : String}
    (h : (Reference.ofText reference).typeName? = some typeName) : typeName ≠ "" := by
  have hcut : ∀ {behind : String}, (Reference.cutTypeName behind).2 = some typeName →
      typeName ≠ "" := by
    intro behind hname he
    have hvalid := (Reference.cutTypeName_some (Prod.ext rfl hname)).2.1
    rw [he] at hvalid
    cases hvalid
  unfold Reference.ofText at h
  dsimp only at h
  split at h
  · cases h
  · split at h
    · exact hcut h
    · exact hcut h

/-- What stands in front of a dot does not change the last component of a name. -/
lemma stripNamespace_append (front name : String) :
    Naming.stripNamespace (front ++ "." ++ name) = Naming.stripNamespace name := by
  have hlist : (front ++ "." ++ name).toList = front.toList ++ '.' :: name.toList := by simp
  unfold Naming.stripNamespace cutAtLast?
  rw [hlist]
  cases h : cutLast? '.' name.toList with
  | none =>
    rw [cutLast?_append _ (cutLast?_eq_none.1 h)]
    exact String.ofList_toList
  | some parts =>
    obtain ⟨before, after⟩ := parts
    obtain ⟨hname, hafter⟩ := cutLast?_eq_some h
    have hsplit : front.toList ++ '.' :: name.toList =
        (front.toList ++ '.' :: before) ++ '.' :: after := by
      rw [hname, List.append_assoc, List.cons_append]
    rw [hsplit, cutLast?_append _ hafter]
    rfl

lemma stripNamespace_of_not_mem {name : String} (h : '.' ∉ name.toList) :
    Naming.stripNamespace name = name := by
  rw [Naming.stripNamespace, cutAtLast?, cutLast?_eq_none.2 h]
  rfl

/-- The name of the class of the first message: the class name if its last component is the message
up to case, else the message in the namespace of the class name. -/
def classOfFirst (className first : String) : String :=
  if sameIgnoringCase first (Naming.stripNamespace className) then className
  else Naming.namespaceDot className "" ++ first

lemma protoMessage_of_first {className first : String} (hne : className ≠ "")
    (h : DeclaresFirst text first) :
    protoMessage className (.string text) = .ok (classOfFirst className first) := by
  rw [protoMessage, Value.text?]
  dsimp only
  rw [firstMessage?_eq_some.2 h]
  dsimp only
  rw [if_neg (mt String.isEmpty_iff.1 hne), classOfFirst]
  split <;> rfl

lemma protoMessage_of_none {className : String} (h : ∀ message, ¬Declares text message) :
    protoMessage className (.string text) = .error (.protoMessageMissing className) := by
  rw [protoMessage, Value.text?]
  dsimp only
  rw [firstMessage?_eq_none.2 h]

/-- The last component of the class of the first message is the message, up to case, or the one of
the class name if that is the same. -/
lemma stripNamespace_classOfFirst {first : String} (project className : String)
    (h : DeclaresFirst text first) :
    Naming.stripNamespace (project ++ "." ++ classOfFirst className first) =
      if sameIgnoringCase first (Naming.stripNamespace className) then
        Naming.stripNamespace className
      else first := by
  obtain ⟨_, _, -, hdeclaring, -⟩ := h
  rw [stripNamespace_append, classOfFirst]
  split
  · rfl
  · unfold Naming.namespaceDot
    dsimp only
    split
    · rw [String.empty_append, stripNamespace_of_not_mem hdeclaring.not_mem_dot]
    · rw [stripNamespace_append, stripNamespace_of_not_mem hdeclaring.not_mem_dot]

/-- A class name is the one of a message that the text declares and that has the name asked for; and
there is a fault of the reference where the text declares none of that name. -/
inductive MeansDeclared (text className : String) : Except Fault String → Prop
  | declared {full message : String} (hdeclares : Declares text message)
      (hasked : sameIgnoringCase message (Naming.stripNamespace className) = true)
      (hnamed : sameIgnoringCase (Naming.stripNamespace full) message = true) :
      MeansDeclared text className (.ok full)
  | undeclared {reference : String} {defect : SchemaDefect}
      (hnone : ∀ message, Declares text message →
        sameIgnoringCase message (Naming.stripNamespace className) = false) :
      MeansDeclared text className (.error (.schemaReference reference defect))

lemma sameIgnoringCase_comm (s t : String) : sameIgnoringCase s t = sameIgnoringCase t s := by
  rw [sameIgnoringCase, sameIgnoringCase, Bool.beq_comm]

/-- The class of the first message is what was asked for exactly if that message has the name. -/
lemma meansDeclared_first {className first : String} (project : String)
    (h : DeclaresFirst text first) :
    MeansDeclared text className (.ok (project ++ "." ++ classOfFirst className first)) ↔
      sameIgnoringCase first (Naming.stripNamespace className) = true := by
  have hlast := stripNamespace_classOfFirst project className h
  constructor
  · intro hmeans
    by_cases hfirst : sameIgnoringCase first (Naming.stripNamespace className) = true
    · exact hfirst
    · rw [if_neg hfirst] at hlast
      obtain ⟨-, hasked, hnamed⟩ := hmeans
      rw [hlast] at hnamed
      unfold sameIgnoringCase at hasked hnamed ⊢
      rw [beq_iff_eq] at hasked hnamed ⊢
      exact hnamed.trans hasked
  · intro hfirst
    rw [if_pos hfirst] at hlast
    exact .declared h.declares hfirst (by rwa [hlast, sameIgnoringCase_comm])

lemma not_avro_of_proto {family : String} (h : startsWith family "proto" = true) :
    ¬startsWith family "avro" = true := by
  intro havro
  obtain ⟨rest, hrest⟩ := List.isPrefixOf_iff_prefix.1 h
  obtain ⟨other, hother⟩ := List.isPrefixOf_iff_prefix.1 havro
  have hhead := congrArg List.head? (hrest.trans hother.symm)
  exact absurd hhead (by simp)

variable {l l' : Loader} {reference format proto typeName : String} {root schema payload : Value}

/-- A payload of a format for Protocol Buffers gives the class of a message. -/
lemma Reaches.schemaClass_proto
    (h : Reaches l root (.ofText reference) format schema payload l')
    (hfamily : startsWith (family format) "proto" = true) (project : String) :
    (l.schemaClass reference project root format).1 =
      ((protoMessage (className root (.ofText reference) schema) payload).map
        (project ++ "." ++ ·)).mapError (.schemaReference reference) := by
  rw [h.schemaClass_of_family project, ofPayload, if_neg (not_avro_of_proto hfamily),
    if_pos hfamily]

/-- A reference that names a type gives the class of the first message that the text declares, under
the name that it gives if that is the message's, and there is a class whenever a message is declared.
So it means a declared message of that name exactly if the first message has it. -/
theorem schemaClass_of_first_message
    (hreaches : Reaches l root (.ofText reference) format schema (.string proto) l')
    (hfamily : startsWith (family format) "proto" = true)
    (hname : (Reference.ofText reference).typeName? = some typeName) (project : String) :
    let result := (l.schemaClass reference project root format).1
    (∀ first, DeclaresFirst proto first →
      result = .ok (project ++ "." ++ classOfFirst typeName first)) ∧
    ((∀ message, ¬Declares proto message) →
      result = .error (.schemaReference reference (.protoMessageMissing typeName))) ∧
    (MeansDeclared proto typeName result ↔ ∀ first, DeclaresFirst proto first →
      sameIgnoringCase first (Naming.stripNamespace typeName) = true) := by
  intro result
  have hclass : className root (.ofText reference) schema = typeName := by
    rw [className, hname]
  have hresult := hreaches.schemaClass_proto hfamily project
  rw [hclass] at hresult
  have hfirst : ∀ first, DeclaresFirst proto first →
      result = .ok (project ++ "." ++ classOfFirst typeName first) := by
    intro first h
    rw [protoMessage_of_first (typeName_ne_empty hname) h] at hresult
    exact hresult
  have hnone : (∀ message, ¬Declares proto message) →
      result = .error (.schemaReference reference (.protoMessageMissing typeName)) := by
    intro h
    rw [protoMessage_of_none h] at hresult
    exact hresult
  refine ⟨hfirst, hnone, ?_⟩
  cases hread : firstMessage? proto with
  | some first =>
    have h := firstMessage?_eq_some.1 hread
    rw [hfirst first h, meansDeclared_first project h]
    constructor
    · intro hasked other hother
      rw [← firstMessage?_eq_some, hread] at hother
      exact Option.some.inj hother ▸ hasked
    · exact fun hall => hall first h
  | none =>
    have h := firstMessage?_eq_none.1 hread
    rw [hnone h]
    constructor
    · exact fun _ first hother => absurd hother.declares (h first)
    · exact fun _ => .undeclared fun message hmessage => absurd hmessage (h message)

/-- A name asked for in a namespace of its own and in other letters than the first message has. -/
theorem schemaClass_of_first_message_renamed :
    let proto := "message A \x7b\x7d\nmessage B \x7b\x7d\n"
    let version : Value := .mapping [("format", .string "Protobuf/3"), ("schema", .string proto)]
    let root : Value := .mapping [("schemagroups", .mapping [("g", .mapping [("schemas",
      .mapping [("s", .mapping [("versions", .mapping [("1", version)])])])])])]
    let reference := "#/schemagroups/g/schemas/s/versions/1:n.a"
    let l := Loader.start ⟨[], .null⟩ (.ofDocuments []) .strict
    let result := (l.schemaClass reference "App" root "protobuf/3").1
    DeclaresFirst proto "A" ∧ result = .ok "App.n.a" ∧ MeansDeclared proto "n.a" result := by
  intro proto version root reference l result
  have hlookup : root.lookup ("#" ++ "/schemagroups/g/schemas/s/versions/1") = some version := by
    decide +kernel
  have hreference : Reference.ofText reference =
      .fragment "/schemagroups/g/schemas/s/versions/1" (some "n.a") := by decide +kernel
  have hleads : LeadsTo l root (.ofText reference) version
      (l.addSchemaReference "#/schemagroups/g/schemas/s/versions/1") :=
    hreference ▸ .fragment hlookup rfl
  have hreaches : Reaches l root (.ofText reference) "protobuf/3" version (.string proto) _ :=
    .of_plain hleads rfl (by decide) (by decide +kernel) (.inline (by decide) (by decide))
  have hread : firstMessage? proto = some "A" := by decide +kernel
  obtain ⟨hfirst, -, hmeans⟩ := schemaClass_of_first_message hreaches (by decide +kernel)
    (congrArg Reference.typeName? hreference) "App"
  have hdeclared : DeclaresFirst proto "A" := firstMessage?_eq_some.1 hread
  have hclass : "App" ++ "." ++ classOfFirst "n.a" "A" = "App.n.a" := by decide +kernel
  have hresult : result = .ok "App.n.a" := hclass ▸ hfirst "A" hdeclared
  have hnamed : ∀ first, DeclaresFirst proto first →
      sameIgnoringCase first (Naming.stripNamespace "n.a") = true := by
    intro first h
    rw [← firstMessage?_eq_some, hread] at h
    exact Option.some.inj h ▸ by decide +kernel
  exact ⟨hdeclared, hresult, hmeans.2 hnamed⟩

/-- Asked for its second message, or for one that it does not declare, a text gives the class of its
first message. -/
theorem schemaClass_not_of_message :
    let proto := "message A \x7b\x7d\nmessage B \x7b\x7d\n"
    let version : Value := .mapping [("format", .string "Protobuf/3"), ("schema", .string proto)]
    let root : Value := .mapping [("schemagroups", .mapping [("g", .mapping [("schemas",
      .mapping [("s", .mapping [("versions", .mapping [("1", version)])])])])])]
    let result (typeName : String) :=
      ((Loader.start ⟨[], .null⟩ (.ofDocuments []) .strict).schemaClass
        ("#/schemagroups/g/schemas/s:" ++ typeName) "App" root "Protobuf/3").1
    Declares proto "B" ∧ result "B" = .ok "App.A" ∧ ¬MeansDeclared proto "B" (result "B") ∧
      ¬Declares proto "C" ∧ result "C" = .ok "App.A" ∧ ¬MeansDeclared proto "C" (result "C") := by
  intro proto version root result
  have hother : ∀ asked, sameIgnoringCase "A" asked = false → result asked = .ok "App.A" →
      Naming.stripNamespace asked = asked → ¬MeansDeclared proto asked (result asked) := by
    intro asked hasked hresult hplain
    rw [hresult]
    rintro ⟨-, hmessage, hnamed⟩
    rw [hplain] at hmessage
    have hA : Naming.stripNamespace "App.A" = "A" := by decide +kernel
    rw [hA] at hnamed
    unfold sameIgnoringCase at hasked hmessage hnamed
    rw [beq_iff_eq] at hmessage hnamed
    rw [hnamed.trans hmessage, beq_self_eq_true] at hasked
    cases hasked
  have hB : result "B" = .ok "App.A" := by decide +kernel
  have hC : result "C" = .ok "App.A" := by decide +kernel
  exact ⟨by decide +kernel, hB, hother "B" (by decide) hB (by decide), by decide +kernel, hC,
    hother "C" (by decide) hC (by decide)⟩

end Registry.SchemaClass
