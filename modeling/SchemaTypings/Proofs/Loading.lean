import SchemaTypings.Console.Run
import SchemaTypings.Proofs.Outcome

/-!
# What loading a schema comes to

A text that leaves the grammar, or that gives a directive an argument of a wrong kind, is reported in
the words of the loader. A text that breaks a rule of schemas is not: its flaws are passed on as they
are, and the command stops at them.
-/

open SchemaTypings.Outcome

namespace SchemaTypings

/-! ## Building without flaws -/

namespace Schema

/-- The one fault that a document without flaws can have. -/
def IsBadArgument (e : SchemaError) : Prop :=
  ∃ directive argument, e = .badArgument directive argument

theorem failsWith_textArgument (uses : List Sdl.DirectiveUse) (directive argument : String)
    {absent : Except SchemaError String} (habsent : FailsWith IsBadArgument absent) :
    FailsWith IsBadArgument (textArgument uses directive argument absent) := by
  unfold textArgument
  split
  · exact failsWith_ok _
  · split
    · exact habsent.map _
    · exact failsWith_ok _
    · exact failsWith_error ⟨directive, argument, rfl⟩

theorem failsWith_deprecationOf (uses : List Sdl.DirectiveUse) :
    FailsWith IsBadArgument (deprecationOf uses) :=
  (failsWith_textArgument uses _ _ (failsWith_ok _)).map _

theorem failsWith_checkSpecifiedBy (uses : List Sdl.DirectiveUse) :
    FailsWith IsBadArgument (checkSpecifiedBy uses) := by
  have habsent : FailsWith IsBadArgument
      (.error (.badArgument "specifiedBy" "url") : Except SchemaError String) :=
    failsWith_error ⟨_, _, rfl⟩
  exact (failsWith_textArgument uses _ _ habsent).bind fun _ => failsWith_ok _

theorem failsWith_inputOf (d : Sdl.InputDef) : FailsWith IsBadArgument (inputOf d) :=
  (failsWith_deprecationOf d.directives).bind fun _ => failsWith_ok _

theorem failsWith_fieldOf (d : Sdl.FieldDef) : FailsWith IsBadArgument (fieldOf d) := by
  refine (failsWith_mapM failsWith_inputOf d.arguments).bind fun _ => ?_
  exact (failsWith_deprecationOf d.directives).bind fun _ => failsWith_ok _

theorem failsWith_bodyOf (d : Sdl.TypeDef) (parts : List Sdl.TypeDef) :
    FailsWith IsBadArgument (bodyOf d parts) := by
  unfold bodyOf
  split
  · refine (failsWith_forM (fun p => ?_) parts).bind fun _ => failsWith_ok _
    exact failsWith_checkSpecifiedBy p.directives
  · exact (failsWith_mapM failsWith_fieldOf _).bind fun _ => failsWith_ok _
  · exact (failsWith_mapM failsWith_fieldOf _).bind fun _ => failsWith_ok _
  · exact failsWith_ok _
  · exact failsWith_ok _
  · exact (failsWith_mapM failsWith_inputOf _).bind fun _ => failsWith_ok _

theorem failsWith_typesOf (doc : Sdl.Document) : FailsWith IsBadArgument (typesOf doc) := by
  refine failsWith_mapM (fun d => ?_) _
  split
  · exact failsWith_ok _
  · exact (failsWith_bodyOf d _).bind fun _ => failsWith_ok _

theorem failsWith_checkDirective (extensions : List Sdl.DirectiveExtension)
    (d : Sdl.DirectiveDef) : FailsWith IsBadArgument (checkDirective extensions d) := by
  refine (failsWith_mapM failsWith_inputOf d.arguments).bind fun _ => ?_
  exact (failsWith_deprecationOf _).bind fun _ => failsWith_ok _

theorem failsWith_ofFlawless (doc : Sdl.Document) : FailsWith IsBadArgument (ofFlawless doc) := by
  refine (failsWith_typesOf doc).bind fun _ => ?_
  exact (failsWith_forM (failsWith_checkDirective _) _).bind fun _ => failsWith_ok _

/-! ## Texts that give no schema -/

/-- The text is read, and breaks these rules of schemas. -/
def Flawed (text : String) (flaws : List Sdl.Flaw) : Prop :=
  ∃ doc, Sdl.Document.read text = .ok doc ∧ doc.flaws = flaws ∧ flaws ≠ []

/-- The text leaves the grammar, or gives an argument of a wrong kind while it breaks no rule. -/
inductive Unfit (text : String) : SchemaError → Prop where
  | malformed {fault : Sdl.SyntaxFault} (hread : Sdl.Document.read text = .error fault) :
    Unfit text (.malformed fault)
  | badArgument {doc : Sdl.Document} {directive argument : String}
    (hread : Sdl.Document.read text = .ok doc) (hflaws : doc.flaws = [])
    (hbuild : ofFlawless doc = .error (.badArgument directive argument)) :
    Unfit text (.badArgument directive argument)

theorem ofText_of_read {text : String} {doc : Sdl.Document}
    (h : Sdl.Document.read text = .ok doc) : ofText text = ofDocument doc := by
  rw [ofText, h]

theorem ofDocument_of_flawless {doc : Sdl.Document} (h : doc.flaws = []) :
    ofDocument doc = ofFlawless doc := by
  rw [ofDocument, h]

theorem Flawed.ofText_eq {text : String} {flaws : List Sdl.Flaw} (h : Flawed text flaws) :
    ofText text = .error (.flawed flaws) := by
  obtain ⟨doc, hread, rfl, hflaws⟩ := h
  rw [ofText_of_read hread]
  unfold ofDocument
  split
  · next hnone => exact absurd hnone hflaws
  · rfl

theorem Unfit.ofText_eq {text : String} {e : SchemaError} (h : Unfit text e) :
    ofText text = .error e := by
  cases h with
  | malformed hread => rw [ofText, hread]
  | badArgument hread hflaws hbuild =>
    rw [ofText_of_read hread, ofDocument_of_flawless hflaws, hbuild]

theorem ofText_total (text : String) : (∃ schema, ofText text = .ok schema) ∨
    (∃ e, Unfit text e) ∨ ∃ flaws, Flawed text flaws := by
  cases hread : Sdl.Document.read text with
  | error fault => exact Or.inr (Or.inl ⟨_, .malformed hread⟩)
  | ok doc =>
    cases hflaws : doc.flaws with
    | cons flaw flaws =>
      exact Or.inr (Or.inr ⟨_, doc, hread, hflaws, List.cons_ne_nil flaw flaws⟩)
    | nil =>
      cases hbuild : ofFlawless doc with
      | ok schema =>
        have htext : ofText text = .ok schema := by
          rw [ofText_of_read hread, ofDocument_of_flawless hflaws, hbuild]
        exact Or.inl ⟨schema, htext⟩
      | error e =>
        obtain ⟨directive, argument, rfl⟩ := failsWith_ofFlawless doc e hbuild
        exact Or.inr (Or.inl ⟨_, .badArgument hread hflaws hbuild⟩)

/-! ## Files -/

theorem ofFiles_eq_ofTexts {folder : Folder} {files texts : List String} (hfiles : files ≠ [])
    (hread : List.Forall₂
      (fun file text => folder.find (Path.ofString file) = .ok (.file text)) files texts)
    (hjson : ∀ file, files = [file] → (Path.ofString file).suffix ≠ ".json") :
    ofFiles folder files =
      (ofTexts (sourceOf (files.map Path.ofString)) texts).map fun schema =>
        (sourceOf (files.map Path.ofString), schema) := by
  have hreadFile : ∀ file text, folder.find (Path.ofString file) = .ok (.file text) →
      readFile folder (Path.ofString file) = .ok text := by
    intro file text h
    rw [readFile, h]
    rfl
  cases hread with
  | nil => exact absurd rfl hfiles
  | @cons file text files texts hfile hrest =>
    cases hrest with
    | nil =>
      have hsuffix := hjson file rfl
      simp only [ofFiles, List.map_cons, List.map_nil, if_neg hsuffix, hreadFile file text hfile]
      rw [ok_bind]
      cases ofTexts (sourceOf [Path.ofString file]) [text] <;> rfl
    | @cons file' text' files texts hfile' hrest =>
      have hmapM : ((file :: file' :: files).map Path.ofString).mapM (readFile folder) =
          .ok (text :: text' :: texts) := by
        rw [mapM_eq_ok, List.forall₂_map_left_iff]
        exact List.Forall₂.imp hreadFile (.cons hfile (.cons hfile' hrest))
      simp only [ofFiles, List.map_cons] at hmapM ⊢
      rw [hmapM, ok_bind]
      cases ofTexts _ (text :: text' :: texts) <;> rfl

end Schema

namespace Console

/-- The line in which the command shows what the loader reports. -/
def reportLine (source : String) (e : SchemaError) : String :=
  "❌ [red]" ++ (LoadError.invalid source e.message).message ++ "[/red]"

theorem say_map_eq_error {α : Type} {f : String → α} {text : String} {crash : Crash} :
    (say text).map f = .error crash ↔ ∃ fault, line text = .error fault ∧ crash = .markup fault := by
  unfold say
  cases line text <;> simp [Except.map, Except.mapError, eq_comm]

/-- What the loader gives for a text, and what the command makes of it. -/
structure Loaded (source text : String) (given : Except LoadError (String × Schema))
    (answer : Answer (Except String Schema)) : Prop where
  total : (∃ schema, Schema.ofText text = .ok schema) ∨ (∃ e, Schema.Unfit text e) ∨
    ∃ flaws, Schema.Flawed text flaws
  schema : ∀ schema, Schema.ofText text = .ok schema →
    given = .ok (source, schema) ∧ answer = .ok (.ok schema)
  unfit : ∀ e, Schema.Unfit text e → given = .error (.invalid source e.message) ∧
    answer = (say (reportLine source e)).map .error
  flawed : ∀ flaws, Schema.Flawed text flaws →
    given = .error (.flawed flaws) ∧ answer = .error (.flawed flaws)
  /-- The command stops at flaws, and at a report that has a tag of its own in it. -/
  stops : ∀ crash, answer = .error crash ↔
    (∃ flaws, Schema.Flawed text flaws ∧ crash = .flawed flaws) ∨
      ∃ e fault, Schema.Unfit text e ∧ line (reportLine source e) = .error fault ∧
        crash = .markup fault

theorem loaded_of_eq {folder : Folder} {files texts : List String} {source : String}
    (hgiven : Schema.ofFiles folder files =
      (Schema.ofTexts source texts).map fun schema => (source, schema)) :
    Loaded source ("\n".intercalate texts) (Schema.ofFiles folder files) (load folder files) := by
  have hschema : ∀ schema, Schema.ofText ("\n".intercalate texts) = .ok schema →
      Schema.ofFiles folder files = .ok (source, schema) ∧
        load folder files = .ok (.ok schema) := by
    intro schema h
    rw [Schema.ofTexts, h] at hgiven
    exact ⟨hgiven, by rw [load, hgiven]; rfl⟩
  have hunfit : ∀ e, Schema.Unfit ("\n".intercalate texts) e →
      Schema.ofFiles folder files = .error (.invalid source e.message) ∧
        load folder files = (say (reportLine source e)).map .error := by
    intro e h
    rw [Schema.ofTexts, h.ofText_eq] at hgiven
    cases h <;> exact ⟨hgiven, by rw [load, hgiven]; rfl⟩
  have hflawed : ∀ flaws, Schema.Flawed ("\n".intercalate texts) flaws →
      Schema.ofFiles folder files = .error (.flawed flaws) ∧
        load folder files = .error (.flawed flaws) := by
    intro flaws h
    rw [Schema.ofTexts, h.ofText_eq] at hgiven
    exact ⟨hgiven, by rw [load, hgiven]; rfl⟩
  have htotal := Schema.ofText_total ("\n".intercalate texts)
  refine ⟨htotal, hschema, hunfit, hflawed, fun crash => ⟨fun h => ?_, ?_⟩⟩
  · rcases htotal with ⟨schema, hs⟩ | ⟨e, he⟩ | ⟨flaws, hf⟩
    · rw [(hschema schema hs).2] at h
      cases h
    · rw [(hunfit e he).2] at h
      obtain ⟨fault, hline, rfl⟩ := say_map_eq_error.mp h
      exact Or.inr ⟨e, fault, he, hline, rfl⟩
    · rw [(hflawed flaws hf).2] at h
      cases h
      exact Or.inl ⟨flaws, hf, rfl⟩
  · rintro (⟨flaws, hf, rfl⟩ | ⟨e, fault, he, hline, rfl⟩)
    · exact (hflawed flaws hf).2
    · rw [(hunfit e he).2]
      exact say_map_eq_error.mpr ⟨fault, hline, rfl⟩

/-- **What escapes loading.** Of files that are there, and are no single description in JSON, a schema
comes if their texts make one. Where they leave the grammar or give an argument of a wrong kind, the
loader reports this, and the command shows the report. Where they break a rule of schemas, neither
does: the flaws go past the loader and past the command. -/
theorem load_settles {folder : Folder} {files texts : List String} (hfiles : files ≠ [])
    (hread : List.Forall₂
      (fun file text => folder.find (Path.ofString file) = .ok (.file text)) files texts)
    (hjson : ∀ file, files = [file] → (Path.ofString file).suffix ≠ ".json") :
    Loaded (Schema.sourceOf (files.map Path.ofString)) ("\n".intercalate texts)
      (Schema.ofFiles folder files) (load folder files) :=
  loaded_of_eq (Schema.ofFiles_eq_ofTexts hfiles hread hjson)

def faultyFolder : Folder :=
  Folder.ofFiles [("user.graphql", "type User \x7b role: Role \x7d"), ("[/b].graphql", "type")]

theorem load_settles_faulty : ∃ flaws fault, flaws ≠ [] ∧
    Schema.ofFiles faultyFolder ["user.graphql"] = .error (.flawed flaws) ∧
    load faultyFolder ["user.graphql"] = .error (.flawed flaws) ∧
    load faultyFolder ["[/b].graphql"] = .error (.markup fault) := by
  have hflaws : (Sdl.Document.read "type User \x7b role: Role \x7d").toOption.any
      (fun doc => decide (doc.flaws ≠ [])) = true := by decide +kernel
  obtain ⟨doc, hread, hflaws⟩ := (Option.any_eq_true ..).mp hflaws
  have hflaws : doc.flaws ≠ [] := of_decide_eq_true hflaws
  have hflawed : Schema.Flawed "type User \x7b role: Role \x7d" doc.flaws :=
    ⟨doc, toOption_eq_some.mp hread, rfl, hflaws⟩
  have hunfit : Schema.Unfit "type" (.malformed .ended) := .malformed rfl
  have htag : (line (reportLine "[/b].graphql" (.malformed .ended))).toOption = none := by
    decide +kernel
  obtain ⟨fault, hfault⟩ : ∃ fault, line (reportLine "[/b].graphql" (.malformed .ended)) =
      .error fault := by
    cases hline : line (reportLine "[/b].graphql" (.malformed .ended)) with
    | ok shown =>
      rw [hline] at htag
      cases htag
    | error fault => exact ⟨fault, rfl⟩
  have huser := @load_settles faultyFolder ["user.graphql"] _ (List.cons_ne_nil _ _)
    (.cons rfl .nil) (by rintro _ ⟨⟩; decide)
  have htagged := @load_settles faultyFolder ["[/b].graphql"] _ (List.cons_ne_nil _ _)
    (.cons rfl .nil) (by rintro _ ⟨⟩; decide)
  obtain ⟨hgiven, hescapes⟩ := huser.flawed _ hflawed
  have hstops := (htagged.stops _).mpr (Or.inr ⟨_, fault, hunfit, hfault, rfl⟩)
  exact ⟨doc.flaws, fault, hflaws, hgiven, hescapes, hstops⟩

end Console

end SchemaTypings
