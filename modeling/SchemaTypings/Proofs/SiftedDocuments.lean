import SchemaTypings.Proofs.Sifting
import SchemaTypings.Proofs.TypeMap

/-!
# Documents in which some directives play no part

A document may be sifted like a schema. If the notices of deprecations stay, the sifted document
gives the sifted schema.
-/

open SchemaTypings.Outcome

namespace SchemaTypings

/-! ## Sifted documents -/

namespace Sdl

def siftUses (keep : String → Bool) (uses : List DirectiveUse) : List DirectiveUse :=
  uses.filter fun u => keep u.name

def InputDef.sift (keep : String → Bool) (d : InputDef) : InputDef :=
  { d with directives := siftUses keep d.directives }

def FieldDef.sift (keep : String → Bool) (d : FieldDef) : FieldDef :=
  { d with directives := siftUses keep d.directives, arguments := d.arguments.map (.sift keep) }

def EnumValueDef.sift (keep : String → Bool) (d : EnumValueDef) : EnumValueDef :=
  { d with directives := siftUses keep d.directives }

def TypeBody.sift (keep : String → Bool) : TypeBody → TypeBody
  | scalar => scalar
  | object interfaces fields => object interfaces (fields.map (.sift keep))
  | interface interfaces fields => interface interfaces (fields.map (.sift keep))
  | union members => union members
  | enum values => enum (values.map (.sift keep))
  | input fields => input (fields.map (.sift keep))

def TypeDef.sift (keep : String → Bool) (d : TypeDef) : TypeDef :=
  { d with directives := siftUses (keepOnType keep) d.directives, body := d.body.sift keep }

def DirectiveDef.sift (keep : String → Bool) (d : DirectiveDef) : DirectiveDef :=
  { d with directives := siftUses keep d.directives, arguments := d.arguments.map (.sift keep) }

def DirectiveExtension.sift (keep : String → Bool) (d : DirectiveExtension) : DirectiveExtension :=
  { d with directives := siftUses keep d.directives }

def SchemaDef.sift (keep : String → Bool) (d : SchemaDef) : SchemaDef :=
  { d with directives := siftUses keep d.directives }

/-- Operations and fragments are emptied: they play no part at all. -/
def Definition.sift (keep : String → Bool) : Definition → Definition
  | type d => type (d.sift keep)
  | extendType d => extendType (d.sift keep)
  | directive d => directive (d.sift keep)
  | extendDirective d => extendDirective (d.sift keep)
  | schema d => schema (d.sift keep)
  | extendSchema d => extendSchema (d.sift keep)
  | operation kind _ _ _ => operation kind [] [] []
  | fragment onType _ _ => fragment onType [] []

def Document.sift (keep : String → Bool) (doc : Document) : Document := doc.map (.sift keep)

theorem Document.filterMap_sift {α : Type} {keep : String → Bool} {part? : Definition → Option α}
    {f : α → α} (h : ∀ d : Definition, part? (d.sift keep) = (part? d).map f) (doc : Document) :
    (doc.sift keep).filterMap part? = (doc.filterMap part?).map f := by
  unfold sift
  rw [List.filterMap_map, List.map_filterMap]
  exact List.filterMap_congr fun d _ => h d

theorem TypeBody.fields_sift (keep : String → Bool) (b : TypeBody) :
    (b.sift keep).fields = b.fields.map (.sift keep) := by
  cases b <;> rfl

theorem TypeBody.inputs_sift (keep : String → Bool) (b : TypeBody) :
    (b.sift keep).inputs = b.inputs.map (.sift keep) := by
  cases b <;> rfl

theorem TypeBody.values_sift (keep : String → Bool) (b : TypeBody) :
    (b.sift keep).values = b.values.map (.sift keep) := by
  cases b <;> rfl

end Sdl

open Sdl

namespace Schema

variable {keep : String → Bool}

/-! ## Notices -/

theorem names_siftUses (keep : String → Bool) (uses : List DirectiveUse) :
    names (siftUses keep uses) = (names uses).filter keep := by
  unfold names siftUses
  rw [List.filter_map]
  rfl

theorem textArgument_siftUses {directive : String} (h : keep directive = true)
    (uses : List DirectiveUse) (argument : String) (absent : Except SchemaError String) :
    textArgument (siftUses keep uses) directive argument absent =
      textArgument uses directive argument absent := by
  have hfirst : (siftUses keep uses).find? (fun u => u.name = directive) =
      uses.find? fun u => u.name = directive := by
    unfold siftUses
    rw [List.find?_filter]
    congr 1
    funext u
    by_cases hu : u.name = directive <;> simp [hu, h]
  unfold textArgument
  rw [hfirst]

theorem deprecationOf_siftUses (h : keep "deprecated" = true) (uses : List DirectiveUse) :
    deprecationOf (siftUses keep uses) = deprecationOf uses := by
  unfold deprecationOf
  rw [textArgument_siftUses h]

theorem checkSpecifiedBy_siftUses {uses : List DirectiveUse} (h : checkSpecifiedBy uses = .ok ()) :
    checkSpecifiedBy (siftUses keep uses) = .ok () := by
  cases hkeep : keep "specifiedBy" with
  | true =>
    unfold checkSpecifiedBy
    simp only [textArgument_siftUses hkeep]
    exact h
  | false =>
    -- No announcement is left to be checked.
    have hnone : (siftUses keep uses).find? (fun u => u.name = "specifiedBy") = none := by
      rw [List.find?_eq_none]
      intro u hu hname
      have hkept : keep u.name = true := (List.mem_filter.mp hu).2
      rw [of_decide_eq_true hname, hkeep] at hkept
      cases hkept
    unfold checkSpecifiedBy textArgument
    rw [hnone]
    rfl

theorem isOneOf_siftUses (keep : String → Bool) (uses : List DirectiveUse) :
    (siftUses (keepOnType keep) uses).any (fun u => u.name = "oneOf") =
      uses.any fun u => u.name = "oneOf" := by
  unfold siftUses
  rw [List.any_filter]
  congr 1
  funext u
  by_cases hu : u.name = "oneOf" <;> simp [keepOnType, hu]

/-! ## Parts of types -/

theorem inputOf_sift (hkeep : keep "deprecated" = true) {d : InputDef} {i : InputValue}
    (h : inputOf d = .ok i) : inputOf (d.sift keep) = .ok (i.sift keep) := by
  obtain ⟨notice, hnotice, h⟩ := bind_eq_ok.mp h
  rw [pure_eq_ok] at h
  refine bind_eq_ok.mpr ⟨notice, (deprecationOf_siftUses hkeep _).trans hnotice, ?_⟩
  rw [pure_eq_ok, ← h, InputValue.sift, ← names_siftUses]
  rfl

theorem fieldOf_sift (hkeep : keep "deprecated" = true) {d : FieldDef} {f : Field}
    (h : fieldOf d = .ok f) : fieldOf (d.sift keep) = .ok (f.sift keep) := by
  obtain ⟨arguments, harguments, h⟩ := bind_eq_ok.mp h
  obtain ⟨notice, hnotice, h⟩ := bind_eq_ok.mp h
  rw [pure_eq_ok] at h
  refine bind_eq_ok.mpr ⟨_, mapM_image (fun _ _ => inputOf_sift hkeep) harguments,
    bind_eq_ok.mpr ⟨notice, (deprecationOf_siftUses hkeep _).trans hnotice, ?_⟩⟩
  rw [pure_eq_ok, ← h, Field.sift, ← names_siftUses]
  rfl

theorem enumValueOf_sift (hkeep : keep "deprecated" = true) (d : EnumValueDef) :
    enumValueOf (d.sift keep) = enumValueOf d := by
  have hnotice : deprecationOf (d.sift keep).directives = deprecationOf d.directives :=
    deprecationOf_siftUses hkeep d.directives
  unfold enumValueOf
  rw [hnotice]
  rfl

theorem partInterfaces_sift (keep : String → Bool) (parts : List TypeDef) :
    partInterfaces (parts.map (.sift keep)) = partInterfaces parts := by
  unfold partInterfaces
  rw [List.flatMap_map]
  refine List.flatMap_congr fun p _ => ?_
  unfold TypeDef.sift
  cases p.body <;> rfl

theorem partMembers_sift (keep : String → Bool) (parts : List TypeDef) :
    partMembers (parts.map (.sift keep)) = partMembers parts := by
  unfold partMembers
  rw [List.flatMap_map]
  refine List.flatMap_congr fun p _ => ?_
  unfold TypeDef.sift
  cases p.body <;> rfl

theorem flatMap_sift {α : Type} {part : TypeDef → List α} {f : α → α}
    (h : ∀ p : TypeDef, part (p.sift keep) = (part p).map f) (parts : List TypeDef) :
    (parts.map (TypeDef.sift keep)).flatMap part = (parts.flatMap part).map f := by
  rw [List.flatMap_map, List.map_flatMap]
  exact List.flatMap_congr fun p _ => h p

theorem partFields_sift (hkeep : keep "deprecated" = true) {parts : List TypeDef}
    {fields : List Field} (h : (parts.flatMap (·.body.fields)).mapM fieldOf = .ok fields) :
    ((parts.map (TypeDef.sift keep)).flatMap (·.body.fields)).mapM fieldOf =
      .ok (fields.map (.sift keep)) := by
  rw [flatMap_sift fun p => p.body.fields_sift keep]
  exact mapM_image (fun _ _ => fieldOf_sift hkeep) h

theorem partInputs_sift (hkeep : keep "deprecated" = true) {parts : List TypeDef}
    {inputs : List InputValue} (h : (parts.flatMap (·.body.inputs)).mapM inputOf = .ok inputs) :
    ((parts.map (TypeDef.sift keep)).flatMap (·.body.inputs)).mapM inputOf =
      .ok (inputs.map (.sift keep)) := by
  rw [flatMap_sift fun p => p.body.inputs_sift keep]
  exact mapM_image (fun _ _ => inputOf_sift hkeep) h

theorem partValues_sift (hkeep : keep "deprecated" = true) (parts : List TypeDef) :
    ((parts.map (TypeDef.sift keep)).flatMap (·.body.values)).mapM enumValueOf =
      (parts.flatMap (·.body.values)).mapM enumValueOf := by
  rw [flatMap_sift fun p => p.body.values_sift keep, List.mapM_map]
  exact mapM_congr fun v _ => enumValueOf_sift hkeep v

theorem bodyOf_sift (hkeep : keep "deprecated" = true) {d : TypeDef} {parts : List TypeDef}
    {body : TypeBody} (h : bodyOf d parts = .ok body) :
    bodyOf (d.sift keep) (parts.map (.sift keep)) = .ok (body.sift keep) := by
  have hbody : (d.sift keep).body = d.body.sift keep := rfl
  unfold bodyOf at h ⊢
  rw [hbody]
  cases hd : d.body with
  | scalar =>
    simp only [hd] at h
    obtain ⟨_, hpages, h⟩ := bind_eq_ok.mp h
    rw [pure_eq_ok] at h
    refine bind_eq_ok.mpr ⟨(), ?_, pure_eq_ok.mpr (h ▸ rfl)⟩
    rw [forM_eq_ok] at hpages ⊢
    rw [List.forall_mem_map]
    exact fun p hp => checkSpecifiedBy_siftUses (hpages p hp)
  | object _ _ =>
    simp only [hd] at h
    obtain ⟨_, hfields, h⟩ := bind_eq_ok.mp h
    rw [pure_eq_ok] at h
    refine bind_eq_ok.mpr ⟨_, partFields_sift hkeep hfields, ?_⟩
    rw [pure_eq_ok, ← h]
    exact congrArg (TypeBody.object · _) (partInterfaces_sift keep parts)
  | interface _ _ =>
    simp only [hd] at h
    obtain ⟨_, hfields, h⟩ := bind_eq_ok.mp h
    rw [pure_eq_ok] at h
    refine bind_eq_ok.mpr ⟨_, partFields_sift hkeep hfields, ?_⟩
    rw [pure_eq_ok, ← h]
    exact congrArg (TypeBody.interface · _) (partInterfaces_sift keep parts)
  | union _ =>
    simp only [hd, pure_eq_ok] at h
    refine pure_eq_ok.mpr ?_
    rw [← h]
    exact congrArg TypeBody.union (partMembers_sift keep parts)
  | enum _ =>
    simp only [hd, pure_eq_ok] at h
    refine pure_eq_ok.mpr ?_
    rw [← h]
    exact congrArg TypeBody.enum (partValues_sift hkeep parts)
  | input _ =>
    simp only [hd] at h
    obtain ⟨_, hinputs, h⟩ := bind_eq_ok.mp h
    rw [pure_eq_ok] at h
    refine bind_eq_ok.mpr ⟨_, partInputs_sift hkeep hinputs, ?_⟩
    rw [pure_eq_ok, ← h]
    exact congrArg (TypeBody.input · _) (isOneOf_siftUses keep d.directives)

theorem typeOf_sift (hkeep : keep "deprecated" = true) {d : TypeDef} {extensions : List TypeDef}
    {t : NamedType} (h : typeOf d extensions = .ok t) :
    typeOf (d.sift keep) (extensions.map (.sift keep)) = .ok (t.sift keep) := by
  obtain ⟨body, hbody, h⟩ := bind_eq_ok.mp h
  rw [pure_eq_ok] at h
  refine bind_eq_ok.mpr ⟨body.sift keep, bodyOf_sift hkeep hbody, ?_⟩
  have hdirectives : ((d :: extensions).map (TypeDef.sift keep)).flatMap
      (fun p => names p.directives) =
        ((d :: extensions).flatMap fun p => names p.directives).filter (keepOnType keep) := by
    rw [List.flatMap_map, List.filter_flatMap]
    exact List.flatMap_congr fun p _ => names_siftUses _ _
  rw [pure_eq_ok, ← h, NamedType.sift, ← hdirectives]
  rfl

theorem typesOf_sift (hkeep : keep "deprecated" = true) {doc : Document} {own : List NamedType}
    (h : typesOf doc = .ok own) : typesOf (doc.sift keep) = .ok (own.map (.sift keep)) := by
  have hdefs : (doc.sift keep).filterMap Definition.ownType? =
      (doc.filterMap Definition.ownType?).map (.sift keep) :=
    Document.filterMap_sift (fun d => by cases d <;> rfl) doc
  have hextensions : (doc.sift keep).filterMap Definition.extension? =
      (doc.filterMap Definition.extension?).map (.sift keep) :=
    Document.filterMap_sift (fun d => by cases d <;> rfl) doc
  unfold typesOf at h ⊢
  rw [hdefs, hextensions, List.filter_map]
  refine mapM_image ?_ h
  intro d t hd
  -- Sifting changes no names, so the same definitions are those of built-in scalars.
  have hname : (d.sift keep).name = d.name := rfl
  rw [hname]
  split at hd
  · next hbuiltin =>
    rw [pure_eq_ok] at hd
    rw [if_pos hbuiltin, pure_eq_ok, ← hd]
    rfl
  · next hbuiltin =>
    rw [if_neg hbuiltin, List.filter_map]
    exact typeOf_sift hkeep hd

/-! ## The order of types -/

theorem namedBy_sift (keep : String → Bool) (t : NamedType) : namedBy (t.sift keep) = namedBy t := by
  unfold namedBy NamedType.sift
  cases t.body with
  | scalar | union _ | enum _ => rfl
  | object _ _ | interface _ _ =>
    simp only [SchemaTypings.TypeBody.sift, List.flatMap_map, Field.sift, List.map_map]
    rfl
  | input _ _ =>
    simp only [SchemaTypings.TypeBody.sift, List.map_map]
    rfl

theorem addScalar_sift (keep : String → Bool) (types : List NamedType) (name : String) :
    addScalar (types.map (.sift keep)) name = (addScalar types name).map (.sift keep) := by
  have hany : (types.map (NamedType.sift keep)).any (fun t => t.name = name) =
      types.any fun t => t.name = name := by
    rw [List.any_map]
    rfl
  unfold addScalar
  rw [hany]
  split
  · rfl
  · rw [List.map_append]
    rfl

theorem addBehind_sift (keep : String → Bool) (defined : List String) (types : List NamedType)
    (name : String) : addBehind defined (types.map (.sift keep)) name =
      (addBehind defined types name).map (.sift keep) := by
  unfold addBehind
  refine List.foldl_hom (List.map (NamedType.sift keep)) ?_
  intro types name
  split
  · rfl
  · exact addScalar_sift keep types name

theorem withScalars_sift (keep : String → Bool) (own : List NamedType) (further : List String) :
    withScalars (own.map (.sift keep)) further = (withScalars own further).map (.sift keep) := by
  have hnames : (own.map (NamedType.sift keep)).map (·.name) = own.map (·.name) := by
    rw [List.map_map]
    rfl
  have hbehind := addBehind_sift keep (own.map (·.name))
  have hordered : own.foldl (fun types t => (namedBy (t.sift keep)).foldl
      (addBehind (own.map (·.name))) (types ++ [t.sift keep])) (List.map (NamedType.sift keep) []) =
      (own.foldl (fun types t => (namedBy t).foldl (addBehind (own.map (·.name))) (types ++ [t]))
        []).map (NamedType.sift keep) := by
    refine List.foldl_hom (List.map (NamedType.sift keep)) ?_
    intro types t
    rw [namedBy_sift, ← List.foldl_hom (List.map (NamedType.sift keep)) hbehind, List.map_append]
    rfl
  rw [withScalars_eq, withScalars_eq, hnames, List.foldl_map,
    ← List.foldl_hom (List.map (NamedType.sift keep)) hbehind, ← hordered]
  rfl

/-! ## The schema of a document -/

theorem directivesOf_sift (keep : String → Bool) (doc : Document) :
    directivesOf (doc.sift keep) = (directivesOf doc).map (.sift keep) := by
  have hown : (doc.sift keep).filterMap Definition.directive? =
      (doc.filterMap Definition.directive?).map (.sift keep) :=
    Document.filterMap_sift (fun d => by cases d <;> rfl) doc
  have hbuiltin : builtinDirectives = builtinDirectives.map (.sift keep) := rfl
  unfold directivesOf
  simp only [hown, List.any_map, List.map_append]
  congr 1
  conv_lhs => rw [hbuiltin]
  rw [List.filter_map]
  rfl

theorem checkDirective_sift (hkeep : keep "deprecated" = true)
    {extensions : List DirectiveExtension} {d : DirectiveDef}
    (h : checkDirective extensions d = .ok ()) :
    checkDirective (extensions.map (.sift keep)) (d.sift keep) = .ok () := by
  obtain ⟨_, harguments, h⟩ := bind_eq_ok.mp h
  obtain ⟨notice, hnotice, _⟩ := bind_eq_ok.mp h
  -- The uses on a definition and its extensions are sifted together.
  have huses : (d.sift keep).directives ++
      ((extensions.map (DirectiveExtension.sift keep)).filter fun e => e.name = d.name).flatMap
        (·.directives) =
      siftUses keep (d.directives ++
        (extensions.filter fun e => e.name = d.name).flatMap (·.directives)) := by
    unfold siftUses
    rw [List.filter_append, List.filter_map, List.flatMap_map, List.filter_flatMap]
    rfl
  have hnotice' : deprecationOf ((d.sift keep).directives ++
      ((extensions.map (DirectiveExtension.sift keep)).filter fun e => e.name = d.name).flatMap
        (·.directives)) = .ok notice := by
    rw [huses, deprecationOf_siftUses hkeep]
    exact hnotice
  exact bind_eq_ok.mpr ⟨_, mapM_image (fun _ _ => inputOf_sift hkeep) harguments,
    bind_eq_ok.mpr ⟨notice, hnotice', rfl⟩⟩

/-- **A sifted document gives the sifted schema, if notices of deprecations stay.** -/
theorem ofFlawless_sift (hkeep : keep "deprecated" = true) {doc : Document} {schema : Schema}
    (h : ofFlawless doc = .ok schema) : ofFlawless (doc.sift keep) = .ok (schema.sift keep) := by
  obtain ⟨own, hown, h⟩ := bind_eq_ok.mp h
  obtain ⟨_, hchecked, h⟩ := bind_eq_ok.mp h
  rw [pure_eq_ok] at h
  have hdirectives : (doc.sift keep).filterMap Definition.directive? =
      (doc.filterMap Definition.directive?).map (.sift keep) :=
    Document.filterMap_sift (fun d => by cases d <;> rfl) doc
  have hextensions : (doc.sift keep).filterMap Definition.directiveExtension? =
      (doc.filterMap Definition.directiveExtension?).map (.sift keep) :=
    Document.filterMap_sift (fun d => by cases d <;> rfl) doc
  have hschemas : (doc.sift keep).filterMap Definition.anySchema? =
      (doc.filterMap Definition.anySchema?).map (.sift keep) :=
    Document.filterMap_sift (fun d => by cases d <;> rfl) doc
  refine bind_eq_ok.mpr ⟨_, typesOf_sift hkeep hown, bind_eq_ok.mpr ⟨(), ?_, ?_⟩⟩
  · rw [hdirectives, hextensions]
    rw [forM_eq_ok] at hchecked ⊢
    rw [List.forall_mem_map]
    exact fun d hd => checkDirective_sift hkeep (hchecked d hd)
  · have harguments : ((directivesOf doc).map (DirectiveDef.sift keep)).flatMap
        (fun d => d.arguments.map (·.type.name)) =
          (directivesOf doc).flatMap fun d => d.arguments.map (·.type.name) := by
      rw [List.flatMap_map]
      refine List.flatMap_congr fun d _ => ?_
      simp only [DirectiveDef.sift, List.map_map]
      rfl
    rw [pure_eq_ok, ← h, hschemas, directivesOf_sift, harguments, withScalars_sift,
      List.flatMap_map, List.map_map]
    rfl

theorem ofFlawless_of_ofDocument {doc : Document} {schema : Schema}
    (h : ofDocument doc = .ok schema) : ofFlawless doc = .ok schema := by
  unfold ofDocument at h
  split at h
  · exact h
  · cases h

theorem sift_eq_of_documents (hkeep : keep "deprecated" = true) {doc doc' : Document}
    {schema schema' : Schema} (h : ofDocument doc = .ok schema) (h' : ofDocument doc' = .ok schema')
    (hsame : doc'.sift keep = doc.sift keep) : schema'.sift keep = schema.sift keep := by
  have hsifted := ofFlawless_sift hkeep (ofFlawless_of_ofDocument h)
  have hsifted' := ofFlawless_sift hkeep (ofFlawless_of_ofDocument h')
  rw [hsame, hsifted] at hsifted'
  exact (Except.ok.inj hsifted').symm

end Schema

end SchemaTypings
