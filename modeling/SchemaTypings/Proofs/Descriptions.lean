import SchemaTypings.Proofs.Bare
import SchemaTypings.Proofs.ConfigLimits
import SchemaTypings.Proofs.SteadyRuns

/-!
# Notes leave the code alone

Two runs over schemas that differ in nothing but descriptions and the notices of deprecations write
the same code but for its comments. Only a text that is set as an enum value may stand in the way: a
literal keeps its lines, and one that opens a comment hides what follows.
-/

open SchemaTypings.Outcome

namespace SchemaTypings

/-! ## Schemas that set no values -/

theorem Schema.calm_of_fresh {s : Schema} (h : ∀ t ∈ s.types, t.body.Fresh) : s.Calm := by
  intro t ht values hbody v hv text hstored
  have hfresh := h t ht
  rw [hbody] at hfresh
  obtain ⟨hnamed, hvalue⟩ := hfresh values rfl v hv
  rw [hvalue] at hstored
  cases hstored
  exact Code.calm_of_oneLine (oneLine_of_isName hnamed)

theorem Schema.calm_ofText {text : String} {s : Schema} (h : Schema.ofText text = .ok s) : s.Calm :=
  calm_of_fresh fun t ht => (proper_ofText h t ht).2

theorem Introspection.calm_schema {description : Value} {s : Schema}
    (h : Introspection.schema description = .ok s) : s.Calm :=
  Schema.calm_of_fresh fun t ht => (proper_schema h t ht).2

namespace Code

/-! ## Two runs -/

/-- What is left of two codes without their comments is the same. -/
def SameCode (code code' : String) : Prop := withoutComments code = withoutComments code'

instance (code code' : String) : Decidable (SameCode code code') :=
  inferInstanceAs (Decidable (_ = _))

theorem sameCode_of_bare {d d' : Declaration} (hd : d.Steady) (h : d.bare = d'.bare) :
    SameCode d.render d'.render := by
  have hquiet := hd.quiet
  have hquiet' := hquiet
  rw [h] at hquiet'
  unfold SameCode
  rw [withoutComments_render hquiet, withoutComments_render hquiet', h]

theorem sameCode_declarations {ds ds' : List Declaration} (hds : ∀ d ∈ ds, d.Steady)
    (h : ds.map Declaration.bare = ds'.map Declaration.bare) :
    List.Forall₂ SameCode (ds.map Declaration.render) (ds'.map Declaration.render) := by
  have hlength : ds.length = ds'.length := by simpa using congrArg List.length h
  rw [List.forall₂_map_left_iff, List.forall₂_map_right_iff, List.forall₂_iff_get]
  refine ⟨hlength, ?_⟩
  intro i hi hi'
  have hbare : (ds.map Declaration.bare)[i]? = (ds'.map Declaration.bare)[i]? := by rw [h]
  rw [List.getElem?_map, List.getElem?_map, List.getElem?_eq_getElem hi,
    List.getElem?_eq_getElem hi'] at hbare
  exact sameCode_of_bare (hds _ (List.getElem_mem hi)) (Option.some.inj hbare)

/-- **Descriptions and notices of deprecations never reach the code.** -/
theorem emit_descriptions {schema schema' : Schema} {config : TypesConfig} {out out' : Output}
    (hbuilt : schema.Built) (hbare : schema.bare = schema'.bare) (hcalm : schema.Calm)
    (hplain : config.options.Plain) (h : emit schema config.settings = .ok out)
    (h' : emit schema' config.settings = .ok out') :
    out.prepend = out'.prepend ∧ List.Forall₂ SameCode out.content out'.content := by
  obtain ⟨e, he, hout⟩ := emission_of_emit h
  obtain ⟨e', he', hout'⟩ := emission_of_emit h'
  obtain ⟨p, rfl⟩ := exists_parts he
  obtain ⟨p', rfl⟩ := exists_parts he'
  obtain ⟨hledger, hdeclarations⟩ := declarations_of_bare hbare p p'
  obtain ⟨statements, hstatements, hprepend, hcontent⟩ := output_parts hout
  obtain ⟨statements', hstatements', hprepend', hcontent'⟩ := output_parts hout'
  -- Imports and re-exports come out of the ledger, which knows no notes.
  have hsame : p.emission.ledger = p'.emission.ledger := hledger
  rw [hsame] at hstatements hprepend hcontent
  obtain rfl := Except.ok.inj (hstatements.symm.trans hstatements')
  have hsteady := p.steady_declarations (Settings.plain_of_options config.valid_ample hplain)
    hbuilt.proper hcalm
  refine ⟨?_, ?_⟩
  · rw [hprepend, hprepend']
    rfl
  · rw [hcontent, hcontent']
    refine List.rel_append (sameCode_declarations hsteady hdeclarations) ?_
    exact List.forall₂_same.mpr fun _ _ => rfl

/-! ## A catalogue with and without notes -/

/-- An object, an enum and a scalar with notes that hold the marks of comments. -/
def notedText : String :=
  "\"ends */ here\" type Item\x7b\"/**\" size(\"in */\" unit:Unit):Date@deprecated(reason:\"*/\")\x7d" ++
  "enum Unit\x7b\"\"\"/**\n*/\"\"\" CM\x7d \"a date\" scalar Date"

def bareText : String :=
  "type Item\x7bsize(unit:Unit):Date@deprecated\x7denum Unit\x7bCM\x7dscalar Date"

def prefixedOptions : Options :=
  Options.ofTable [("types_prefix", .text "I"), ("scalars", .object [("Date", .text "dates#Day")])]

theorem plain_prefixedOptions : prefixedOptions.Plain :=
  Options.plain_of_texts (by decide +kernel)

theorem emit_descriptions_catalogue : ∃ (schema schema' : Schema) (config : TypesConfig)
    (out out' : Output), Schema.ofText notedText = .ok schema ∧
    Schema.ofText bareText = .ok schema' ∧ schema.Built ∧ schema.bare = schema'.bare ∧
    schema.Calm ∧ config.options = prefixedOptions ∧ config.options.Plain ∧
    emit schema config.settings = .ok out ∧ emit schema' config.settings = .ok out' ∧
    out.prepend = out'.prepend ∧ List.Forall₂ SameCode out.content out'.content := by
  have hbare : (Schema.ofText notedText).toOption.map Schema.bare =
      (Schema.ofText bareText).toOption.map Schema.bare := by
    decide +kernel
  have hruns : runs notedText prefixedOptions (fun _ s => (Schema.ofText bareText).toOption.any
      fun schema' => (emit schema' s).toOption.isSome) = true := by
    decide +kernel
  obtain ⟨schema, s, out, hschema, hsettings, hemit, hother⟩ := exists_of_runs hruns
  obtain ⟨schema', hschema', hother⟩ := (Option.any_eq_true ..).mp hother
  obtain ⟨out', hemit'⟩ := Option.isSome_iff_exists.mp hother
  rw [toOption_eq_some] at hschema' hemit'
  rw [hschema, hschema'] at hbare
  have hbare := Option.some.inj hbare
  have hcalm := Schema.calm_ofText hschema
  obtain ⟨config, hoptions, rfl⟩ : ∃ config : TypesConfig, config.options = prefixedOptions ∧
      config.settings = s := ⟨⟨prefixedOptions, s, .ample, hsettings⟩, rfl, rfl⟩
  have hplain : config.options.Plain := hoptions ▸ plain_prefixedOptions
  obtain ⟨hprepend, hcontent⟩ :=
    emit_descriptions (.ofText hschema) hbare hcalm hplain hemit hemit'
  exact ⟨schema, schema', config, out, out', hschema, hschema', .ofText hschema, hbare, hcalm,
    hoptions, hplain, hemit, hemit', hprepend, hcontent⟩

/-! ## Values that open a comment -/

/-- A schema in which a value of an enum is set to a text with a line that opens a comment. -/
def opened? (text : String) : Option Schema :=
  (Schema.ofText text).toOption.bind fun s =>
    (s.storeEnumValue "E" "A" (.plain (.text "\n/**"))).toOption

theorem built_of_opened {text : String} {s : Schema} (h : opened? text = some s) : s.Built := by
  obtain ⟨s₀, hs₀, h⟩ := Option.bind_eq_some_iff.mp h
  rw [toOption_eq_some] at hs₀ h
  exact .storedValue (.ofText hs₀) h

theorem plain_defaults : Options.defaults.Plain := Options.plain_of_texts (by decide +kernel)

/-- The note of the last value closes what the first value opens, and the note of the second value
closes it before that value. -/
theorem content_differs_opened : ∃ (schema schema' : Schema) (config : TypesConfig)
    (out out' : Output), opened? "enum E \x7bA B \"x\" C\x7d" = some schema ∧
    opened? "enum E \x7bA \"x\" B C\x7d" = some schema' ∧ schema.Built ∧ schema'.Built ∧
    schema.bare = schema'.bare ∧ config.options = Options.defaults ∧ config.options.Plain ∧
    emit schema config.settings = .ok out ∧ emit schema' config.settings = .ok out' ∧
    ¬List.Forall₂ SameCode out.content out'.content := by
  have hbare : (opened? "enum E \x7bA B \"x\" C\x7d").map Schema.bare =
      (opened? "enum E \x7bA \"x\" B C\x7d").map Schema.bare := by
    decide +kernel
  have hruns : ((Settings.ofOptions Options.defaults).toOption.any fun s =>
      (opened? "enum E \x7bA B \"x\" C\x7d").any fun schema =>
        (opened? "enum E \x7bA \"x\" B C\x7d").any fun schema' =>
          (emit schema s).toOption.any fun out => (emit schema' s).toOption.any fun out' =>
            decide (out.content.map withoutComments ≠ out'.content.map withoutComments)) = true := by
    decide +kernel
  obtain ⟨s, hsettings, hruns⟩ := (Option.any_eq_true ..).mp hruns
  obtain ⟨schema, hschema, hruns⟩ := (Option.any_eq_true ..).mp hruns
  obtain ⟨schema', hschema', hruns⟩ := (Option.any_eq_true ..).mp hruns
  obtain ⟨out, hemit, hruns⟩ := (Option.any_eq_true ..).mp hruns
  obtain ⟨out', hemit', hdiffers⟩ := (Option.any_eq_true ..).mp hruns
  rw [toOption_eq_some] at hsettings hemit hemit'
  rw [hschema, hschema'] at hbare
  refine ⟨schema, schema', ⟨Options.defaults, s, .ample, hsettings⟩, out, out', hschema, hschema',
    built_of_opened hschema, built_of_opened hschema', Option.some.inj hbare, rfl, plain_defaults,
    hemit, hemit', ?_⟩
  intro hall
  have hsame : out.content.map withoutComments = out'.content.map withoutComments := by
    rw [← List.forall₂_eq_eq_eq, List.forall₂_map_left_iff, List.forall₂_map_right_iff]
    exact hall
  exact of_decide_eq_true hdiffers hsame

end Code

end SchemaTypings
