import SchemaTypings.Proofs.Bindings
import SchemaTypings.Proofs.EnumKeys
import SchemaTypings.Proofs.Implementers
import SchemaTypings.Proofs.SchemaNames
import SchemaTypings.Proofs.Steady

/-!
# Runs that open no comment

Under plain options a run declares nothing but steady declarations: names of a schema are spelled as
names are, and what options say stands on one line. Only a text that is set as an enum value may open
a comment, on a line of its own.
-/

open SchemaTypings.Outcome

namespace SchemaTypings

open Sdl (Named)

/-- A text that is set as the value opens no comment on a line after its first. -/
def EnumValue.Calm (v : EnumValue) : Prop :=
  ∀ text, v.stored.value = .text text → Code.Calm text.toList

def NamedType.Calm (t : NamedType) : Prop :=
  ∀ values, t.body = .enum (.ok values) → ∀ v ∈ values, v.Calm

def Schema.Calm (s : Schema) : Prop := ∀ t ∈ s.types, t.Calm

/-! ## Identifiers -/

namespace Settings

variable {s : Settings} (hs : s.Plain)

include hs

theorem oneLine_convertName {name : String} (h : Spelled name) (f : NameForm) :
    OneLine (s.convertName name f) := by
  have hempty : OneLine "" := by decide
  unfold convertName decorate
  simp only [oneLine_append]
  exact ⟨⟨oneLine_ite hs.typesPrefix hempty, (spelled_applyParts _ h _).oneLine⟩,
    oneLine_ite hs.typesSuffix hempty⟩

theorem oneLine_typeName {name : String} (h : Named name) : OneLine (s.typeName name) :=
  oneLine_convertName hs (spelled_of_named h) _

theorem oneLine_typeNames {names : List String} (h : ∀ n ∈ names, Named n) :
    ∀ text ∈ names.map s.typeName, OneLine text := by
  intro text htext
  obtain ⟨n, hn, rfl⟩ := List.mem_map.mp htext
  exact oneLine_typeName hs (h n hn)

theorem oneLine_enumName {name : String} (h : Named name) : OneLine (s.enumName name) :=
  oneLine_convertName hs (spelled_of_named h) _

theorem oneLine_argsName {owner field : String} (howner : Named owner) (hfield : Named field) :
    OneLine (s.argsName owner field) := by
  have hmark : Spelled "_" := spelled_of_named (show Sdl.isName _ = true by decide)
  have hend : Spelled "Args" := spelled_of_named (show Sdl.isName _ = true by decide)
  have hpart : Spelled (s.convertName field bareForm) := by
    have hconverted := spelled_applyParts (s.effective bareForm).1 (spelled_of_named hfield)
      (s.effective bareForm).2
    exact spelled_append (spelled_append spelled_empty hconverted) spelled_empty
  refine oneLine_convertName hs ?_ _
  exact spelled_append (spelled_append (spelled_append (spelled_of_named howner)
    (spelled_ite hmark spelled_empty)) hpart) hend

end Settings

namespace Code

/-! ## References -/

theorem oneLine_entry {declaration row : String} (hdeclaration : OneLine declaration)
    (hrow : OneLine row) : OneLine (entry declaration row) := by
  simp +decide only [entry, oneLine_append, hdeclaration, hrow, and_true]

theorem lined_enumReference (s : Settings) {identifier : String} (h : OneLine identifier) :
    (s.enumReference identifier).Lined := by
  have hbar : OneLine " | " := by decide
  have hfuture : OneLine futureValue := by decide
  have htemplate : OneLine ("\x60$\x7b" ++ identifier ++ "\x7d\x60") := by
    simp +decide only [oneLine_append, h, and_true]
  unfold Settings.enumReference
  split
  · exact h
  · refine oneLine_intercalate hbar ?_
    intro text htext
    simp only [List.mem_append, List.mem_singleton] at htext
    rcases htext with (rfl | htext) | htext
    · exact h
    · split at htext
      · rwa [List.mem_singleton.mp htext]
      · cases htext
    · split at htext
      · rwa [List.mem_singleton.mp htext]
      · cases htext

theorem lined_anyOf {identifiers : List String} (h : ∀ i ∈ identifiers, OneLine i) :
    (Reference.anyOf identifiers).Lined := by
  cases identifiers with
  | nil =>
    have hnever : OneLine "never" := by decide
    exact hnever
  | cons first rest =>
    have hbar : OneLine " | " := by decide
    exact oneLine_intercalate hbar h

namespace Scope

/-- What the texts of a run rest on: plain settings, names that are spelled as names are, and types
mapped to directives that stand on one line. -/
structure Steady (c : Scope) : Prop where
  settings : c.settings.Plain
  types : ∀ t ∈ c.schema.types, t.Proper
  mapped : ∀ p ∈ c.mapped, PlainText p.1 ∧ OneLine p.2.display

namespace Steady

variable {c : Scope} (hc : c.Steady)

include hc

theorem proper_found {name : String} {t : NamedType} (h : c.schema.find? name = some t) :
    t.Proper := by
  rcases List.mem_append.mp (List.mem_of_find?_eq_some h) with ht | ht
  · exact hc.types t ht
  · exact Schema.proper_introspection t ht

theorem lined_reference {name : String} (hname : Named name) {r : Reference}
    (h : c.reference name = .ok r) : r.Lined := by
  have hline := oneLine_of_isName hname
  unfold reference at h
  split at h
  · cases h
    exact oneLine_entry (by decide) hline
  · obtain ⟨identifier, hidentifier, rfl⟩ := map_eq_ok.mp (mapError_eq_ok.mp h)
    obtain ⟨_, _, hidentifier⟩ := bind_eq_ok.mp hidentifier
    rw [pure_eq_ok] at hidentifier
    rw [← hidentifier]
    exact lined_enumReference _ (oneLine_ite hline (c.settings.oneLine_enumName hc.settings hname))
  · cases h
    exact c.settings.oneLine_typeName hc.settings hname

theorem named_possible {t : NamedType} (ht : t.Proper) :
    ∀ n ∈ c.schema.possibleTypes t, Named n := by
  intro n hn
  have hbody := ht.2
  unfold Schema.possibleTypes at hn
  split at hn
  · next hunion =>
    rw [hunion] at hbody
    exact hbody n hn
  · obtain ⟨u, hu, rfl, _⟩ := Schema.namesObject_implementing hn
    exact (hc.types u hu).1
  · cases hn

theorem lined_output {name : String} (hname : Named name) {r : Reference}
    (h : c.outputReference name = .ok r) : r.Lined := by
  unfold outputReference at h
  split at h
  · next t _ hfind =>
    have hpossible := hc.named_possible (hc.proper_found hfind)
    split at h
    · cases h
      exact lined_anyOf (c.settings.oneLine_typeNames hc.settings hpossible)
    · cases h
      exact lined_anyOf (c.settings.oneLine_typeNames hc.settings hpossible)
    · exact hc.lined_reference hname h
  · exact hc.lined_reference hname h

theorem lined_override {directives : List String} {r : Reference}
    (h : c.override? directives = some r) : r.Lined := by
  obtain ⟨name, hname, rfl⟩ := Option.map_eq_some_iff.mp h
  have hhas := (List.mem_filter.mp (List.mem_of_getLast? hname)).2
  obtain ⟨v, hv⟩ := Option.isSome_iff_exists.mp hhas
  have hplain := (hc.mapped _ (Table.mem_of_get? hv)).1
  exact oneLine_entry (by decide) hplain.1

/-! ## Members -/

theorem steady_output {f : Field} (hf : f.Proper) {a : Attribute} (h : c.outputMember f = .ok a) :
    a.Steady := by
  obtain ⟨core, hcore, _, hname, htype⟩ := outputMember_ok h
  refine ⟨hname ▸ hf.1, ?_⟩
  rw [htype]
  exact hc.lined_output hf.2.1 hcore

theorem steady_input {i : InputValue} (hi : i.Proper) {a : Attribute}
    (h : c.inputMember i = .ok a) : a.Steady := by
  obtain ⟨_, hname, htype⟩ := inputMember_ok h
  refine ⟨hname ▸ hi.1, ?_⟩
  rcases htype with ⟨o, ho, htype⟩ | ⟨_, core, hcore, htype⟩
  · rw [htype]
    exact hc.lined_override ho
  · rw [htype]
    exact hc.lined_reference hi.2 hcore

theorem steady_inputs {is : List InputValue} (his : ∀ i ∈ is, i.Proper) {members : List Attribute}
    (h : is.mapM c.inputMember = .ok members) : ∀ a ∈ members, a.Steady :=
  forall_of_mapM h fun i hi _ ha => hc.steady_input (his i hi) ha

theorem steady_outputs {fs : List Field} (hfs : ∀ f ∈ fs, f.Proper) {members : List Attribute}
    (h : fs.mapM c.outputMember = .ok members) : ∀ a ∈ members, a.Steady :=
  forall_of_mapM h fun f hf _ ha => hc.steady_output (hfs f hf) ha

theorem steady_variant {input : String} {fields : List InputValue} (hfields : ∀ f ∈ fields, f.Proper)
    {given : InputValue} (hgiven : given.Proper) {v : Variant}
    (h : c.variant input fields given = .ok v) : ∀ f ∈ v, f.Steady := by
  obtain ⟨_, type, htype, rfl⟩ := variant_ok h
  have hcore : type.core.Lined := by
    rcases requiredType_ok htype with ⟨o, ho, rfl⟩ | ⟨_, core, hcore, rfl⟩
    · exact hc.lined_override ho
    · exact hc.lined_reference hgiven.2 hcore
  intro f hf
  obtain ⟨i, hi, rfl⟩ := List.mem_map.mp hf
  refine ⟨(hfields i hi).1, ?_⟩
  intro e he
  dsimp only at he
  split at he
  · cases he
    exact hcore
  · cases he

end Steady

end Scope

/-! ## Enums -/

theorem calm_literal {v : Value} (h : ∀ text, v = .text text → Calm text.toList) :
    Calm (literal v).toList := by
  have hquote : ∀ text : String, Calm text.toList → Calm (quote text).toList := by
    intro text htext
    unfold quote
    rw [String.toList_ofList]
    exact calm_quoteChars htext
  cases v with
  | text s => exact hquote s (h s rfl)
  | int n => exact calm_of_oneLine (Value.oneLine_inner (.int n))
  | float x => exact calm_of_oneLine (Value.oneLine_inner (.float x))
  | null => exact hquote _ (calm_of_oneLine (Value.oneLine_inner .null))
  | bool b => exact hquote _ (calm_of_oneLine (Value.oneLine_inner (.bool b)))
  | list items => exact hquote _ (calm_of_oneLine (Value.oneLine_inner (.list items)))
  | object fields => exact hquote _ (calm_of_oneLine (Value.oneLine_inner (.object fields)))

theorem calm_of_lined {v : Value} (h : v.Lined) : ∀ text, v = .text text → Calm text.toList := by
  rintro text rfl
  exact calm_of_oneLine (h text .text)

theorem lined_enumOverrides {s : Settings} (hs : s.Plain) (enum : String) :
    ∀ p ∈ s.enumOverrides enum, p.2.Lined := by
  have hvalues := hs.enumValues
  unfold Settings.enumOverrides
  split
  · exact nofun
  · next entries hentries =>
    rw [hentries] at hvalues
    split
    · next fields hfields =>
      split
      · exact nofun
      · rintro ⟨name, v⟩ hp
        have hall := (hvalues _ (Table.mem_of_get? hfields)).2
        exact fun text htext => hall text (.entry hp htext)
    · exact nofun

theorem calm_memberValue {s : Settings} (hs : s.Plain) (enum : String) {v : EnumValue}
    (hname : Named v.name) (hstored : v.Calm) (index : Nat) :
    Calm (literal (memberValue s (s.enumOverrides enum) index v)).toList := by
  refine calm_literal ?_
  intro text htext
  unfold memberValue at htext
  split at htext
  · next value hvalue =>
    exact calm_of_lined (lined_enumOverrides hs enum _ (Table.mem_of_get? hvalue)) text htext
  · split at htext
    · next value hset =>
      subst htext
      unfold StoredValue.setValue? at hset
      split at hset
      · next hvalue =>
        split at hset
        · cases hset
        · cases hset
          exact hstored _ hvalue
      all_goals cases hset
    · split at htext
      · cases htext
      · cases htext
        exact calm_of_oneLine (oneLine_of_isName hname)

theorem steady_key {s : Settings} {used : List String} {name key property : String}
    (hname : Named name) (h : Keyed s used name key property) :
    OneLine key ∧ Begins key.toList := by
  have hquoted : ∀ text : String, OneLine text →
      OneLine ("'" ++ text ++ "'") ∧ Begins ("'" ++ text ++ "'").toList := by
    intro text htext
    refine ⟨?_, begins_left (begins_left (by decide))⟩
    simp +decide only [oneLine_append, htext, and_true]
  cases h with
  | wanted _ _ =>
    have hspelled : Spelled (s.convertName name s.enumKeyForm) :=
      spelled_append (spelled_append spelled_empty
        (spelled_applyParts _ (spelled_of_named hname) _)) spelled_empty
    unfold Settings.enumKey asKey
    split
    · next hid =>
      refine ⟨hspelled.oneLine, begins_of_spelled hspelled ?_⟩
      intro hnil
      rw [hnil] at hid
      cases hid
    · exact hquoted _ hspelled.oneLine
  | @numbered property n _ _ _ _ _ _ =>
    -- A key with a number stands in quotes, and it is the raw name and not the converted one.
    refine hquoted _ ?_
    have hline := oneLine_of_isName hname
    cases n with
    | zero => exact hline
    | succ n =>
      have hnumber : OneLine (toString (n + 2)) := oneLine_of_numeral (numeral_repr (n + 2))
      unfold candidate
      simp +decide only [oneLine_append, hline, hnumber, and_true]

theorem steady_enumLine {s : Settings} (hs : s.Plain) {enum : String} {values : List EnumValue}
    (hnames : ∀ v ∈ values, Named v.name) (hstored : ∀ v ∈ values, v.Calm)
    {l : EnumLine} (hl : l.member ∈ s.enumMembers enum values) : l.Steady := by
  have hvalue : ∃ v ∈ values, ∃ index,
      l.member.value = memberValue s (s.enumOverrides enum) index v := by
    obtain ⟨⟨⟨v, key⟩, index⟩, hin, hmember⟩ := List.mem_map.mp hl
    have hzip := List.fst_mem_of_mem_zipIdx hin
    exact ⟨v, (List.of_mem_zip hzip).1, index, by rw [← hmember]⟩
  obtain ⟨v, hv, index, hvalue⟩ := hvalue
  -- Its value is written as a literal, in which a text may well have line breaks.
  have hcalm := calm_memberValue hs enum (hnames v hv) (hstored v hv) index
  rw [← hvalue] at hcalm
  obtain ⟨before, after, hsplit⟩ := List.append_of_mem hl
  have hkeyed := keyed_member hnames hsplit
  have hname : Named l.member.name := by
    have hmem := List.mem_map_of_mem (f := EnumMember.name) hl
    rw [enumMembers_names] at hmem
    obtain ⟨w, hw, hsame⟩ := List.mem_map.mp hmem
    exact hsame ▸ hnames w hw
  obtain ⟨hline, hbegins⟩ := steady_key hname hkeyed
  exact ⟨hline, hbegins, hcalm⟩

/-! ## Scalars -/

namespace ScalarTable

theorem oneLine_builtin {name type : String} (h : Table.get? builtinTypes name = some type) :
    OneLine type := by
  have hall : ∀ p ∈ builtinTypes, OneLine p.2 := by decide
  exact hall _ (Table.mem_of_get? h)

theorem oneLine_resolve {s : Settings} (hs : s.Plain) {name : String} (hname : OneLine name)
    {m : Mapper} (h : resolve s name = .ok m) : OneLine m.type.display := by
  have hempty : OneLine "" := by decide
  have hscalars := hs.scalars
  unfold resolve at h
  split at h
  · next path hpath =>
    rw [hpath] at hscalars
    split at h
    · next hbuiltin =>
      cases h
      exact oneLine_builtin hbuiltin
    -- A module for all scalars is asked for the scalar by name.
    · have hsymbol : OneLine (path ++ "#" ++ name) := by
        have hpath : OneLine path := hscalars
        simp +decide only [oneLine_append, hpath, hname, and_true]
      exact Mapper.oneLine_ofValue h (Value.lined_text hsymbol) hname hempty
  · next entries hentries =>
    rw [hentries] at hscalars
    split at h
    · next v hv =>
      have hlined := (hscalars _ (Table.mem_of_get? hv)).2
      exact Mapper.oneLine_ofValue h hlined hname hempty
    · cases h
      unfold unmapped
      split
      · next hbuiltin => exact oneLine_builtin hbuiltin
      · exact hs.defaultScalar.display

theorem plain_namesToResolve {schema : Schema} {s : Settings} (hs : s.Plain)
    (htypes : ∀ t ∈ schema.types, t.Proper) : ∀ name ∈ namesToResolve schema s, PlainText name := by
  intro name hname
  rcases List.mem_append.mp hname with hname | hname
  · obtain ⟨t, ht, rfl⟩ := List.mem_map.mp hname
    have hin := (List.mem_filter.mp (List.mem_filter.mp ht).1).1
    exact plainText_of_named (htypes t hin).1
  · have hmapped := (List.mem_filter.mp hname).1
    have hscalars := hs.scalars
    unfold mappedNames at hmapped
    split at hmapped
    · cases hmapped
    · next entries hentries =>
      rw [hentries] at hscalars
      obtain ⟨p, hp, rfl⟩ := List.mem_map.mp hmapped
      exact (hscalars p hp).1

theorem steady_rows {schema : Schema} {s : Settings} (hs : s.Plain)
    (htypes : ∀ t ∈ schema.types, t.Proper) {t : ScalarTable} (h : ofSchema schema s = .ok t) :
    ∀ p ∈ t.rows, PlainText p.1 ∧ OneLine p.2.type.display := by
  have hbuiltin : ∀ p ∈ builtinTypes, Named p.1 ∧ OneLine p.2 := by
    unfold Named
    decide
  obtain ⟨_, resolved, hresolved, hrows⟩ := rows_of_ok h
  intro p hp
  rw [hrows] at hp
  rcases Table.mem_of_mem_putAll hp with hp | hp
  · obtain ⟨q, hq, rfl⟩ := List.mem_map.mp hp
    exact ⟨plainText_of_named (hbuiltin q hq).1, (hbuiltin q hq).2⟩
  · obtain ⟨name, hname, hmade⟩ := exists_of_mem_mapM hresolved hp
    obtain ⟨m, hm, hmade⟩ := bind_eq_ok.mp hmade
    rw [pure_eq_ok] at hmade
    have hplain := plain_namesToResolve hs htypes name hname
    rw [← hmade]
    exact ⟨hplain, oneLine_resolve hs hplain.1 hm⟩

end ScalarTable

/-! ## Declarations -/

theorem Scope.steady_scalars (c : Scope) {t : ScalarTable}
    (h : ∀ p ∈ t.rows, PlainText p.1 ∧ OneLine p.2.type.display) :
    (c.scalarsDeclaration t).Steady := by
  have hname : OneLine scalarsName := by decide
  refine ⟨hname, ?_⟩
  intro r hr
  obtain ⟨row, hrow, rfl⟩ := List.mem_map.mp hr
  obtain ⟨p, hp, rfl⟩ := List.mem_map.mp hrow
  exact h p hp

namespace Scope.Steady

variable {c : Scope} (hc : c.Steady)

include hc

theorem steady_bags {owner : String} (howner : Named owner) {fields : List Field}
    (hfields : ∀ f ∈ fields, f.Proper) {bags : List Declaration}
    (h : c.argumentBags owner fields = .ok bags) : ∀ d ∈ bags, d.Steady := by
  intro d hd
  obtain ⟨f, hf, hmade⟩ := exists_of_mem_mapM h hd
  have hproper := hfields f (List.mem_filter.mp hf).1
  obtain ⟨members, hmembers, hmade⟩ := bind_eq_ok.mp hmade
  rw [pure_eq_ok] at hmade
  rw [← hmade]
  exact ⟨c.settings.oneLine_argsName hc.settings howner hproper.1,
    hc.steady_inputs hproper.2.2 hmembers⟩

theorem steady_declared {t : NamedType} (ht : t.Proper) (hcalm : t.Calm) {ds : List Declaration}
    (h : c.Declared t ds) : ∀ d ∈ ds, d.Steady := by
  obtain ⟨hname, hbody⟩ := ht
  have htypeName := c.settings.oneLine_typeName hc.settings hname
  cases h with
  | scalar _ | externalEnum _ _ => exact nofun
  | @localEnum values lines henum _ hlines =>
    rw [henum] at hbody
    rw [List.forall_mem_singleton]
    refine ⟨c.settings.oneLine_enumName hc.settings hname, ?_⟩
    intro l hl
    obtain ⟨m, hm, hmade⟩ := exists_of_mem_mapM hlines hl
    have hmember : l.member ∈ c.settings.enumMembers t.name values := by
      rw [(enumLine_ok hmade).2.2]
      exact hm
    exact steady_enumLine hc.settings (hbody values rfl) (hcalm values henum) hmember
  | @object interfaces fields members bags hobject hmembers hbags =>
    rw [hobject] at hbody
    rw [List.forall_mem_cons]
    have htypename : ∀ n ∈ c.typename t.name, OneLine n.name := by
      intro n hn
      unfold typename at hn
      split at hn
      · cases hn
      · cases hn
        exact oneLine_of_isName hname
    exact ⟨⟨htypeName, c.settings.oneLine_typeNames hc.settings hbody.1, htypename,
      hc.steady_outputs hbody.2 hmembers⟩, hc.steady_bags hname hbody.2 hbags⟩
  | interface hinterface hmembers hbags =>
    rw [hinterface] at hbody
    rw [List.forall_mem_cons]
    exact ⟨⟨htypeName, c.settings.oneLine_typeNames hc.settings hbody.1,
      hc.steady_outputs hbody.2 hmembers⟩, hc.steady_bags hname hbody.2 hbags⟩
  | union hunion hreferences =>
    rw [hunion] at hbody
    rw [List.forall_mem_singleton]
    refine ⟨htypeName, forall_of_mapM hreferences ?_⟩
    exact fun n hn _ hr => hc.lined_reference (hbody n hn) hr
  | oneOf hinput _ hvariants =>
    rw [hinput] at hbody
    rw [List.forall_mem_singleton]
    refine ⟨htypeName, forall_of_mapM hvariants ?_⟩
    exact fun given hgiven _ hv => hc.steady_variant hbody (hbody given hgiven) hv
  | input hinput _ hmembers =>
    rw [hinput] at hbody
    rw [List.forall_mem_singleton]
    exact ⟨htypeName, hc.steady_inputs hbody hmembers⟩

theorem steady_mappings : c.mappingsDeclaration.Steady := by
  have hname : OneLine directiveMappingsName := by decide
  refine ⟨hname, ?_⟩
  intro r hr
  obtain ⟨p, hp, rfl⟩ := List.mem_map.mp hr
  exact hc.mapped p hp

end Scope.Steady

/-! ## The whole run -/

namespace RunParts

variable {schema : Schema} {s : Settings}

theorem plain_mapped (p : RunParts schema s) (hs : s.Plain) :
    ∀ q ∈ p.mapped, PlainText q.1 ∧ OneLine q.2.display := by
  obtain ⟨ms, hms, _, _, _, hmapped⟩ := mappers_ok p
  obtain ⟨_, _, hms⟩ := bind_eq_ok.mp hms
  obtain ⟨directives, hdirectives, hms⟩ := bind_eq_ok.mp (mapError_eq_ok.mp hms)
  obtain ⟨_, _, hms⟩ := bind_eq_ok.mp hms
  rw [pure_eq_ok] at hms
  intro q hq
  rw [hmapped, ← hms] at hq
  rcases Table.mem_of_mem_putAll hq with hq | hq
  · cases hq
  · obtain ⟨row, hrow, rfl⟩ := List.mem_map.mp hq
    obtain ⟨entry, hentry, hmade⟩ := exists_of_mem_mapM hdirectives hrow
    obtain ⟨m, hm, rfl⟩ := map_eq_ok.mp hmade
    obtain ⟨hname, hvalue⟩ := hs.directiveMappings entry hentry
    exact ⟨hname, Mapper.oneLine_ofValue hm hvalue hname.1 hs.mappingSuffix⟩

/-- **Under plain options a run declares nothing that opens a comment but for its notes.** -/
theorem steady_declarations (p : RunParts schema s) (hs : s.Plain)
    (htypes : ∀ t ∈ schema.types, t.Proper) (hcalm : schema.Calm) :
    ∀ d ∈ p.emission.declarations, d.Steady := by
  have hc : p.scope.Steady := ⟨hs, htypes, p.plain_mapped hs⟩
  intro d hd
  rcases p.mem_declarations hd with rfl | rfl | ⟨t, ht, ds, hds, hd⟩
  · exact p.scope.steady_scalars (ScalarTable.steady_rows hs htypes p.scalars_ok)
  · exact hc.steady_mappings
  · have hin := (List.mem_filter.mp ht).1
    exact hc.steady_declared (htypes t hin) (hcalm t hin) (Scope.declared_of_ok hds) d hd

end RunParts

end Code

end SchemaTypings
