import SchemaTypings.Generator.Run
import SchemaTypings.Proofs.ConfigLimits
import SchemaTypings.Proofs.Emission
import SchemaTypings.Proofs.OptionKeys

/-!
# The ways to a run agree

Options can be given to the declarations of a schema directly, or to a generator that is looked up by
its language. The second way reads them twice, over the defaults of the language, and looks for
warnings first. Both come to the same configuration, and no warning fails where the declarations can
be written.
-/

open SchemaTypings.Outcome

namespace SchemaTypings

/-! ## One configuration -/

/-- The configuration of a language, with the warnings that reading it gives. -/
def LanguageOptions.config (known : LanguageOptions) (folder : Folder) (custom : Value)
    (file : String) (room : Room := .ample) : List String × Except ConfigError Config :=
  match ConfigStore.merged known folder custom file room with
  | .error e => ([], .error e)
  | .ok pairs => Config.ofValue known.family (.object pairs) room

namespace ConfigStore

/-- What the store knows from the start of the one language it has. -/
def builtinOptions : LanguageOptions :=
  { family := .types
    defaults := [("naming_convention", .text "pascalCase"), ("declaration_kind", .text "type"),
      ("default_scalar_type", .text "any")] }

theorem normalKeys_builtin : NormalKeys builtinOptions.defaults := by
  constructor <;> decide

theorem ofTable_builtin : Options.ofTable builtinOptions.defaults = Options.defaults := by
  funext o
  cases o <;> rfl

theorem merged_builtin (folder : Folder) (pairs : List (String × Value)) {room : Room} :
    ∃ t, merged builtinOptions folder (.object pairs) "" room = .ok t ∧ NormalKeys t ∧
      Options.ofTable t = Options.ofTable (normalizeKeys pairs) := by
  have hnormal := normalKeys_normalizeKeys pairs
  cases pairs with
  | nil => exact ⟨_, rfl, normalKeys_builtin, ofTable_builtin⟩
  | cons p rest =>
    refine ⟨_, rfl, normalKeys_builtin.putAll hnormal, ?_⟩
    exact Options.ofTable_putAll ofTable_builtin hnormal.distinct

theorem config_of_known {s : ConfigStore} {language : String} {known : LanguageOptions}
    (h : Table.get? s.languages (s.resolve language) = some known) (folder : Folder)
    (custom : Value) (file : String) {room : Room} :
    s.config folder language custom file room = known.config folder custom file room := by
  unfold config
  rw [h]
  rfl

theorem config_eq_merged (folder : Folder) (custom : Value) (file : String)
    {room : Room} : builtin.config folder "typescript" custom file room =
      match merged builtinOptions folder custom file room with
      | .error e => ([], .error e)
      | .ok pairs => Config.ofValue .types (.object pairs) room :=
  config_of_known rfl folder custom file

theorem config_builtin (folder : Folder) (pairs : List (String × Value)) {room : Room} :
    (builtin.config folder "typescript" (.object pairs) "" room).2 =
      (TypesConfig.ofOptions (Options.ofTable (normalizeKeys pairs)) room).map .types := by
  obtain ⟨t, hmerged, hnormal, ht⟩ := @merged_builtin folder pairs room
  rw [config_eq_merged, hmerged]
  simp only [Config.ofValue, Config.ofPairs, Config.ofTable]
  rw [hnormal.normalizeKeys, ht]

end ConfigStore

/-- The generator of the built-in language under a configuration. -/
def Code.generator (config : TypesConfig) : Generator :=
  { backend := Code.backend, config := .types config, engine := _, fits := rfl }

theorem Registry.create_builtin (folder : Folder) (pairs : List (String × Value)) :
    builtin.create ConfigStore.builtin folder "typescript" (.options pairs) =
      ((TypesConfig.ofOptions (Options.ofTable (normalizeKeys pairs))).map Code.generator).mapError
        (.notCreated "typescript") := by
  have hload : configFrom ConfigStore.builtin folder "typescript" "typescript" (.options pairs) =
      ((TypesConfig.ofOptions (Options.ofTable (normalizeKeys pairs))).map Config.types).mapError
        (.ofConfig "typescript") := by
    rw [← ConfigStore.config_builtin folder]
    rfl
  have hfind : builtin.find "typescript" = .ok Code.backend := rfl
  have hresolve : builtin.resolve "typescript" = "typescript" := rfl
  unfold create
  rw [hfind, hresolve, ok_bind, hload]
  cases hconfig : TypesConfig.ofOptions (Options.ofTable (normalizeKeys pairs)) with
  | ok config => rfl
  | error e =>
    cases e with
    | limit l => exact absurd (overfull_of_limit hconfig).2 (not_overfull_ample _)
    | _ => rfl

/-! ## No warning fails -/

namespace Code

variable {schema : Schema} {s : Settings}

theorem exists_collisionWarnings {c : Scope} {t : NamedType} {ds : List Declaration}
    (h : c.declarationsFor t = .ok ds) : ∃ ws, collisionWarnings c.settings t = .ok ws := by
  unfold collisionWarnings
  cases Scope.declared_of_ok h with
  | scalar hbody => exact ⟨_, by rw [hbody]; rfl⟩
  | externalEnum hbody hexternal => exact ⟨_, by rw [hbody]; simp only [hexternal]; rfl⟩
  | localEnum hbody hlocal => exact ⟨_, by rw [hbody]; simp only [hlocal]; rfl⟩
  | object hbody => exact ⟨_, by rw [hbody]; rfl⟩
  | interface hbody => exact ⟨_, by rw [hbody]; rfl⟩
  | union hbody => exact ⟨_, by rw [hbody]; rfl⟩
  | oneOf hbody => exact ⟨_, by rw [hbody]; rfl⟩
  | input hbody => exact ⟨_, by rw [hbody]; rfl⟩

theorem exists_warnings {out : Output} (h : emit schema s = .ok out) :
    ∃ ws, warnings schema s = .ok ws := by
  obtain ⟨e, he, _⟩ := emission_of_emit h
  obtain ⟨p, _⟩ := exists_parts he
  have htype : ∀ t ∈ schema.userTypes, ∃ ws, collisionWarnings s t = .ok ws := by
    intro t ht
    obtain ⟨ds, hds, _⟩ := p.declarationsFor_ok ht
    exact exists_collisionWarnings hds
  obtain ⟨ws, hws⟩ := exists_mapM htype
  exact ⟨_, bind_eq_ok.mpr ⟨ws, hws, rfl⟩⟩

end Code

/-! ## One run -/

open Code

/-- The report of a run that looks the built-in generator up by its language. -/
def builtinReport (folder : Folder) (options : List (String × Value)) (schema : Schema) :
    Except RegistryError RunReport :=
  (generateFrom Registry.builtin ConfigStore.builtin folder "typescript" (.options options)
    schema).map RunReport.ofRun

theorem run_generator (config : TypesConfig) (schema : Schema) :
    ((generator config).run schema).toOption.map RunResult.code =
      (emit schema config.settings).toOption.map fun o => tidy o.merged := by
  have hrun : (generator config).run schema =
      warnings schema config.settings >>= fun ws => emit schema config.settings >>= fun o =>
        pure { code := tidy o.merged, warnings := ws,
               facts := { language := "typescript", extension := ".ts",
                          types := schema.userTypes.length, declarations := o.content.length,
                          preludeLines := o.prepend.length } } := rfl
  rw [hrun]
  cases hemit : emit schema config.settings with
  | ok o =>
    obtain ⟨ws, hws⟩ := exists_warnings hemit
    rw [hws]
    rfl
  | error e => cases warnings schema config.settings <;> rfl

/-- What a report says of the code, given what the direct way gives. -/
def RunReport.Matches (r : RunReport) : Except PluginError Output → Prop
  | .ok o => r.success = true ∧ r.code = tidy o.merged
  | .error _ => r.success = false ∧ r.code = ""

variable {config : TypesConfig} {options : List (String × Value)}

theorem plugin_of_config (h : configOf (.object options) = .ok config) (schema : Schema) :
    plugin schema (.object options) = (emit schema config.settings).mapError .emit := by
  rw [plugin, h]
  rfl

theorem matches_run (h : configOf (.object options) = .ok config) (schema : Schema) :
    (RunReport.ofRun ((generator config).run schema)).Matches (plugin schema (.object options)) := by
  have hrun := run_generator config schema
  rw [plugin_of_config h]
  cases hemit : emit schema config.settings with
  | ok o =>
    rw [hemit] at hrun
    obtain ⟨r, hr, hcode⟩ := Option.map_eq_some_iff.mp hrun
    rw [toOption_eq_some.mp hr]
    exact ⟨rfl, hcode⟩
  | error e =>
    cases hr : (generator config).run schema with
    | ok r =>
      rw [hemit, hr] at hrun
      cases hrun
    | error e' => exact ⟨rfl, rfl⟩

theorem generateFrom_builtin (folder : Folder) (options : List (String × Value))
    (schema : Schema) :
    generateFrom Registry.builtin ConfigStore.builtin folder "typescript" (.options options) schema =
      ((TypesConfig.ofOptions (Options.ofTable (normalizeKeys options))).map fun config =>
        (generator config).run schema).mapError (.notCreated "typescript") := by
  rw [generateFrom, Registry.create_builtin]
  cases TypesConfig.ofOptions (Options.ofTable (normalizeKeys options)) <;> rfl

theorem quickGenerate_eq_ok {r : Registry Backend} {store : ConfigStore} {folder : Folder}
    {language : String} {schema : Schema} {code : String} :
    quickGenerate r store folder language options schema = .ok code ↔
      (∀ key ∈ Table.keys options, key ∉ quickParameters) ∧ ∃ run : RunResult,
        generateFrom r store folder language (.options options) schema = .ok (.ok run) ∧
          run.code = code := by
  have hfree : (Table.keys options).find? quickParameters.contains = none ↔
      ∀ key ∈ Table.keys options, key ∉ quickParameters := by
    simp [List.find?_eq_none]
  unfold quickGenerate
  cases hkey : (Table.keys options).find? quickParameters.contains with
  | some key =>
    refine ⟨nofun, fun h => ?_⟩
    rw [hfree.mpr h.1] at hkey
    cases hkey
  | none =>
    rw [and_iff_right (hfree.mp hkey)]
    cases generateFrom r store folder language (.options options) schema with
    | error e => exact ⟨nofun, nofun⟩
    | ok run =>
      cases run with
      | error e => exact ⟨nofun, nofun⟩
      | ok run => simp [Except.mapError, bind, Except.bind, pure, Except.pure]

/-- **Both ways agree.** Options are rejected on one way for the reason for which they are on the
other. Where they are accepted there is a report, with the code of the output if there is an output
and with no code otherwise. A short run gives the code of the output as it is. -/
theorem entry_points_agree (folder : Folder) (schema : Schema) (options : List (String × Value)) :
    (∀ e, plugin schema (.object options) = .error (.config e) ↔
      builtinReport folder options schema = .error (.notCreated "typescript" e)) ∧
    (∀ f, builtinReport folder options schema = .error f → ∃ e, f = .notCreated "typescript" e) ∧
    (∀ config, configOf (.object options) = .ok config → ∃ r,
      builtinReport folder options schema = .ok r ∧ r.Matches (plugin schema (.object options))) ∧
    (∀ code, quickGenerate Registry.builtin ConfigStore.builtin folder "typescript" options schema =
        .ok code ↔
      (∀ key ∈ Table.keys options, key ∉ quickParameters) ∧
        ∃ o, plugin schema (.object options) = .ok o ∧ code = tidy o.merged) := by
  have hconfig : configOf (.object options) =
      (TypesConfig.ofOptions (Options.ofTable (normalizeKeys options))).mapError .config := rfl
  have hgenerate := generateFrom_builtin folder options schema
  have hreport : builtinReport folder options schema = (generateFrom Registry.builtin
    ConfigStore.builtin folder "typescript" (.options options) schema).map RunReport.ofRun := rfl
  -- Both ways read the options in the same manner; what they do with an error differs.
  cases hread : TypesConfig.ofOptions (Options.ofTable (normalizeKeys options)) with
  | error e =>
    rw [hread] at hconfig hgenerate
    have hgenerate : generateFrom Registry.builtin ConfigStore.builtin folder "typescript"
        (.options options) schema = .error (.notCreated "typescript" e) := hgenerate
    rw [hgenerate] at hreport
    have hreport : builtinReport folder options schema = .error (.notCreated "typescript" e) :=
      hreport
    have hplugin : plugin schema (.object options) = .error (.config e) := by
      rw [plugin, hconfig]
      rfl
    simp [hreport, hplugin, quickGenerate_eq_ok, hgenerate, hconfig, Except.mapError]
  | ok config =>
    rw [hread] at hconfig hgenerate
    have hgenerate : generateFrom Registry.builtin ConfigStore.builtin folder "typescript"
        (.options options) schema = .ok ((generator config).run schema) := hgenerate
    rw [hgenerate] at hreport
    have hplugin := plugin_of_config hconfig schema
    refine ⟨fun e => ?_, fun f hf => ?_, fun config' _ => ?_, fun code => ?_⟩
    · refine iff_of_false (fun h => ?_) (fun h => ?_)
      · rw [hplugin] at h
        cases hemit : emit schema config.settings <;> rw [hemit] at h <;> cases h
      · rw [hreport] at h
        cases h
    · rw [hreport] at hf
      cases hf
    · exact ⟨_, hreport, matches_run hconfig schema⟩
    · rw [quickGenerate_eq_ok, hgenerate]
      refine and_congr_right fun _ => ?_
      have hcode := congrArg (· = some code) (run_generator config schema)
      simp only [Option.map_eq_some_iff, toOption_eq_some, eq_iff_iff] at hcode
      simpa only [Except.ok.injEq, hplugin, mapError_eq_ok, @eq_comm _ code] using hcode

end SchemaTypings
