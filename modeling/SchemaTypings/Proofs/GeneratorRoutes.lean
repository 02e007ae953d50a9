import SchemaTypings.Console.Run
import SchemaTypings.Proofs.LanguageRuns
import SchemaTypings.Proofs.Precedence
import SchemaTypings.Proofs.RegistryRuns

/-!
# The two ways to a generator

A generator is created from options, or from a configuration that was loaded from them before, which
is what a command does. Both take the back end that the registry finds under the name. The first
loads the configuration of the language that the registry takes the name for, the second the one of
the name as it is given. A store has aliases of its own, so these may be two languages.
-/

open SchemaTypings.Outcome

namespace SchemaTypings

namespace Registry

/-- Creates a generator from a configuration that is loaded under the same name. -/
def prepare (r : Registry Backend) (store : ConfigStore) (folder : Folder) (name : String)
    (pairs : List (String × Value)) : Except Console.SetupError Generator := do
  let config ← (store.config folder name (.object pairs)).2.mapError .config
  (r.create store folder name (.ready config)).mapError .registry

section

variable {r : Registry Backend} {store : ConfigStore} {folder : Folder} {name : String}
  {pairs : List (String × Value)} {g : Generator}

theorem generatorFor_eq_prepare {a : Console.Arguments}
    (hpairs : Console.parseOverrides a.overrides = .ok pairs) (hfile : a.config.getD "" = "") :
    Console.generatorFor r store folder a name = r.prepare store folder name pairs := by
  rw [Console.generatorFor, Console.configFor, hpairs, hfile]
  rfl

theorem create_eq_ok {source : ConfigSource} :
    r.create store folder name source = .ok g ↔ ∃ b, r.find name = .ok b ∧
      ∃ c, configFrom store folder (r.resolve name) name source = .ok c ∧
        b.generator? c = some g := by
  unfold create
  rw [bind_eq_ok]
  refine exists_congr fun b => and_congr_right fun _ => ?_
  rw [bind_eq_ok]
  refine exists_congr fun c => and_congr_right fun _ => ?_
  cases b.generator? c with
  | none => exact ⟨nofun, nofun⟩
  | some g' => exact pure_eq_ok.trans Option.some_inj.symm

theorem create_options_eq_ok :
    r.create store folder name (.options pairs) = .ok g ↔ ∃ b, r.find name = .ok b ∧
      ∃ c, (store.config folder (r.resolve name) (.object pairs)).2 = .ok c ∧
        b.generator? c = some g := by
  rw [create_eq_ok]
  refine exists_congr fun b => and_congr_right fun _ => exists_congr fun c => ?_
  rw [configFrom, configFrom.load, mapError_eq_ok]

theorem prepare_eq_ok :
    r.prepare store folder name pairs = .ok g ↔ ∃ b, r.find name = .ok b ∧
      ∃ c, (store.config folder name (.object pairs)).2 = .ok c ∧ b.generator? c = some g := by
  unfold prepare
  rw [bind_eq_ok]
  simp only [mapError_eq_ok, create_eq_ok, configFrom, Except.ok.injEq]
  constructor
  · rintro ⟨c, hc, b, hb, _, rfl, hg⟩
    exact ⟨b, hb, c, hc, hg⟩
  · rintro ⟨b, hb, c, hc, hg⟩
    exact ⟨c, hc, b, hb, c, rfl, hg⟩

theorem config_eq_ok_congr {name' : String} (h : store.resolve name = store.resolve name')
    (custom : Value) (c : Config) :
    (store.config folder name custom).2 = .ok c ↔ (store.config folder name' custom).2 = .ok c := by
  unfold ConfigStore.config
  rw [h]
  cases Table.get? store.languages (store.resolve name') with
  | none => exact ⟨nofun, nofun⟩
  | some known => rfl

/-- The two ways fail both, or they give one generator. -/
def Agrees (r : Registry Backend) (store : ConfigStore) (name : String) : Prop :=
  ∀ folder pairs g, r.prepare store folder name pairs = .ok g ↔
    r.create store folder name (.options pairs) = .ok g

theorem agrees_of_resolve (h : store.resolve name = store.resolve (r.resolve name)) :
    r.Agrees store name := by
  intro folder pairs g
  rw [prepare_eq_ok, create_options_eq_ok]
  simp only [config_eq_ok_congr h]

end

/-! ## Runs of both -/

/-- The registry after some calls on the one that is there from the start. -/
def opened (calls : List (Call Backend)) : Registry Backend := calls.foldl Call.run builtin

theorem sound_opened (calls : List (Call Backend)) : (opened calls).Sound :=
  sound_after (.register "typescript" (some Code.backend) ["ts"] false :: calls)

theorem lowerString_resolve {γ : Type} {r : Registry γ} (hr : r.Sound) (name : String) :
    Text.lowerString (r.resolve name) = r.resolve name := by
  rw [resolve_eq]
  cases hword : Table.get? r.aliases (Text.lowerString name) with
  | none => exact Text.lowerString_lowerString name
  | some target => exact hr.small target (hr.listed _ target hword)

end Registry

theorem Backend.config_of_generator? {b : Backend} {c : Config} {g : Generator}
    (h : b.generator? c = some g) : g.config = c := by
  unfold Backend.generator? at h
  split at h
  · cases h
    rfl
  · cases h

theorem LanguageOptions.kind_of_config {known : LanguageOptions} {folder : Folder} {custom : Value}
    {file : String} {c : Config} (h : (known.config folder custom file).2 = .ok c) :
    c.kind = known.family := by
  unfold LanguageOptions.config at h
  cases hmerged : ConfigStore.merged known folder custom file with
  | error e =>
    rw [hmerged] at h
    cases h
  | ok pairs =>
    rw [hmerged] at h
    simp only [Config.ofValue, Config.ofPairs, Config.ofTable_eq_ofOptions] at h
    exact (Config.get?_toPairs_of_ofOptions h).1

namespace Registration

/-- A back end makes a generator of the configuration for a language. -/
def Makes (known : List Registration) (language : String) (folder : Folder)
    (pairs : List (String × Value)) (b : Backend) (g : Generator) : Prop :=
  ∃ own c, lastOf? known language = some own ∧
    (own.options.config folder (.object pairs) "").2 = .ok c ∧ b.generator? c = some g

theorem exists_config_iff {known : List Registration} {folder : Folder} {name : String}
    {pairs : List (String × Value)} {b : Backend} {g : Generator} :
    (∃ c, ((after known).config folder name (.object pairs)).2 = .ok c ∧ b.generator? c = some g) ↔
      Makes known ((after known).resolve name) folder pairs b g := by
  cases hknown : lastOf? known ((after known).resolve name) with
  | none =>
    have hlanguage := get?_languages_after known ((after known).resolve name)
    rw [hknown] at hlanguage
    simp [Makes, hknown, ConfigStore.config, hlanguage]
  | some own => simp [Makes, hknown, config_of_lastOf? rfl hknown]

/-- The family of configurations that a language takes, if it is known. -/
def family? (known : List Registration) (language : String) : Option ConfigClass :=
  (lastOf? known language).map Registration.family

theorem family?_of_makes {known : List Registration} {language : String} {folder : Folder}
    {pairs : List (String × Value)} {b : Backend} {g : Generator}
    (h : Makes known language folder pairs b g) : family? known language = some g.config.kind := by
  obtain ⟨own, c, hown, hconfig, hg⟩ := h
  rw [family?, hown, Option.map_some, Backend.config_of_generator? hg]
  exact congrArg some (LanguageOptions.kind_of_config hconfig).symm

end Registration

namespace Registry

/-! ## Registering with both at once -/

/-- Each alias of the registry is one of the store, for a language that is no alias of another. -/
structure InStep {γ : Type} (r : Registry γ) (store : ConfigStore) : Prop where
  shared : ∀ word target, Table.get? r.aliases word = some target →
    Table.get? store.aliases word = some target
  itself : ∀ word target, Table.get? r.aliases word = some target →
    (Table.get? store.aliases target).getD target = target

section

variable {r : Registry Backend} {store : ConfigStore}

theorem resolve_of_inStep (hr : r.Sound) (h : r.InStep store) (name : String) :
    store.resolve name = store.resolve (r.resolve name) := by
  rw [ConfigStore.resolve, ConfigStore.resolve, lowerString_resolve hr, resolve_eq]
  cases hword : Table.get? r.aliases (Text.lowerString name) with
  | none => rfl
  | some target =>
    rw [h.shared _ target hword, Option.getD_some]
    exact (h.itself _ target hword).symm

theorem inStep_builtin : builtin.InStep ConfigStore.builtin where
  shared := fun _ _ h => h
  itself := by
    intro word target hword
    obtain ⟨-, rfl⟩ := Prod.mk.inj (List.mem_singleton.mp (Table.mem_of_get? hword))
    rfl

/-- A new language that both are told of in the same way, under a name that the store takes for
nothing else, and with aliases that the registry does not refuse. -/
structure Welcomes (r : Registry Backend) (store : ConfigStore) (call : Registration) : Prop where
  unlisted : Table.has r.generators call.key = false
  itself : (Table.get? store.aliases call.key).getD call.key = call.key
  accepted : ∀ a ∈ call.aliases, ¬r.Refuses call.key a

theorem register_of_welcomes {call : Registration} (h : r.Welcomes store call) (b : Backend) :
    r.register call.language (some b) call.aliases =
      (r.store call.key b call.aliases, .ok ()) := by
  have hnew : (Table.has r.generators (Text.lowerString call.language) && !false) = false := by
    rw [← Registration.key, h.unlisted, Bool.false_and]
  unfold register
  simp only [hnew, Bool.false_eq_true, if_false]
  exact addAliases_accepted fun a ha => mt refuses_generators_iff.mp (h.accepted a ha)

theorem lists_eq_false_of_welcomes (hr : r.Sound) (h : r.InStep store) {call : Registration}
    (hcall : r.Welcomes store call) {word target : String}
    (hword : Table.get? r.aliases word = some target) :
    call.lists word = false ∧ call.lists target = false := by
  have hlisted := (Table.mem_keys_iff _ _).mp (hr.listed word target hword)
  -- A welcome language is new, and the store takes its name for itself.
  have htarget : target ≠ call.key := by
    rintro rfl
    exact Bool.false_ne_true (hcall.unlisted.symm.trans hlisted)
  have hself : word ≠ call.key := by
    rintro rfl
    have hitself := hcall.itself
    rw [h.shared _ target hword, Option.getD_some] at hitself
    exact htarget hitself
  simp only [← Bool.not_eq_true, Registration.lists, List.contains_iff_mem, List.mem_map]
  constructor
  · rintro ⟨a, ha, rfl⟩
    exact hcall.accepted a ha ⟨hself, Or.inr ⟨target, hword, htarget⟩⟩
  · rintro ⟨a, ha, rfl⟩
    exact hcall.accepted a ha ⟨htarget, Or.inl hlisted⟩

theorem inStep_register (hr : r.Sound) (h : r.InStep store) {call : Registration}
    (hcall : r.Welcomes store call) (b : Backend) :
    (r.register call.language (some b) call.aliases).1.InStep (call.run store) := by
  rw [register_of_welcomes hcall]
  -- An alias is one of the new ones, or it was there before.
  have hsplit : ∀ word target, Table.get? (r.store call.key b call.aliases).aliases word =
      some target → (call.lists word = true ∧ target = call.key) ∨
        Table.get? r.aliases word = some target := by
    intro word target hword
    rw [get?_aliases_store] at hword
    split at hword
    · next hmem => exact Or.inl ⟨List.contains_iff_mem.mpr hmem.2, (Option.some.inj hword).symm⟩
    · exact Or.inr hword
  constructor
  · intro word target hword
    rw [Registration.get?_aliases_run]
    rcases hsplit word target hword with ⟨hnew, rfl⟩ | hold
    · rw [if_pos hnew]
    · rw [(lists_eq_false_of_welcomes hr h hcall hold).1, if_neg Bool.false_ne_true]
      exact h.shared word target hold
  · intro word target hword
    rw [Registration.get?_aliases_run]
    rcases hsplit word target hword with ⟨-, rfl⟩ | hold
    · split
      · rfl
      · exact hcall.itself
    · rw [(lists_eq_false_of_welcomes hr h hcall hold).2, if_neg Bool.false_ne_true]
      exact h.itself word target hold

theorem inStep_unregister (hr : r.Sound) (h : r.InStep store) (name : String) :
    (r.unregister name).InStep store := by
  have haliases : ∀ word target, Table.get? (r.unregister name).aliases word = some target →
      Table.get? r.aliases word = some target := by
    intro word target hword
    rw [get?_aliases_unregister hr] at hword
    split at hword
    · cases hword
    · exact hword
  exact ⟨fun word target hword => h.shared word target (haliases word target hword),
    fun word target hword => h.itself word target (haliases word target hword)⟩

/-- Registries and stores that are told of new languages together, and lose them in the registry. -/
inductive Joined : Registry Backend → ConfigStore → Prop
  | start : Joined builtin ConfigStore.builtin
  | register {r : Registry Backend} {store : ConfigStore} {call : Registration}
      (h : Joined r store) (b : Backend) (hcall : r.Welcomes store call) :
      Joined (r.register call.language (some b) call.aliases).1 (call.run store)
  | unregister {r : Registry Backend} {store : ConfigStore} (h : Joined r store) (name : String) :
      Joined (r.unregister name) store

theorem Joined.sound_inStep (h : Joined r store) : r.Sound ∧ r.InStep store := by
  induction h with
  | start => exact ⟨sound_opened [], inStep_builtin⟩
  | register h b hcall ih =>
    exact ⟨sound_register ih.1 _ _ _ _, inStep_register ih.1 ih.2 hcall b⟩
  | unregister h name ih => exact ⟨sound_unregister ih.1 name, inStep_unregister ih.1 ih.2 name⟩

end

/-! ## Where the ways agree -/

open Registration (owner? family? Makes)

section

variable {r : Registry Backend} {known : List Registration} {folder : Folder} {name : String}
  {pairs : List (String × Value)} {g : Generator}

theorem prepare_iff_makes :
    r.prepare (Registration.after known) folder name pairs = .ok g ↔ ∃ b, r.find name = .ok b ∧
      Makes known ((Registration.after known).resolve name) folder pairs b g := by
  simp only [prepare_eq_ok, Registration.exists_config_iff]

theorem create_iff_makes :
    r.create (Registration.after known) folder name (.options pairs) = .ok g ↔
      ∃ b, r.find name = .ok b ∧
        Makes known ((Registration.after known).resolve (r.resolve name)) folder pairs b g := by
  simp only [create_options_eq_ok, Registration.exists_config_iff]

theorem family?_eq_of_both
    (hprepare : r.prepare (Registration.after known) folder name pairs = .ok g)
    (hcreate : r.create (Registration.after known) folder name (.options pairs) = .ok g) :
    family? known ((Registration.after known).resolve name) =
      family? known ((Registration.after known).resolve (r.resolve name)) := by
  obtain ⟨_, -, hgiven⟩ := prepare_iff_makes.mp hprepare
  obtain ⟨_, -, hmeant⟩ := create_iff_makes.mp hcreate
  exact (Registration.family?_of_makes hgiven).trans (Registration.family?_of_makes hmeant).symm

end

/-- **Both ways use the back end under the name, with the configuration of what the store takes the
name for as it is given, or as the registry resolves it.** They agree if these are one language, as
they are for every name that is no alias in the registry, and wherever registry and store were told
of new languages together. If they are two, the ways agree only as far as the back end makes the
same of both. If one of the two is not known, or they have configurations of two families, it must
make nothing of either. -/
theorem routes_agree_iff (calls : List (Call Backend)) (known : List Registration)
    (name : String) :
    let r := opened calls
    let store := Registration.after known
    let word := Text.lowerString name
    let given := (owner? known word).getD word
    let meant := (owner? known (r.resolve name)).getD (r.resolve name)
    (∀ folder pairs (a : Console.Arguments), Console.parseOverrides a.overrides = .ok pairs →
      a.config.getD "" = "" →
        Console.generatorFor r store folder a name = r.prepare store folder name pairs) ∧
    (∀ folder pairs g,
      (r.prepare store folder name pairs = .ok g ↔
        ∃ b, r.find name = .ok b ∧ Makes known given folder pairs b g) ∧
      (r.create store folder name (.options pairs) = .ok g ↔
        ∃ b, r.find name = .ok b ∧ Makes known meant folder pairs b g)) ∧
    (Table.get? r.aliases word = none → given = meant) ∧
    (given = meant → r.Agrees store name) ∧
    (Joined r store → given = meant) ∧
    (r.Agrees store name ↔ ∀ b, r.find name = .ok b → ∀ folder pairs g,
      Makes known given folder pairs b g ↔ Makes known meant folder pairs b g) ∧
    (family? known given ≠ family? known meant →
      (r.Agrees store name ↔ ∀ folder pairs g, r.prepare store folder name pairs ≠ .ok g ∧
        r.create store folder name (.options pairs) ≠ .ok g)) := by
  intro r store word given meant
  have hgiven : store.resolve name = given := by
    rw [ConfigStore.resolve, Registration.get?_aliases_after]
  have hmeant : store.resolve (r.resolve name) = meant :=
    Registration.resolve_after (lowerString_resolve (sound_opened calls) name)
  -- All other parts compare these two descriptions.
  have hways : ∀ folder pairs g,
      (r.prepare store folder name pairs = .ok g ↔
        ∃ b, r.find name = .ok b ∧ Makes known given folder pairs b g) ∧
      (r.create store folder name (.options pairs) = .ok g ↔
        ∃ b, r.find name = .ok b ∧ Makes known meant folder pairs b g) := by
    intro folder pairs g
    rw [← hgiven, ← hmeant]
    exact ⟨prepare_iff_makes, create_iff_makes⟩
  refine ⟨fun folder pairs a => generatorFor_eq_prepare, hways, fun hword => ?_, fun hsame => ?_,
    fun hjoined => ?_, ⟨fun hagrees b hb folder pairs g => ?_, fun hsame folder pairs g => ?_⟩,
    fun hfamily => ⟨fun hagrees folder pairs g => ?_, fun hnone folder pairs g => ?_⟩⟩
  · have hresolve : r.resolve name = word := by rw [resolve_eq, hword, Option.getD_none]
    simp only [meant, hresolve, given]
  · exact agrees_of_resolve ((hgiven.trans hsame).trans hmeant.symm)
  · rw [← hgiven, ← hmeant]
    exact resolve_of_inStep hjoined.sound_inStep.1 hjoined.sound_inStep.2 name
  · have hboth := hagrees folder pairs g
    rw [(hways folder pairs g).1, (hways folder pairs g).2, hb] at hboth
    simpa using hboth
  · rw [(hways folder pairs g).1, (hways folder pairs g).2]
    exact exists_congr fun b => and_congr_right fun hb => hsame b hb folder pairs g
  · rw [← hgiven, ← hmeant] at hfamily
    have hboth := hagrees folder pairs g
    exact ⟨fun h => hfamily (family?_eq_of_both h (hboth.mp h)),
      fun h => hfamily (family?_eq_of_both (hboth.mpr h) h)⟩
  · exact iff_of_false (hnone folder pairs g).1 (hnone folder pairs g).2

/-- The alias `ts` is forced to be one of another language, of which the store does not know. -/
theorem routes_agree_iff_diverted :
    let calls : List (Call Backend) := [.register "other" (some Code.backend) ["ts"] true]
    let r := opened calls
    let store := Registration.after []
    (∃ g, r.prepare store {} "ts" [] = .ok g) ∧
    (∀ g, r.create store {} "ts" (.options []) ≠ .ok g) ∧ ¬r.Agrees store "ts" := by
  intro calls r store
  have hprepare : (r.prepare store {} "ts" []).toOption.isSome = true := by decide +kernel
  obtain ⟨g, hg⟩ := Option.isSome_iff_exists.mp hprepare
  obtain ⟨-, hways, -⟩ := routes_agree_iff calls [] "ts"
  have hcreate : ∀ g, r.create store {} "ts" (.options []) ≠ .ok g := by
    intro g hg
    obtain ⟨-, -, own, -, hown, -⟩ := (hways {} [] g).2.mp hg
    have hunknown : (Registration.lastOf? []
        ((owner? [] (r.resolve "ts")).getD (r.resolve "ts"))).isNone = true := by
      decide +kernel
    rw [hown] at hunknown
    cases hunknown
  exact ⟨⟨g, toOption_eq_some.mp hg⟩, hcreate,
    fun hagrees => hcreate g ((hagrees {} [] g).mp (toOption_eq_some.mp hg))⟩

end Registry

end SchemaTypings
