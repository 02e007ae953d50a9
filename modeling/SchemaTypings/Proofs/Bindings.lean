import SchemaTypings.Proofs.Emission
import SchemaTypings.Proofs.Ledger
import SchemaTypings.Proofs.Mapper
import SchemaTypings.Proofs.Scalars

/-!
# What the imports of a run bind

Scalars, mapped directives and enums each ask for symbols of other modules, in this order. The last
one that asks for a symbol names it.
-/

open SchemaTypings.Outcome

namespace SchemaTypings.Code

open ImportLedger (Statement Holds)

/-! ## The mappers of a run -/

/-- The mappers of a run with the names that they stand for, in the order in which they are read. -/
structure RunMappers where
  scalars : List (String × Mapper)
  directives : List (String × Mapper)
  enums : List (String × Mapper)

namespace RunMappers

def ofDirective (s : Settings) (entry : String × Value) : Except MappingError (String × Mapper) :=
  (Mapper.ofValue entry.2 entry.1 s.mappingSuffix).map fun m => (entry.1, m)

def ofEnum (s : Settings) (t : NamedType) : Except MappingError (Option (String × Mapper)) :=
  (s.externalEnum? t.name).map fun m => m.map fun m => (t.name, m)

def ofSchema (schema : Schema) (s : Settings) : Except EmitError RunMappers := do
  let scalars ← ScalarTable.ofSchema schema s
  EmitError.ofMapping do
    let directives ← s.directiveMappings.mapM (ofDirective s)
    let enums ← (schema.userTypes.filter Emission.isEnum).mapM (ofEnum s)
    return { scalars := scalars.rows, directives, enums := enums.filterMap id }

def all (ms : RunMappers) : List (String × Mapper) := ms.scalars ++ ms.directives ++ ms.enums

def sources (ms : List (String × Mapper)) : List ImportSource := ms.filterMap fun m => m.2.source

/-- What is written for a list of mappers. -/
def types (ms : List (String × Mapper)) : List (String × Value) := ms.map fun m => (m.1, m.2.type)

end RunMappers

/-! ## Scalars -/

open RunMappers (sources types)

theorem sources_append (ms ms' : List (String × Mapper)) :
    sources (ms ++ ms') = sources ms ++ sources ms' := List.filterMap_append

theorem sources_singleton (m : String × Mapper) : sources [m] = m.2.source.toList := by
  unfold sources
  cases hm : m.2.source <;> simp [hm]

theorem holds_register {t : ScalarTable} {ledger ledger' : ImportLedger} {is : List ImportSource}
    (h : ledger.Holds is) (hregister : t.register ledger = .ok ledger') :
    ledger'.Holds (is ++ sources t.rows) := by
  have hrun := foldlM_invariant (fun done l => l.Holds (is ++ done.filterMap Mapper.source)) ?_
    hregister (by simpa using h)
  · rw [Table.values, List.filterMap_map] at hrun
    exact hrun
  · intro done m l l' hl hadd
    have hnext := ImportLedger.holds_addMapper hl hadd
    rw [List.filterMap_append, ← List.append_assoc]
    cases hm : m.source <;> simpa [hm] using hnext

/-! ## Directives -/

theorem holds_directives {s : Settings} {ledger : ImportLedger} {is : List ImportSource}
    (h : ledger.Holds is) {entries : List (String × Value)}
    {state : Table String Value × ImportLedger}
    (hrun : entries.foldlM (Emission.mapDirective s) ([], ledger) = .ok state) :
    ∃ ms, entries.mapM (RunMappers.ofDirective s) = .ok ms ∧ state.2.Holds (is ++ sources ms) ∧
      state.1 = Table.ofPairs (types ms) := by
  -- The ledger holds the symbols of the entries that are done, and the table their types.
  refine foldlM_invariant (fun done state => ∃ ms, done.mapM (RunMappers.ofDirective s) = .ok ms ∧
    state.2.Holds (is ++ sources ms) ∧ state.1 = Table.ofPairs (types ms))
    ?_ hrun ⟨[], rfl, by simpa [sources] using h, rfl⟩
  rintro done entry state state' ⟨ms, hms, hholds, hmapped⟩ hstep
  obtain ⟨m, hm, hstep⟩ := bind_eq_ok.mp hstep
  obtain ⟨next, hnext, hstep⟩ := bind_eq_ok.mp hstep
  rw [pure_eq_ok] at hstep
  refine ⟨ms ++ [(entry.1, m)], ?_, ?_, ?_⟩
  · have hentry : RunMappers.ofDirective s entry = .ok (entry.1, m) := map_eq_ok.mpr ⟨m, hm, rfl⟩
    exact mapM_snoc hms hentry
  · rw [← hstep, sources_append, sources_singleton, ← List.append_assoc]
    exact ImportLedger.holds_addMapper hholds hnext
  · rw [← hstep, hmapped]
    simp [types, Table.ofPairs, Table.putAll]

/-! ## Enums -/

theorem addEnum_ok {ledger ledger' : ImportLedger} {s : Settings} {enum : String}
    (h : ledger.addEnum s enum = .ok ledger') :
    ∃ external, s.externalEnum? enum = .ok external ∧
      ((external.bind Mapper.source = none ∧ ledger' = ledger) ∨
        ∃ m i r next, external = some m ∧ m.source = some i ∧
          ledger.add i.module i.boundAs i.imported false (some (.bool false)) = .ok (r, next) ∧
          ledger'.records = next.records ∧
          ((i.boundAs = .text enum ∧ ledger'.assignments = next.assignments) ∨
            (i.boundAs ≠ .text enum ∧
              ledger'.assignments = Table.put next.assignments enum m.type))) := by
  obtain ⟨external, hexternal, h⟩ := bind_eq_ok.mp h
  refine ⟨external, hexternal, ?_⟩
  rcases external with _ | ⟨type, _ | i⟩
  · rw [pure_eq_ok] at h
    exact Or.inl ⟨rfl, h.symm⟩
  · rw [pure_eq_ok] at h
    exact Or.inl ⟨rfl, h.symm⟩
  · obtain ⟨⟨r, next⟩, hadd, h⟩ := bind_eq_ok.mp h
    rw [pure_eq_ok] at h
    refine Or.inr ⟨_, i, r, next, rfl, rfl, hadd, ?_⟩
    -- Passing an enum on touches neither the records nor the assignments.
    have hexport : ∀ l : ImportLedger,
        (if s.noExport then l else l.addReexport enum).records = l.records ∧
          (if s.noExport then l else l.addReexport enum).assignments = l.assignments := by
      intro l
      split
      · exact ⟨rfl, rfl⟩
      · exact ⟨l.addReexport_records enum, l.addReexport_assignments enum⟩
    rw [← h, (hexport _).1, (hexport _).2]
    cases i.boundAs with
    | text bound => by_cases heq : bound = enum <;> simp [heq, ImportLedger.addAssignment]
    | null | bool _ | int _ | float _ | list _ | object _ => simp [ImportLedger.addAssignment]

theorem ofEnum_eq_ok {s : Settings} {t : NamedType} {name : String} {m : Mapper} :
    RunMappers.ofEnum s t = .ok (some (name, m)) ↔
      t.name = name ∧ s.externalEnum? name = .ok (some m) := by
  unfold RunMappers.ofEnum
  rw [map_eq_ok]
  constructor
  · rintro ⟨external, hexternal, h⟩
    obtain ⟨m', rfl, h⟩ := Option.map_eq_some_iff.mp h
    cases h
    exact ⟨rfl, hexternal⟩
  · rintro ⟨rfl, h⟩
    exact ⟨_, h, rfl⟩

def EnumsAssigned (ledger : ImportLedger) (ms : List (String × Mapper)) : Prop :=
  ∀ m ∈ ms, ∀ i, m.2.source = some i → i.boundAs ≠ .text m.1 →
    Table.get? ledger.assignments m.1 = some m.2.type

theorem enumsAssigned_put {s : Settings} {ts : List NamedType}
    {ms : List (Option (String × Mapper))} (hms : ts.mapM (RunMappers.ofEnum s) = .ok ms)
    {ledger ledger' : ImportLedger}
    (h : EnumsAssigned ledger (ms.filterMap id)) {enum : String} {m : Mapper}
    (hm : s.externalEnum? enum = .ok (some m))
    (hput : ledger'.assignments = Table.put ledger.assignments enum m.type) :
    EnumsAssigned ledger' (ms.filterMap id) := by
  intro m' hm' i hi hne
  rw [hput, Table.get?_put]
  split
  · next heq =>
    -- The name is assigned again, and it stands for the same as before.
    obtain ⟨external, hmem, rfl⟩ := List.mem_filterMap.mp hm'
    obtain ⟨t, _, ht⟩ := exists_of_mem_mapM hms hmem
    have hm' := (ofEnum_eq_ok.mp ht).2
    rw [← heq, hm] at hm'
    cases hm'
    rfl
  · exact h m' hm' i hi hne

theorem enumsAssigned_snoc {s : Settings} {ts : List NamedType}
    {ms : List (Option (String × Mapper))} (hms : ts.mapM (RunMappers.ofEnum s) = .ok ms)
    {ledger ledger' : ImportLedger} (h : EnumsAssigned ledger (ms.filterMap id)) {enum : String}
    {m : Mapper} (hm : s.externalEnum? enum = .ok (some m)) {i : ImportSource}
    (hi : m.source = some i)
    (hassign : i.boundAs = .text enum ∧ ledger'.assignments = ledger.assignments ∨
      i.boundAs ≠ .text enum ∧
        ledger'.assignments = Table.put ledger.assignments enum m.type) :
    EnumsAssigned ledger' (ms.filterMap id ++ [(enum, m)]) := by
  have hold : EnumsAssigned ledger' (ms.filterMap id) := by
    rcases hassign with ⟨_, hsame⟩ | ⟨_, hput⟩
    · intro m' hm' i' hi' hne
      rw [hsame]
      exact h m' hm' i' hi' hne
    · exact enumsAssigned_put hms h hm hput
  intro m' hm' i' hi' hne
  rcases List.mem_append.mp hm' with hm' | hm'
  · exact hold m' hm' i' hi' hne
  · rw [List.mem_singleton.mp hm'] at hi' hne ⊢
    rw [hi, Option.some.injEq] at hi'
    rcases hassign with ⟨hbound, _⟩ | ⟨_, hput⟩
    -- A symbol that is bound to the name of its enum needs no assignment.
    · exact absurd (hi' ▸ hbound) hne
    · rw [hput, Table.get?_put, if_pos rfl]

theorem holds_enums {s : Settings} {ledger ledger' : ImportLedger} {is : List ImportSource}
    (h : ledger.Holds is) {ts : List NamedType}
    (hrun : ts.foldlM (fun ledger t => ledger.addEnum s t.name) ledger = .ok ledger') :
    ∃ ms, ts.mapM (RunMappers.ofEnum s) = .ok ms ∧
      ledger'.Holds (is ++ sources (ms.filterMap id)) ∧
      EnumsAssigned ledger' (ms.filterMap id) := by
  refine foldlM_invariant (fun done l => ∃ ms, done.mapM (RunMappers.ofEnum s) = .ok ms ∧
    l.Holds (is ++ sources (ms.filterMap id)) ∧ EnumsAssigned l (ms.filterMap id))
    ?_ hrun ⟨[], rfl, by simpa [sources] using h, by simp [EnumsAssigned]⟩
  rintro done t l l' ⟨ms, hms, hholds, hassigned⟩ hstep
  obtain ⟨external, hexternal, hstep⟩ := addEnum_ok hstep
  have hentry : RunMappers.ofEnum s t = .ok (external.map fun m => (t.name, m)) :=
    map_eq_ok.mpr ⟨_, hexternal, rfl⟩
  refine ⟨ms ++ [external.map fun m => (t.name, m)], mapM_snoc hms hentry, ?_⟩
  rw [List.filterMap_append, sources_append, ← List.append_assoc]
  rcases hstep with ⟨hnone, rfl⟩ | ⟨m, i, r, next, rfl, hi, hadd, hrecords, hassign⟩
  -- An enum that is declared here adds nothing.
  · have hsources : sources ([external.map fun m => (t.name, m)].filterMap id) = [] := by
      cases external <;> simp_all [sources]
    rw [hsources, List.append_nil]
    refine ⟨hholds, ?_⟩
    intro m hm i hi hne
    rcases List.mem_append.mp hm with hm | hm
    · exact hassigned m hm i hi hne
    · cases external <;> simp_all
  · have hnew : [some (t.name, m)].filterMap id = [(t.name, m)] := rfl
    rw [Option.map_some, hnew, sources_singleton, hi]
    refine ⟨(ImportLedger.holds_add hholds hadd).congr hrecords, ?_⟩
    obtain ⟨_, _, _, rfl⟩ := ImportLedger.add_ok hadd
    exact enumsAssigned_snoc hms hassigned hexternal hi hassign

/-! ## Expressions -/

theorem startsAtImport_resolve {s : Settings} {name : String} {m : Mapper}
    (h : ScalarTable.resolve s name = .ok m) : m.StartsAtImport := by
  unfold ScalarTable.resolve at h
  split at h
  · split at h
    · rw [← Except.ok.inj h]
      exact Mapper.startsAtImport_inline _
    · exact Mapper.startsAtImport_ofValue h
  · split at h
    · exact Mapper.startsAtImport_ofValue h
    · rw [← Except.ok.inj h]
      unfold ScalarTable.unmapped
      split
      · exact Mapper.startsAtImport_inline _
      · intro i hi
        cases hi

theorem startsAtImport_externalEnum {s : Settings} {enum : String} {m : Mapper}
    (h : s.externalEnum? enum = .ok (some m)) : m.StartsAtImport := by
  unfold Settings.externalEnum? at h
  split at h
  · obtain ⟨_, hm, h⟩ := map_eq_ok.mp h
    exact Mapper.startsAtImport_ofValue (Option.some.inj h ▸ hm)
  · split at h
    · split at h
      · obtain ⟨_, hm, h⟩ := map_eq_ok.mp h
        exact Mapper.startsAtImport_ofValue (Option.some.inj h ▸ hm)
      · cases h
    · cases h

theorem startsAtImport_of_mem {schema : Schema} {s : Settings} {ms : RunMappers}
    (h : RunMappers.ofSchema schema s = .ok ms) {m : String × Mapper} (hm : m ∈ ms.all) :
    m.2.StartsAtImport := by
  obtain ⟨scalars, hscalars, h⟩ := bind_eq_ok.mp h
  obtain ⟨directives, hdirectives, h⟩ := bind_eq_ok.mp (mapError_eq_ok.mp h)
  obtain ⟨enums, henums, h⟩ := bind_eq_ok.mp h
  rw [pure_eq_ok] at h
  rw [RunMappers.all, List.mem_append, List.mem_append, ← h] at hm
  rcases hm with (hm | hm) | hm
  · obtain ⟨_, resolved, hresolved, hrows⟩ := ScalarTable.rows_of_ok hscalars
    rw [hrows] at hm
    rcases Table.mem_of_mem_putAll hm with hm | hm
    · obtain ⟨_, _, rfl⟩ := List.mem_map.mp hm
      exact Mapper.startsAtImport_inline _
    · obtain ⟨name, _, hname⟩ := exists_of_mem_mapM hresolved hm
      obtain ⟨mapper, hmapper, hname⟩ := bind_eq_ok.mp hname
      rw [pure_eq_ok] at hname
      exact hname ▸ startsAtImport_resolve hmapper
  · obtain ⟨entry, _, hentry⟩ := exists_of_mem_mapM hdirectives hm
    obtain ⟨mapper, hmapper, hentry⟩ := map_eq_ok.mp hentry
    exact hentry ▸ Mapper.startsAtImport_ofValue hmapper
  · obtain ⟨external, hmem, rfl⟩ := List.mem_filterMap.mp hm
    obtain ⟨t, _, ht⟩ := exists_of_mem_mapM henums hmem
    exact startsAtImport_externalEnum (ofEnum_eq_ok.mp ht).2

/-! ## The whole run -/

theorem mappers_ok {schema : Schema} {s : Settings} (p : RunParts schema s) :
    ∃ ms, RunMappers.ofSchema schema s = .ok ms ∧ p.ledger.Holds (sources ms.all) ∧
      EnumsAssigned p.ledger ms.enums ∧ ms.scalars = p.scalars.rows ∧
      p.mapped = Table.ofPairs (types ms.directives) := by
  obtain ⟨ledger₁, hscalars, h⟩ := bind_eq_ok.mp p.gathered
  obtain ⟨⟨mapped, ledger₂⟩, hdirectives, h⟩ := bind_eq_ok.mp h
  obtain ⟨ledger₃, henums, h⟩ := bind_eq_ok.mp h
  rw [pure_eq_ok, Prod.mk.injEq] at h
  have hholds := holds_register (ImportLedger.holds_new s.typeImports) hscalars
  obtain ⟨ms, hms, hholds, hmapped⟩ := holds_directives hholds hdirectives
  obtain ⟨es, hes, hholds, hassigned⟩ := holds_enums hholds henums
  refine ⟨⟨p.scalars.rows, ms, es.filterMap id⟩, ?_, ?_, ?_, rfl, ?_⟩
  · unfold RunMappers.ofSchema
    rw [p.scalars_ok]
    refine bind_eq_ok.mpr ⟨_, rfl, mapError_eq_ok.mpr ?_⟩
    exact bind_eq_ok.mpr ⟨ms, hms, bind_eq_ok.mpr ⟨es, hes, rfl⟩⟩
  · rw [← h.2, RunMappers.all, sources_append, sources_append]
    exact hholds
  · rw [← h.2]
    exact hassigned
  · rw [← h.1]
    exact hmapped

theorem mapped_ok {schema : Schema} {s : Settings} (p : RunParts schema s) :
    ∃ ds, s.directiveMappings.mapM (RunMappers.ofDirective s) = .ok ds ∧
      p.mapped = Table.ofPairs (types ds) := by
  obtain ⟨ms, hms, _, _, _, hmapped⟩ := mappers_ok p
  obtain ⟨_, _, hms⟩ := bind_eq_ok.mp hms
  obtain ⟨directives, hdirectives, hms⟩ := bind_eq_ok.mp (mapError_eq_ok.mp hms)
  obtain ⟨_, _, hms⟩ := bind_eq_ok.mp hms
  rw [pure_eq_ok] at hms
  subst hms
  exact ⟨directives, hdirectives, hmapped⟩

theorem mapped_eq {schema schema' : Schema} {s s' : Settings}
    (hmappings : s.directiveMappings = s'.directiveMappings)
    (hsuffix : s.mappingSuffix = s'.mappingSuffix) (p : RunParts schema s)
    (p' : RunParts schema' s') : p.mapped = p'.mapped := by
  obtain ⟨ds, hds, hmapped⟩ := mapped_ok p
  obtain ⟨ds', hds', hmapped'⟩ := mapped_ok p'
  have hsame : RunMappers.ofDirective s = RunMappers.ofDirective s' := by
    funext entry
    rw [RunMappers.ofDirective, RunMappers.ofDirective, hsuffix]
  rw [hmappings, hsame, hds'] at hds
  rw [hmapped, hmapped', Except.ok.inj hds]

/-- One block of an output lists these names with these types. -/
def Lists (out : Output) (identifier : String) (body : List ScalarRow → DeclarationBody)
    (pairs : List (String × Value)) : Prop :=
  ∃ (d : Declaration) (rows : List ScalarRow), d.identifier = identifier ∧ d.body = body rows ∧
    d.render ∈ out.content ∧ rows.map (fun r => (r.name, r.type)) = pairs

theorem lists_scalars {schema : Schema} {s : Settings} (p : RunParts schema s) {out : Output}
    {rest : List String}
    (hcontent : out.content = p.emission.declarations.map Declaration.render ++ rest) :
    Lists out scalarsName .scalars (types p.scalars.rows) := by
  refine ⟨p.scope.scalarsDeclaration p.scalars, _, rfl, rfl, ?_, ?_⟩
  · rw [hcontent]
    exact List.mem_append_left _ (List.mem_map.mpr ⟨_, List.mem_cons_self, rfl⟩)
  · simp [types, ScalarTable.list, Scope.describe]

theorem lists_directives {schema : Schema} {s : Settings} (p : RunParts schema s) {out : Output}
    {rest : List String}
    (hcontent : out.content = p.emission.declarations.map Declaration.render ++ rest)
    {ms : List (String × Mapper)} (hmapped : p.mapped = Table.ofPairs (types ms)) (hne : ms ≠ []) :
    Lists out directiveMappingsName .directiveMappings (Table.ofPairs (types ms)) := by
  have hpairs : p.mapped ≠ [] := by
    obtain ⟨m, hm⟩ := List.exists_mem_of_ne_nil _ hne
    have hkey : m.1 ∈ Table.keys p.mapped := by
      rw [hmapped, Table.ofPairs, Table.mem_keys_putAll]
      exact Or.inr (List.mem_map.mpr ⟨_, List.mem_map.mpr ⟨m, hm, rfl⟩, rfl⟩)
    obtain ⟨row, hrow, _⟩ := List.mem_map.mp hkey
    exact List.ne_nil_of_mem hrow
  refine ⟨p.scope.mappingsDeclaration, _, rfl, rfl, ?_, ?_⟩
  · rw [hcontent]
    exact List.mem_append_left _ (List.mem_map.mpr ⟨_, p.mappings_declared hpairs, rfl⟩)
  · rw [← hmapped, List.map_map]
    exact (List.map_congr_left fun _ _ => rfl).trans (List.map_id _)

/-- What the output of a run does with its mappers. -/
structure Imports (ms : RunMappers) (statements : List Statement) (out : Output) : Prop where
  prepended : statements.map Statement.render <+: out.prepend
  /-- A symbol has a name exactly if the last mapper that asks for the symbol gives it this name. -/
  bound : ∀ i, (∃ st ∈ statements, st.Binds i) ↔
    ∃ key last, i.key? = some key ∧ ImportSource.last? (sources ms.all) key = some last ∧
      last.imported = i.imported ∧ last.boundAs = i.boundAs
  named : ∀ i ∈ sources ms.all, ∃ key last, i.key? = some key ∧
    ImportSource.last? (sources ms.all) key = some last ∧ ∃ st ∈ statements, st.Binds last
  starts : ∀ m ∈ ms.all, m.2.StartsAtImport
  scalars : Lists out scalarsName .scalars (types ms.scalars)
  directives : ms.directives ≠ [] →
    Lists out directiveMappingsName .directiveMappings (Table.ofPairs (types ms.directives))
  /-- An enum of another module has its own name, by its import or by an assignment. -/
  enums : ∀ m ∈ ms.enums, ∀ i, m.2.source = some i → i.boundAs = .text m.1 ∨
    ("import " ++ m.1 ++ " = " ++ m.2.type.display ++ ";") ∈ out.prepend

/-- **The last mapper for a symbol names it.** -/
theorem emit_imports {schema : Schema} {s : Settings} {out : Output}
    (h : emit schema s = .ok out) :
    ∃ ms e statements, RunMappers.ofSchema schema s = .ok ms ∧
      Emission.ofSchema schema s = .ok e ∧ e.ledger.statements = .ok statements ∧
      Imports ms statements out := by
  obtain ⟨e, he, hout⟩ := emission_of_emit h
  obtain ⟨p, rfl⟩ := exists_parts he
  obtain ⟨statements, hstatements, hprepend, hcontent⟩ := output_parts hout
  obtain ⟨ms, hms, hholds, hassigned, hscalars, hmapped⟩ := mappers_ok p
  have hbound := hholds.binds_iff hstatements
  refine ⟨ms, _, statements, hms, he, hstatements, ?_, hbound, ?_, ?_, ?_, ?_, ?_⟩
  · rw [hprepend, List.append_assoc]
    exact List.prefix_append ..
  · intro i hi
    obtain ⟨key, hkey⟩ := hholds.keyed i hi
    obtain ⟨last, hlast⟩ := ImportSource.exists_last? hi hkey
    refine ⟨key, last, hkey, hlast, (hbound last).mpr ⟨key, last, ?_, hlast, rfl, rfl⟩⟩
    exact ImportSource.key?_of_last? hlast
  · exact fun m hm => startsAtImport_of_mem hms hm
  · rw [hscalars]
    exact lists_scalars p hcontent
  · exact lists_directives p hcontent hmapped
  · intro m hm i hi
    by_cases hname : i.boundAs = .text m.1
    · exact Or.inl hname
    · have hget := hassigned m hm i hi hname
      refine Or.inr (hprepend ▸ List.mem_append_left _ (List.mem_append_right _ ?_))
      exact List.mem_map.mpr ⟨_, Table.mem_of_get? hget, rfl⟩

/-- Two scalars ask for one symbol under two names. -/
def sharedText : String := "scalar A scalar B"

def sharedOptions : Options :=
  Options.ofTable [("scalars", .object [("A", .text "m#X as First"), ("B", .text "m#X as Second")])]

theorem emit_imports_shared : ∃ schema s out, Schema.ofText sharedText = .ok schema ∧
    Settings.ofOptions sharedOptions = .ok s ∧ emit schema s = .ok out ∧
    ∃ ms e statements, RunMappers.ofSchema schema s = .ok ms ∧
      Emission.ofSchema schema s = .ok e ∧ e.ledger.statements = .ok statements ∧
      Imports ms statements out := by
  have hruns : runs sharedText sharedOptions (fun _ _ => true) = true := by decide +kernel
  obtain ⟨schema, s, out, hschema, hsettings, hemit, _⟩ := exists_of_runs hruns
  exact ⟨schema, s, out, hschema, hsettings, hemit, emit_imports hemit⟩

/-- Some mapper asks for a name that no statement gives. -/
def losesName (name : String) (schema : Schema) (s : Settings) : Bool :=
  (RunMappers.ofSchema schema s).toOption.any fun ms =>
    (Emission.ofSchema schema s).toOption.any fun e =>
      e.ledger.statements.toOption.any fun statements =>
        (sources ms.all).any fun i => i.boundAs.asText? == some name &&
          statements.all fun st => st.default.isNone &&
            st.named.all fun b => b.2.asText? != some name

theorem first_name_lost : ∃ schema s out, Schema.ofText sharedText = .ok schema ∧
    Settings.ofOptions sharedOptions = .ok s ∧ emit schema s = .ok out ∧
    ∃ ms e statements, RunMappers.ofSchema schema s = .ok ms ∧
      Emission.ofSchema schema s = .ok e ∧ e.ledger.statements = .ok statements ∧
      ∃ i ∈ sources ms.all, i.boundAs = .text "First" ∧ ¬∃ st ∈ statements, st.Binds i := by
  have hruns : runs sharedText sharedOptions (losesName "First") = true := by decide +kernel
  obtain ⟨schema, s, out, hschema, hsettings, hemit, h⟩ := exists_of_runs hruns
  obtain ⟨ms, hms, h⟩ := (Option.any_eq_true ..).mp h
  obtain ⟨e, he, h⟩ := (Option.any_eq_true ..).mp h
  obtain ⟨statements, hstatements, h⟩ := (Option.any_eq_true ..).mp h
  rw [toOption_eq_some] at hms he hstatements
  obtain ⟨i, hi, h⟩ := List.any_eq_true.mp h
  obtain ⟨hname, hall⟩ := Bool.and_eq_true_iff.mp h
  have hbound : i.boundAs = .text "First" := by
    cases hb : i.boundAs <;> simp_all [Value.asText?]
  refine ⟨schema, s, out, hschema, hsettings, hemit, ms, e, statements, hms, he, hstatements,
    i, hi, hbound, ?_⟩
  rintro ⟨st, hst, _, hbinds⟩
  have hst := List.all_eq_true.mp hall st hst
  obtain ⟨hdefault, hnamed⟩ := Bool.and_eq_true_iff.mp hst
  split at hbinds
  · rw [hbinds] at hdefault
    cases hdefault
  · have := List.all_eq_true.mp hnamed _ hbinds
    simp [hbound, Value.asText?] at this

end SchemaTypings.Code
