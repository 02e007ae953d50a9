import SchemaTypings.Import.Ledger
import SchemaTypings.Proofs.Outcome

/-!
# What a ledger binds

A ledger holds one record for each symbol that it is asked for, as it was asked for last. Its
statements bind what its records say and nothing else.
-/

open SchemaTypings.Outcome

namespace SchemaTypings

namespace ImportSource

/-- The name under which a symbol is filed; an empty name counts as the default export. -/
def symbol (i : ImportSource) : String :=
  match i.imported with
  | none => "default"
  | some name => if name.isEmpty then "default" else name

def key? (i : ImportSource) : Option (Value.Key × String) :=
  i.module.key?.map fun m => (m, i.symbol)

/-- The last of the sources that are filed under a key. -/
def last? (sources : List ImportSource) (key : Value.Key × String) : Option ImportSource :=
  sources.reverse.find? fun i => i.key? = some key

theorem last?_snoc (sources : List ImportSource) (i : ImportSource) (key : Value.Key × String) :
    last? (sources ++ [i]) key = if i.key? = some key then some i else last? sources key := by
  unfold last?
  rw [List.reverse_append, List.reverse_singleton, List.singleton_append, List.find?_cons]
  split <;> simp_all

theorem key?_of_last? {sources : List ImportSource} {key : Value.Key × String} {i : ImportSource}
    (h : last? sources key = some i) : i.key? = some key := by
  unfold last? at h
  simpa using List.find?_some h

theorem exists_last? {sources : List ImportSource} {key : Value.Key × String} {i : ImportSource}
    (hi : i ∈ sources) (hkey : i.key? = some key) : ∃ last, last? sources key = some last := by
  rw [← Option.isSome_iff_exists, last?, List.find?_isSome]
  exact ⟨i, List.mem_reverse.mpr hi, decide_eq_true hkey⟩

theorem key?_eq_iff {i j : ImportSource} (h : i.imported = j.imported) :
    i.key? = j.key? ↔ i.module.key? = j.module.key? := by
  unfold key? symbol
  rw [h]
  cases i.module.key? <;> cases j.module.key? <;> simp

end ImportSource

def ImportRecord.source (r : ImportRecord) : ImportSource :=
  { module := r.module, imported := r.imported, boundAs := r.boundAs }

namespace ImportLedger

theorem keyOf_eq_ok {v : Value} {k : Value.Key} : keyOf v = .ok k ↔ v.key? = some k := by
  unfold keyOf
  cases v.key? <;> simp

@[simp]
theorem addReexport_records (ledger : ImportLedger) (name : String) :
    (ledger.addReexport name).records = ledger.records := by
  unfold addReexport
  split <;> rfl

theorem addReexport_assignments (ledger : ImportLedger) (name : String) :
    (ledger.addReexport name).assignments = ledger.assignments := by
  unfold addReexport
  split <;> rfl

/-! ## The records -/

/-- The records are those of the sources, each as it was asked for last. -/
structure Holds (ledger : ImportLedger) (sources : List ImportSource) : Prop where
  keyed : ∀ i ∈ sources, ∃ key, i.key? = some key
  nodup : (Table.keys ledger.records).Nodup
  last : ∀ key, (Table.get? ledger.records key).map ImportRecord.source =
    ImportSource.last? sources key

theorem holds_new (typeImports : Value) : Holds { typeImports } [] :=
  ⟨by simp, List.nodup_nil, fun _ => rfl⟩

theorem add_ok {ledger ledger' : ImportLedger} {module boundAs : Value} {imported : Option String}
    {reexport : Bool} {typeOnly : Option Value} {r : ImportRecord}
    (h : ledger.add module boundAs imported reexport typeOnly = .ok (r, ledger')) :
    r.source = { module, imported, boundAs } ∧ ∃ key, r.source.key? = some key ∧
      ledger' = { ledger with records := Table.put ledger.records key r } := by
  obtain ⟨k, hk, h⟩ := bind_eq_ok.mp h
  rw [keyOf_eq_ok] at hk
  rw [pure_eq_ok, Prod.mk.injEq] at h
  have hsource : r.source = { module, imported, boundAs } := by
    rw [← h.1]
    split <;> rfl
  refine ⟨hsource, (k, r.source.symbol), ?_, ?_⟩
  · unfold ImportSource.key?
    rw [hsource, hk]
    rfl
  · rw [← h.2, hsource, h.1]
    rfl

theorem holds_add {ledger ledger' : ImportLedger} {sources : List ImportSource}
    {module boundAs : Value} {imported : Option String} {reexport : Bool} {typeOnly : Option Value}
    {r : ImportRecord} (h : ledger.Holds sources)
    (hadd : ledger.add module boundAs imported reexport typeOnly = .ok (r, ledger')) :
    ledger'.Holds (sources ++ [⟨module, imported, boundAs⟩]) := by
  obtain ⟨hsource, key, hkey, rfl⟩ := add_ok hadd
  rw [← hsource]
  refine ⟨?_, Table.nodup_keys_put _ _ _ h.nodup, ?_⟩
  · intro i hi
    rcases List.mem_append.mp hi with hi | hi
    · exact h.keyed i hi
    · exact ⟨key, List.mem_singleton.mp hi ▸ hkey⟩
  · intro key'
    rw [Table.get?_put, ImportSource.last?_snoc, hkey]
    simp only [Option.some.injEq]
    split
    · rfl
    · exact h.last key'

theorem Holds.congr {ledger ledger' : ImportLedger} {sources : List ImportSource}
    (h : ledger.Holds sources) (heq : ledger'.records = ledger.records) :
    ledger'.Holds sources := by
  obtain ⟨hkeyed, hnodup, hlast⟩ := h
  rw [← heq] at hnodup hlast
  exact ⟨hkeyed, hnodup, hlast⟩

theorem holds_addMapper {ledger ledger' : ImportLedger} {sources : List ImportSource} {m : Mapper}
    {typeOnly : Option Value} (h : ledger.Holds sources)
    (hadd : ledger.addMapper m typeOnly = .ok ledger') :
    ledger'.Holds (sources ++ m.source.toList) := by
  unfold addMapper at hadd
  cases hm : m.source with
  | none =>
    rw [hm, Except.ok.injEq] at hadd
    rw [Option.toList_none, List.append_nil, ← hadd]
    exact h
  | some source =>
    rw [hm] at hadd
    obtain ⟨⟨r, next⟩, hnext, rfl⟩ := map_eq_ok.mp hadd
    exact holds_add h hnext

namespace Holds

variable {ledger : ImportLedger} {sources : List ImportSource}

theorem mem_records (h : ledger.Holds sources) {r : ImportRecord} :
    r ∈ Table.values ledger.records ↔ ∃ key, Table.get? ledger.records key = some r :=
  Table.mem_values_iff h.nodup

theorem last_of_get? (h : ledger.Holds sources) {key : Value.Key × String} {r : ImportRecord}
    (hr : Table.get? ledger.records key = some r) :
    ImportSource.last? sources key = some r.source := by
  rw [← h.last, hr]
  rfl

theorem distinct (h : ledger.Holds sources) :
    (Table.values ledger.records).Pairwise fun a b => a.source.key? ≠ b.source.key? := by
  have hkey : ∀ p ∈ ledger.records, p.2.source.key? = some p.1 := fun p hp =>
    ImportSource.key?_of_last? (h.last_of_get? ((Table.get?_eq_some_iff h.nodup).mpr hp))
  have hnodup := h.nodup
  unfold Table.keys List.Nodup at hnodup
  unfold Table.values
  rw [List.pairwise_map] at hnodup ⊢
  refine hnodup.imp_of_mem ?_
  intro a b ha hb hne
  rw [hkey a ha, hkey b hb]
  exact fun heq => hne (Option.some.inj heq)

end Holds

/-! ## The groups -/

/-- What a record is grouped under: its module and whether it is for types only. -/
def groupKey? (r : ImportRecord) : Option (Value.Key × Value.Key) :=
  r.module.key?.bind fun m => r.typeOnly.key?.map fun t => (m, t)

theorem module_of_groupKey? {r : ImportRecord} {key : Value.Key × Value.Key}
    (h : groupKey? r = some key) : r.module.key? = some key.1 := by
  obtain ⟨m, hm, h⟩ := Option.bind_eq_some_iff.mp h
  obtain ⟨t, _, rfl⟩ := Option.map_eq_some_iff.mp h
  exact hm

/-- Each group has the records of its key, in their order, and each record has a group. -/
structure Grouped (rs : List ImportRecord) (groups : Table (Value.Key × Value.Key) Group) :
    Prop where
  nodup : (Table.keys groups).Nodup
  module : ∀ key g, Table.get? groups key = some g → g.module.key? = some key.1
  records : ∀ key, ((Table.get? groups key).map Group.records).getD [] =
    rs.filter fun r => groupKey? r = some key
  placed : ∀ r ∈ rs, ∃ key, groupKey? r = some key

theorem Grouped.put {rs : List ImportRecord} {groups : Table (Value.Key × Value.Key) Group}
    (h : Grouped rs groups) {r : ImportRecord} {key : Value.Key × Value.Key}
    (hkey : groupKey? r = some key) {old : Group}
    (hold : old = (Table.get? groups key).getD ⟨r.module, r.typeOnly, []⟩) :
    Grouped (rs ++ [r]) (Table.put groups key { old with records := old.records ++ [r] }) := by
  subst hold
  refine ⟨Table.nodup_keys_put _ _ _ h.nodup, ?_, ?_, ?_⟩
  · intro key' g hg
    rw [Table.get?_put] at hg
    split at hg
    · next heq =>
      rw [← heq, ← Option.some.inj hg]
      cases hold : Table.get? groups key with
      | none => exact module_of_groupKey? hkey
      | some old => exact h.module key old hold
    · exact h.module key' g hg
  · intro key'
    rw [Table.get?_put, List.filter_append, List.filter_singleton, hkey]
    split
    · next heq =>
      rw [← heq, ← h.records]
      cases hold : Table.get? groups key <;> simp
    · next hne =>
      rw [h.records]
      simp [hne]
  · intro r' hr'
    rcases List.mem_append.mp hr' with hr' | hr'
    · exact h.placed r' hr'
    · rw [List.mem_singleton.mp hr']
      exact ⟨key, hkey⟩

/-- What holds of no groups, and is kept by each record that goes into its group, holds of the groups
of a list. -/
theorem group_invariant
    (P : List ImportRecord → Table (Value.Key × Value.Key) Group → Prop) (hnil : P [] [])
    (hput : ∀ done r groups key, P done groups → groupKey? r = some key →
      ∀ old, old = (Table.get? groups key).getD ⟨r.module, r.typeOnly, []⟩ →
        P (done ++ [r]) (Table.put groups key { old with records := old.records ++ [r] }))
    {rs : List ImportRecord} {groups : Table (Value.Key × Value.Key) Group}
    (h : group rs = .ok groups) : P rs groups := by
  refine foldlM_invariant P ?_ h hnil
  intro done r groups groups' hdone hstep
  obtain ⟨m, hm, hstep⟩ := bind_eq_ok.mp hstep
  obtain ⟨t, ht, hstep⟩ := bind_eq_ok.mp hstep
  rw [pure_eq_ok] at hstep
  -- Both keys were found, so the record has a group to go into.
  rw [keyOf_eq_ok] at hm ht
  have hkey : groupKey? r = some (m, t) := by
    rw [groupKey?, hm, ht]
    rfl
  rw [← hstep]
  exact hput done r groups (m, t) hdone hkey _ rfl

theorem grouped {rs : List ImportRecord} {groups : Table (Value.Key × Value.Key) Group}
    (h : group rs = .ok groups) : Grouped rs groups := by
  have hnil : Grouped [] [] :=
    ⟨List.nodup_nil, by simp [Table.get?], by simp [Table.get?], by simp⟩
  exact group_invariant Grouped hnil (fun _ _ _ _ hdone hkey _ hold => hdone.put hkey hold) h

theorem exists_group {rs : List ImportRecord}
    (h : ∀ r ∈ rs, r.module.key?.isSome = true ∧ r.typeOnly.key?.isSome = true) :
    ∃ groups, group rs = .ok groups := by
  obtain ⟨groups, hgroups, -⟩ : ∃ groups, group rs = .ok groups ∧ True := by
    refine foldlM_total (fun r hr groups _ => ?_) trivial
    obtain ⟨m, hm⟩ := Option.isSome_iff_exists.mp (h r hr).1
    obtain ⟨t, ht⟩ := Option.isSome_iff_exists.mp (h r hr).2
    rw [keyOf_eq_ok.mpr hm, keyOf_eq_ok.mpr ht]
    exact ⟨_, rfl, trivial⟩
  exact ⟨groups, hgroups⟩

theorem importLines_of_keyed {ledger : ImportLedger}
    (h : ∀ p ∈ ledger.records, p.2.module.key?.isSome = true ∧ p.2.typeOnly.key?.isSome = true) :
    ∃ lines, ledger.importLines = .ok lines := by
  have hrecords : ∀ r ∈ Table.values ledger.records,
      r.module.key?.isSome = true ∧ r.typeOnly.key?.isSome = true := by
    intro r hr
    obtain ⟨p, hp, rfl⟩ := List.mem_map.mp hr
    exact h p hp
  obtain ⟨groups, hgroups⟩ := exists_group hrecords
  exact ⟨_, bind_eq_ok.mpr ⟨_, bind_eq_ok.mpr ⟨groups, hgroups, rfl⟩, rfl⟩⟩

theorem Grouped.records_of_get? {rs : List ImportRecord}
    {groups : Table (Value.Key × Value.Key) Group} (h : Grouped rs groups)
    {key : Value.Key × Value.Key} {g : Group} (hget : Table.get? groups key = some g) :
    g.records = rs.filter fun r => groupKey? r = some key := by
  have hrecords := h.records key
  rw [hget] at hrecords
  exact hrecords

theorem Grouped.exists_group {rs : List ImportRecord}
    {groups : Table (Value.Key × Value.Key) Group} (h : Grouped rs groups) {r : ImportRecord}
    (hr : r ∈ rs) {key : Value.Key × Value.Key} (hkey : groupKey? r = some key) :
    ∃ g, Table.get? groups key = some g ∧ r ∈ g.records := by
  have hmem : r ∈ rs.filter fun r => groupKey? r = some key :=
    List.mem_filter.mpr ⟨hr, decide_eq_true hkey⟩
  rw [← h.records] at hmem
  cases hget : Table.get? groups key with
  | none =>
    rw [hget] at hmem
    exact absurd hmem List.not_mem_nil
  | some g =>
    rw [hget] at hmem
    exact ⟨g, rfl, hmem⟩

/-! ## The statements -/

/-- A statement binds a symbol of its module, or its default export, to a name. -/
def Statement.Binds (st : Statement) (i : ImportSource) : Prop :=
  st.module.key? = i.module.key? ∧
    match i.imported with
    | none => st.default = some i.boundAs
    | some name => (name, i.boundAs) ∈ st.named

/-- The statements of a group with at most one default export bind each of its records. -/
theorem Group.binds_iff {g : Group} {i : ImportSource}
    (hdefault : (g.records.filter (·.imported.isNone)).length ≤ 1) :
    (∃ st ∈ g.statements, st.Binds i) ↔
      g.module.key? = i.module.key? ∧
        ∃ r ∈ g.records, r.imported = i.imported ∧ r.boundAs = i.boundAs := by
  have hdefaults : (∃ r ∈ g.records, r.imported = none ∧ r.boundAs = i.boundAs) ↔
      ∃ r ∈ g.records.filter (·.imported.isNone), r.boundAs = i.boundAs := by
    simp [and_assoc]
  have hnamed : ∀ name, (∃ r ∈ g.records, r.imported = some name ∧ r.boundAs = i.boundAs) ↔
      (name, i.boundAs) ∈ g.records.filterMap fun r => r.imported.map fun n => (n, r.boundAs) := by
    simp
  unfold Group.statements Statement.Binds
  rcases i.imported with _ | name
  all_goals
    simp only [hdefaults, hnamed]
    generalize g.records.filter (·.imported.isNone) = defaults at *
    generalize (g.records.filterMap fun r => r.imported.map fun n => (n, r.boundAs)) = named
    -- A statement of its own for the named symbols if the group is for types only.
    match defaults, named, hdefault with
    | [], [], _ | [], _ :: _, _ | [_], [], _ => simp
    | [_], _ :: _, _ =>
      simp only
      split <;> simp

theorem Grouped.one_default {ledger : ImportLedger} {sources : List ImportSource}
    {groups : Table (Value.Key × Value.Key) Group} (h : ledger.Holds sources)
    (hg : Grouped (Table.values ledger.records) groups) {key : Value.Key × Value.Key} {g : Group}
    (hget : Table.get? groups key = some g) :
    (g.records.filter (·.imported.isNone)).length ≤ 1 := by
  have hrecords := hg.records_of_get? hget
  have hkey : ∀ r ∈ g.records.filter (·.imported.isNone),
      r.source.key? = some (key.1, "default") := by
    intro r hr
    rw [List.mem_filter, hrecords, List.mem_filter, decide_eq_true_eq,
      Option.isNone_iff_eq_none] at hr
    unfold ImportSource.key? ImportSource.symbol ImportRecord.source
    rw [hr.2, module_of_groupKey? hr.1.2]
    rfl
  have hdistinct := (h.distinct.filter fun r => groupKey? r = some key).filter (·.imported.isNone)
  rw [← hrecords] at hdistinct
  generalize g.records.filter (·.imported.isNone) = defaults at *
  match defaults with
  | [] | [_] => simp
  -- Two default exports of one module would be filed under one key.
  | a :: b :: rest =>
    rw [List.pairwise_cons] at hdistinct
    have hne := hdistinct.1 b List.mem_cons_self
    rw [hkey a List.mem_cons_self, hkey b (by simp)] at hne
    exact absurd rfl hne

/-- **A symbol is bound to the name for which it was asked last, and to no other.** -/
theorem Holds.binds_iff {ledger : ImportLedger} {sources : List ImportSource}
    {statements : List Statement} (h : ledger.Holds sources)
    (hstatements : ledger.statements = .ok statements) (i : ImportSource) :
    (∃ st ∈ statements, st.Binds i) ↔
      ∃ key last, i.key? = some key ∧ ImportSource.last? sources key = some last ∧
        last.imported = i.imported ∧ last.boundAs = i.boundAs := by
  obtain ⟨groups, hgroups, hstatements⟩ := bind_eq_ok.mp hstatements
  rw [pure_eq_ok] at hstatements
  have hg := grouped hgroups
  have hmem : (∃ st ∈ statements, st.Binds i) ↔
      ∃ key g, Table.get? groups key = some g ∧ ∃ st ∈ g.statements, st.Binds i := by
    rw [← hstatements]
    simp only [List.mem_flatMap, Table.mem_values_iff hg.nodup]
    constructor
    · rintro ⟨st, ⟨g, ⟨key, hkey⟩, hst⟩, hbinds⟩
      exact ⟨key, g, hkey, st, hst, hbinds⟩
    · rintro ⟨key, g, hkey, st, hst, hbinds⟩
      exact ⟨st, ⟨g, ⟨key, hkey⟩, hst⟩, hbinds⟩
  rw [hmem]
  constructor
  · rintro ⟨gk, g, hget, hst⟩
    obtain ⟨hmodule, r, hr, himported, hbound⟩ := (Group.binds_iff (hg.one_default h hget)).mp hst
    rw [hg.records_of_get? hget, List.mem_filter, decide_eq_true_eq] at hr
    obtain ⟨key, hkey⟩ := h.mem_records.mp hr.1
    have hlast := h.last_of_get? hkey
    refine ⟨key, r.source, ?_, hlast, himported, hbound⟩
    rw [← ImportSource.key?_of_last? hlast, ImportSource.key?_eq_iff himported.symm, ← hmodule,
      hg.module gk g hget]
    exact (module_of_groupKey? hr.2).symm
  · rintro ⟨key, last, hkey, hlast, himported, hbound⟩
    obtain ⟨r, hget, rfl⟩ := Option.map_eq_some_iff.mp ((h.last key).trans hlast)
    have hr := h.mem_records.mpr ⟨key, hget⟩
    obtain ⟨gk, hgk⟩ := hg.placed r hr
    obtain ⟨g, hg', hrg⟩ := hg.exists_group hr hgk
    have hone := hg.one_default h hg'
    refine ⟨gk, g, hg', (Group.binds_iff hone).mpr ⟨?_, r, hrg, himported, hbound⟩⟩
    -- The group is that of the record, and the record is that of the last wish.
    have hmodule : r.source.module.key? = i.module.key? := by
      rw [← ImportSource.key?_eq_iff himported, hkey]
      exact ImportSource.key?_of_last? hlast
    rw [hg.module gk g hg', ← hmodule]
    exact (module_of_groupKey? hgk).symm

end ImportLedger

end SchemaTypings
