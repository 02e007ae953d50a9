import SchemaTypings.Proofs.Emission
import SchemaTypings.Proofs.Scalars
import SchemaTypings.Proofs.TableOrder

/-!
# One rule for all scalars

The rows of the scalars are written in three goes, and a later one may overwrite what an earlier one
wrote. In the end each row is what one rule gives for its name, and the names stand in the order in
which they first came up.
-/

open SchemaTypings.Outcome

namespace SchemaTypings.Code.ScalarTable

variable {schema : Schema} {s : Settings} {t : ScalarTable}

def scalarNames (schema : Schema) : List String := (schemaScalars schema).map NamedType.name

/-! ## Names -/

theorem rows_of_resolved {names : List String} {resolved : Table String Mapper}
    (h : names.mapM (fun name => do return (name, ← resolve s name)) = .ok resolved) :
    Table.keys resolved = names ∧ ∀ row ∈ resolved, resolve s row.1 = .ok row.2 := by
  have hall := (mapM_eq_ok.mp h).imp (S := fun name (row : String × Mapper) =>
      row.1 = name ∧ resolve s row.1 = .ok row.2) fun name row hrow => by
    obtain ⟨m, hm, hrow⟩ := bind_eq_ok.mp hrow
    rw [pure_eq_ok] at hrow
    rw [← hrow]
    exact ⟨rfl, hm⟩
  refine ⟨?_, fun row hrow => ?_⟩
  · clear h
    induction hall with
    | nil => rfl
    | cons hrow _ ih => rw [Table.keys, List.map_cons, hrow.1, ← Table.keys, ih]
  · obtain ⟨_, _, _, hresolve⟩ := exists_of_mem_right hall hrow
    exact hresolve

theorem keys_rows (h : ofSchema schema s = .ok t) :
    Table.keys t.rows =
      (Table.keys builtinTypes ++ scalarNames schema ++ mappedNames s).eraseDups := by
  obtain ⟨_, resolved, hresolved, hrows⟩ := rows_of_ok h
  have hkeys : Table.keys resolved = namesToResolve schema s := (rows_of_resolved hresolved).1
  have hbuiltin : Table.keys builtinRows = Table.keys builtinTypes := by decide
  rw [hrows, Table.keys_putAll (by decide), hkeys, hbuiltin, namesToResolve, ← List.append_assoc]
  refine eraseDups_append_filter fun name _ hdeclared => List.mem_append_right _ ?_
  simpa using hdeclared

theorem nodup_keys_rows (h : ofSchema schema s = .ok t) : (Table.keys t.rows).Nodup := by
  rw [keys_rows h]
  exact nodup_eraseDups _

/-! ## What a row says -/

theorem resolve_builtin {name type : String} (hname : name ∉ mappedNames s)
    (htype : Table.get? builtinTypes name = some type) :
    resolve s name = .ok (Mapper.inline type) := by
  unfold resolve mappedNames at *
  cases hscalars : s.scalars with
  | module path => simp only [htype]
  | table entries =>
    simp only [hscalars] at hname
    have hnone : Table.get? entries name = none := by
      rwa [Table.mem_keys_iff, Bool.not_eq_true, Option.isSome_eq_false_iff,
        Option.isNone_iff_eq_none] at hname
    simp only [hnone, unmapped, htype]

/-- Whichever go wrote a row last, it is what the rule gives for its name. -/
theorem resolve_row (h : ofSchema schema s = .ok t) {row : String × Mapper}
    (hrow : row ∈ t.rows) : resolve s row.1 = .ok row.2 := by
  obtain ⟨_, resolved, hresolved, hrows⟩ := rows_of_ok h
  obtain ⟨hkeys, hrule⟩ := rows_of_resolved hresolved
  have hget := (Table.get?_eq_some_iff (nodup_keys_rows h)).mpr hrow
  rw [hrows, Table.get?_putAll] at hget
  cases hlast : Table.get? resolved.reverse row.1 with
  | some m =>
    rw [hlast, Option.some_or, Option.some.injEq] at hget
    exact hget ▸ hrule _ (List.mem_reverse.mp (Table.mem_of_get? hlast))
  | none =>
    rw [hlast, Option.none_or, builtinRows, Table.get?_mapValues Mapper.inline] at hget
    obtain ⟨type, htype, hm⟩ := Option.map_eq_some_iff.mp hget
    -- No go wrote the row, so the name came up among the built-in ones alone.
    have hold : row.1 ∉ namesToResolve schema s := by
      rw [← hkeys, ← List.mem_reverse, Table.keys, ← List.map_reverse, ← Table.keys,
        Table.mem_keys_iff, hlast]
      exact Bool.false_ne_true
    have hmapped : row.1 ∉ mappedNames s := by
      intro hmapped
      by_cases hdeclared : row.1 ∈ (schemaScalars schema).map NamedType.name
      · exact hold (List.mem_append_left _ hdeclared)
      · exact hold (List.mem_append_right _
          (List.mem_filter.mpr ⟨hmapped, by simpa using hdeclared⟩))
    rw [← hm]
    exact resolve_builtin hmapped htype

/-- A row where names are mapped one by one. What a name is mapped to goes before the usual type of a
built-in scalar, and this before the type of all others. -/
structure MappedRow (s : Settings) (entries : Table String Value) (row : String × Mapper) :
    Prop where
  mapped : ∀ v, Table.get? entries row.1 = some v → Mapper.ofValue v row.1 = .ok row.2
  builtin : Table.get? entries row.1 = none → ∀ type,
    Table.get? builtinTypes row.1 = some type → row.2 = Mapper.inline type
  other : Table.get? entries row.1 = none → Table.get? builtinTypes row.1 = none →
    row.2 = { type := s.defaultScalar, source := none }

/-- A row where a module has all scalars but the built-in ones. -/
structure ModuleRow (path : String) (row : String × Mapper) : Prop where
  builtin : ∀ type, Table.get? builtinTypes row.1 = some type → row.2 = Mapper.inline type
  other : Table.get? builtinTypes row.1 = none →
    Mapper.ofValue (.text (path ++ "#" ++ row.1)) row.1 = .ok row.2

theorem mappedRow_of_resolve {entries : Table String Value} (hscalars : s.scalars = .table entries)
    {row : String × Mapper} (h : resolve s row.1 = .ok row.2) : MappedRow s entries row := by
  unfold resolve at h
  simp only [hscalars] at h
  constructor
  · intro v hv
    simpa only [hv] using h
  · intro hnone type htype
    simp only [hnone, unmapped, htype] at h
    exact (Except.ok.inj h).symm
  · intro hnone hbuiltin
    simp only [hnone, unmapped, hbuiltin] at h
    exact (Except.ok.inj h).symm

theorem moduleRow_of_resolve {path : String} (hscalars : s.scalars = .module path)
    {row : String × Mapper} (h : resolve s row.1 = .ok row.2) : ModuleRow path row := by
  unfold resolve at h
  simp only [hscalars] at h
  constructor
  · intro type htype
    simp only [htype] at h
    exact (Except.ok.inj h).symm
  · intro hbuiltin
    simpa only [hbuiltin] using h

/-- **The table of scalars has a row for each name that came up, by one rule.** The names are those
of the built-in scalars, then of the scalars of the schema, then those that are mapped, each at its
first place. -/
theorem rows_by_one_rule (h : ofSchema schema s = .ok t) :
    (Table.keys t.rows).Nodup ∧
    t.list.map (fun r => (r.name, r.type)) = t.rows.map (fun row => (row.1, row.2.type)) ∧
    (∀ entries, s.scalars = .table entries →
      Table.keys t.rows =
        (Table.keys builtinTypes ++ scalarNames schema ++ Table.keys entries).eraseDups ∧
      ∀ row ∈ t.rows, MappedRow s entries row) ∧
    ∀ path, s.scalars = .module path →
      Table.keys t.rows = Table.keys builtinTypes ++
        ((scalarNames schema).filter fun n => !(Table.keys builtinTypes).contains n).eraseDups ∧
      ∀ row ∈ t.rows, ModuleRow path row := by
  have hkeys := keys_rows h
  unfold mappedNames at hkeys
  refine ⟨nodup_keys_rows h, ?_, ?_, ?_⟩
  · rw [list, List.map_map]
    rfl
  · intro entries hscalars
    simp only [hscalars] at hkeys
    exact ⟨hkeys, fun row hrow => mappedRow_of_resolve hscalars (resolve_row h hrow)⟩
  · intro path hscalars
    simp only [hscalars, List.append_nil] at hkeys
    rw [List.eraseDups_append, eraseDups_of_nodup (by decide)] at hkeys
    exact ⟨hkeys, fun row hrow => moduleRow_of_resolve hscalars (resolve_row h hrow)⟩

/-- A mapped scalar, one without a mapping, a built-in one under another type, and a name that the
schema does not declare. -/
def moneyOptions : Options :=
  Options.ofTable [("scalars", .object [("Extra", .text "m#default"), ("Int", .text "bigint"),
    ("Money", .object [("module", .text "m"), ("symbol", .text "Cash")])])]

theorem rows_by_one_rule_mapped : ∃ schema s t,
    Schema.ofText "scalar Money scalar Date" = .ok schema ∧
    Settings.ofOptions moneyOptions = .ok s ∧ ofSchema schema s = .ok t ∧
    Table.keys t.rows =
      ["ID", "String", "Boolean", "Int", "Float", "Money", "Date", "Extra"] ∧
    ∃ entries, s.scalars = .table entries ∧
      Table.get? entries "Int" = some (.text "bigint") ∧
      ∀ row ∈ t.rows, MappedRow s entries row := by
  have hreads : reads "scalar Money scalar Date" moneyOptions (fun schema s =>
      (ofSchema schema s).toOption.any fun t => decide (Table.keys t.rows =
        ["ID", "String", "Boolean", "Int", "Float", "Money", "Date", "Extra"])) = true := by
    decide +kernel
  have hscalars : (Settings.ofOptions moneyOptions).map Settings.scalars =
      .ok (.table [("Extra", .text "m#default"), ("Int", .text "bigint"),
        ("Money", .object [("module", .text "m"), ("symbol", .text "Cash")])]) := by
    rfl
  obtain ⟨schema, s, hschema, hsettings, hreads⟩ := exists_of_reads hreads
  obtain ⟨t, ht, hnames⟩ := (Option.any_eq_true ..).mp hreads
  rw [toOption_eq_some] at ht
  rw [hsettings] at hscalars
  have hscalars := Except.ok.inj hscalars
  obtain ⟨-, -, hmapped, -⟩ := rows_by_one_rule ht
  exact ⟨schema, s, t, hschema, hsettings, ht, of_decide_eq_true hnames, _, hscalars, rfl,
    (hmapped _ hscalars).2⟩

end SchemaTypings.Code.ScalarTable
