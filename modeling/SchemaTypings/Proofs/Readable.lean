import SchemaTypings.Proofs.Bindings

/-!
# Settings that can be read

A mapping can be read if it is a text, or an object whose parts are texts. Under settings that hold
no others each name is resolved, each import is noted, and the imports can be written.
-/

open SchemaTypings.Outcome

namespace SchemaTypings

/-! ## Mappings -/

def Value.isText : Value → Bool
  | .text _ => true
  | _ => false

/-- A text, or an object that names its module by a text, and so its symbol and its alias if it has
them. -/
def Value.isMapping : Value → Bool
  | .text _ => true
  | .object fields =>
    (Table.get? fields "module").any isText && (Table.get? fields "symbol").all isText &&
      (Table.get? fields "alias").all isText
  | _ => false

theorem Value.isText_iff {v : Value} : v.isText = true ↔ ∃ s, v = .text s := by
  cases v <;> simp [isText]

/-- All mappings that are listed one by one have a property. -/
def MappingSource.all (m : MappingSource) (p : Value → Bool) : Bool :=
  match m with
  | .module _ => true
  | .table entries => entries.all fun e => p e.2

theorem MappingSource.of_all {m : MappingSource} {p : Value → Bool} (h : m.all p = true)
    {entries : List (String × Value)} (hm : m = .table entries) {name : String} {v : Value}
    (hget : Table.get? entries name = some v) : p v = true := by
  subst hm
  exact List.all_eq_true.mp h _ (Table.mem_of_get? hget)

/-- Only mappings stand where one is looked up, and the mark of imports for types is no list and no
object. -/
structure Settings.Readable (s : Settings) : Prop where
  scalars : s.scalars.all Value.isMapping = true
  directives : ∀ e ∈ s.directiveMappings, e.2.isMapping = true
  enums : (s.enumValues.all fun v => !Mapper.pointsOutside v || v.isMapping) = true
  typeImports : s.typeImports.key?.isSome = true

instance (s : Settings) : Decidable s.Readable :=
  decidable_of_iff (s.scalars.all Value.isMapping = true ∧
      (∀ e ∈ s.directiveMappings, e.2.isMapping = true) ∧
      (s.enumValues.all fun v => !Mapper.pointsOutside v || v.isMapping) = true ∧
      s.typeImports.key?.isSome = true)
    ⟨fun ⟨a, b, c, d⟩ => ⟨a, b, c, d⟩, fun ⟨a, b, c, d⟩ => ⟨a, b, c, d⟩⟩

namespace Mapper

def FromText (m : Mapper) : Prop :=
  ∀ source, m.source = some source → ∃ path, source.module = .text path

theorem fromText_inline (expression : String) : (inline expression).FromText := nofun

theorem fromText_some (type : Value) (path : String) (imported : Option String) (boundAs : Value) :
    FromText { type, source := some { module := .text path, imported, boundAs } } := by
  intro source hsource
  cases hsource
  exact ⟨path, rfl⟩

theorem fromText_ofIdentifier (path : String) (identifier : List Char) (typeName suffix : String) :
    (ofIdentifier (.text path) identifier typeName suffix).FromText := by
  unfold ofIdentifier
  simp only
  split
  · exact fromText_some _ path none _
  · split
    · exact fromText_some _ path _ _
    · exact fromText_some _ path _ _

theorem exists_ofObject {fields : Table String Value}
    (h : (Value.object fields).isMapping = true) (typeName suffix : String) :
    ∃ m, ofObject fields typeName suffix = .ok m ∧ m.FromText := by
  rw [Value.isMapping, Bool.and_eq_true, Bool.and_eq_true] at h
  obtain ⟨⟨hmodule, hsymbol⟩, _⟩ := h
  obtain ⟨_, hmodule, htext⟩ := (Option.any_eq_true ..).mp hmodule
  obtain ⟨path, rfl⟩ := Value.isText_iff.mp htext
  -- An empty symbol counts as none, and the name of the type stands for it.
  have htext : ∃ name,
      ((Table.get? fields "symbol").getD .null).orElse (.text typeName) = .text name := by
    cases hget : Table.get? fields "symbol" with
    | none => exact ⟨typeName, rfl⟩
    | some symbol =>
      rw [hget, Option.all_some] at hsymbol
      obtain ⟨name, rfl⟩ := Value.isText_iff.mp hsymbol
      rw [Option.getD_some, Value.orElse]
      split
      · exact ⟨name, rfl⟩
      · exact ⟨typeName, rfl⟩
  obtain ⟨name, hname⟩ := htext
  unfold ofObject
  rw [hmodule]
  simp only [hname]
  split
  · exact ⟨_, rfl, fromText_some _ path none _⟩
  · split
    · exact ⟨_, rfl, fromText_ofIdentifier path _ typeName suffix⟩
    · exact ⟨_, rfl, fromText_ofIdentifier path _ typeName suffix⟩

theorem exists_ofValue {v : Value} (h : v.isMapping = true) (typeName suffix : String) :
    ∃ m, ofValue v typeName suffix = .ok m ∧ m.FromText := by
  cases v with
  | text s =>
    unfold ofValue
    simp only
    split
    · exact ⟨_, rfl, fromText_ofIdentifier _ _ typeName suffix⟩
    · exact ⟨_, rfl, fromText_inline s⟩
  | object fields => exact exists_ofObject h typeName suffix
  | null | bool _ | int _ | float _ | list _ => cases h

end Mapper

/-! ## Imports -/

namespace ImportLedger

/-- Modules, and what marks records as being for types, can be told apart. -/
structure Writable (l : ImportLedger) : Prop where
  typeImports : l.typeImports.key?.isSome = true
  records : ∀ p ∈ l.records, p.2.module.key?.isSome = true ∧ p.2.typeOnly.key?.isSome = true

theorem writable_new {typeImports : Value} (h : typeImports.key?.isSome = true) :
    Writable { typeImports } :=
  ⟨h, nofun⟩

theorem exists_add {l : ImportLedger} (h : l.Writable) (path : String) (boundAs : Value)
    (imported : Option String) {typeOnly : Option Value}
    (htype : ∀ v, typeOnly = some v → v.key?.isSome = true) :
    ∃ r l', l.add (.text path) boundAs imported false typeOnly = .ok (r, l') ∧ l'.Writable := by
  refine ⟨_, _, rfl, h.typeImports, ?_⟩
  intro p hp
  rcases Table.mem_of_mem_put hp with hp | rfl
  · exact h.records p hp
  · have hnew : (typeOnly.getD l.typeImports).key?.isSome = true := by
      cases typeOnly with
      | none => exact h.typeImports
      | some v => exact htype v rfl
    split
    · next older holder =>
      refine ⟨rfl, ?_⟩
      simp only [join]
      split
      · exact (h.records _ (Table.mem_of_get? holder)).2
      · exact hnew
    · exact ⟨rfl, hnew⟩

theorem exists_addMapper {l : ImportLedger} (h : l.Writable) {m : Mapper} (hm : m.FromText) :
    ∃ l', l.addMapper m = .ok l' ∧ l'.Writable := by
  unfold addMapper
  split
  · exact ⟨l, rfl, h⟩
  · next source hsource =>
    obtain ⟨path, hpath⟩ := hm source hsource
    have hnone : ∀ v : Value, none = some v → v.key?.isSome = true := nofun
    obtain ⟨r, l', hadd, hl'⟩ := exists_add h path source.boundAs source.imported hnone
    rw [hpath, hadd]
    exact ⟨l', rfl, hl'⟩

theorem Writable.congr {l l' : ImportLedger} (h : l.Writable)
    (htype : l'.typeImports = l.typeImports) (hrecords : l'.records = l.records) : l'.Writable :=
  ⟨htype ▸ h.typeImports, hrecords ▸ h.records⟩

theorem writable_addAssignment {l : ImportLedger} (h : l.Writable) (name : String)
    (target : Value) : (l.addAssignment name target).Writable := h.congr rfl rfl

theorem writable_addReexport {l : ImportLedger} (h : l.Writable) (name : String) :
    (l.addReexport name).Writable := by
  refine h.congr ?_ (addReexport_records l name)
  unfold addReexport
  split <;> rfl

theorem exists_addEnum {l : ImportLedger} (h : l.Writable) {s : Settings} {enum : String}
    {external : Option Mapper} (hexternal : s.externalEnum? enum = .ok external)
    (hm : ∀ m, external = some m → m.FromText) :
    ∃ l', l.addEnum s enum = .ok l' ∧ l'.Writable := by
  unfold addEnum
  rw [hexternal]
  rcases external with _ | ⟨type, _ | source⟩
  -- Nothing is asked for without a mapping, or without a module in it.
  · exact ⟨l, rfl, h⟩
  · exact ⟨l, rfl, h⟩
  · obtain ⟨path, hpath⟩ := hm _ rfl source rfl
    have hfalse : ∀ v, some (Value.bool false) = some v → v.key?.isSome = true := by
      rintro v ⟨⟩
      rfl
    obtain ⟨r, next, hadd, hnext⟩ := exists_add h path source.boundAs source.imported hfalse
    rw [← hpath] at hadd
    refine ⟨_, bind_eq_ok.mpr ⟨_, rfl, bind_eq_ok.mpr ⟨_, hadd, rfl⟩⟩, ?_⟩
    have hassigned : ∀ renamed : Bool,
        (if renamed then next.addAssignment enum type else next).Writable := by
      intro renamed
      split
      · exact writable_addAssignment hnext enum type
      · exact hnext
    split
    · exact hassigned _
    · exact writable_addReexport (hassigned _) enum

theorem exists_importLines {l : ImportLedger} (h : l.Writable) :
    ∃ lines, l.importLines = .ok lines := importLines_of_keyed h.records

end ImportLedger

/-! ## Resolved names -/

/-- Whether an enum lives in another module. -/
def Settings.isExternalEnum (s : Settings) (enum : String) : Bool :=
  match s.enumValues with
  | .module _ => true
  | .table entries => (Table.get? entries enum).any Mapper.pointsOutside

variable {schema : Schema} {s : Settings}

theorem Settings.exists_externalEnum (hs : s.Readable) (enum : String) :
    ∃ external, s.externalEnum? enum = .ok external ∧ external.isSome = s.isExternalEnum enum ∧
      ∀ m, external = some m → m.FromText := by
  have hsome : ∀ v : Value, v.isMapping = true → ∃ external,
      (Mapper.ofValue v enum).map some = .ok external ∧ external.isSome = true ∧
        ∀ m, external = some m → m.FromText := by
    intro v hv
    obtain ⟨m, hm, htext⟩ := Mapper.exists_ofValue hv enum ""
    exact ⟨some m, map_eq_ok.mpr ⟨m, hm, rfl⟩, rfl, fun _ h => Option.some.inj h ▸ htext⟩
  have hnone : ∀ m, (none : Option Mapper) = some m → m.FromText := by
    intro m h
    cases h
  unfold externalEnum? isExternalEnum
  cases henums : s.enumValues with
  | module path => exact hsome _ rfl
  | table entries =>
    simp only
    cases hget : Table.get? entries enum with
    | none => exact ⟨none, rfl, rfl, hnone⟩
    | some v =>
      simp only [Option.any_some]
      cases houtside : Mapper.pointsOutside v with
      | false => exact ⟨none, rfl, rfl, hnone⟩
      | true =>
        have hv := MappingSource.of_all hs.enums henums hget
        rw [houtside] at hv
        exact hsome v hv

namespace Code

namespace ScalarTable

theorem exists_resolve (hs : s.Readable) (name : String) :
    ∃ m, resolve s name = .ok m ∧ m.FromText := by
  unfold resolve
  cases hscalars : s.scalars with
  | module path =>
    simp only
    split
    · exact ⟨_, rfl, Mapper.fromText_inline _⟩
    · exact @Mapper.exists_ofValue (.text _) rfl name ""
  | table entries =>
    simp only
    split
    · next v hget =>
      exact Mapper.exists_ofValue (MappingSource.of_all hs.scalars hscalars hget) name ""
    · refine ⟨_, rfl, ?_⟩
      unfold unmapped
      split
      · exact Mapper.fromText_inline _
      · intro source hsource
        cases hsource

theorem settles_ofSchema (hs : s.Readable) :
    Settles (ofSchema schema s) ((unknownScalar? schema s).map EmitError.unknownScalar) := by
  unfold ofSchema
  cases unknownScalar? schema s with
  | some name => exact rfl
  | none =>
    have hrow : ∀ name ∈ namesToResolve schema s, ∃ row,
        (do return (name, ← resolve s name) : Except MappingError (String × Mapper)) = .ok row := by
      intro name _
      obtain ⟨m, hm, _⟩ := exists_resolve hs name
      exact ⟨(name, m), bind_eq_ok.mpr ⟨m, hm, rfl⟩⟩
    obtain ⟨resolved, hresolved⟩ := exists_mapM hrow
    exact ⟨_, bind_eq_ok.mpr ⟨_, mapError_eq_ok.mpr hresolved, rfl⟩⟩

theorem fromText_rows (hs : s.Readable) {t : ScalarTable} (h : ofSchema schema s = .ok t) :
    ∀ m ∈ Table.values t.rows, m.FromText := by
  obtain ⟨_, resolved, hresolved, hrows⟩ := rows_of_ok h
  intro m hm
  obtain ⟨row, hrow, rfl⟩ := List.mem_map.mp hm
  rw [hrows] at hrow
  rcases Table.mem_of_mem_putAll hrow with hrow | hrow
  · obtain ⟨_, _, rfl⟩ := List.mem_map.mp hrow
    exact Mapper.fromText_inline _
  · obtain ⟨name, _, hmade⟩ := exists_of_mem_mapM hresolved hrow
    obtain ⟨m, hm, htext⟩ := exists_resolve hs name
    obtain ⟨m', hm', hmade⟩ := bind_eq_ok.mp hmade
    rw [pure_eq_ok] at hmade
    rw [hm, Except.ok.injEq] at hm'
    rw [← hmade, ← hm']
    exact htext

end ScalarTable

namespace Emission

theorem exists_mapDirective (hs : s.Readable) {entry : String × Value}
    (hentry : entry ∈ s.directiveMappings) {state : Table String Value × ImportLedger}
    (hstate : state.2.Writable) :
    ∃ state', mapDirective s state entry = .ok state' ∧ state'.2.Writable := by
  obtain ⟨m, hm, htext⟩ :=
    Mapper.exists_ofValue (hs.directives entry hentry) entry.1 s.mappingSuffix
  obtain ⟨next, hnext, hwritable⟩ := ImportLedger.exists_addMapper hstate htext
  exact ⟨_, bind_eq_ok.mpr ⟨m, hm, bind_eq_ok.mpr ⟨next, hnext, rfl⟩⟩, hwritable⟩

theorem exists_gather (hs : s.Readable) {t : ScalarTable}
    (h : ScalarTable.ofSchema schema s = .ok t) :
    ∃ mapped ledger, gather schema s t = .ok (mapped, ledger) ∧ ledger.Writable := by
  obtain ⟨ofScalars, hscalars, hwritable⟩ := foldlM_total
    (fun m hm l hl => ImportLedger.exists_addMapper hl (ScalarTable.fromText_rows hs h m hm))
    (ImportLedger.writable_new hs.typeImports)
  -- The directives begin with the ledger of the scalars and no mapping.
  have hstart : ((([] : Table String Value), ofScalars) : _ × _).2.Writable := hwritable
  obtain ⟨⟨mapped, ofDirectives⟩, hmapped, hwritable⟩ :=
    foldlM_total (fun _ hentry _ hstate => exists_mapDirective hs hentry hstate) hstart
  have hwritable : ofDirectives.Writable := hwritable
  have henum : ∀ t ∈ schema.userTypes.filter isEnum, ∀ l : ImportLedger, l.Writable →
      ∃ l', l.addEnum s t.name = .ok l' ∧ l'.Writable := by
    intro t _ l hl
    obtain ⟨external, hexternal, _, htext⟩ := Settings.exists_externalEnum hs t.name
    exact ImportLedger.exists_addEnum hl hexternal htext
  obtain ⟨ledger, hledger, hwritable⟩ := foldlM_total henum hwritable
  refine ⟨mapped, ledger, ?_, hwritable⟩
  exact bind_eq_ok.mpr ⟨_, hscalars, bind_eq_ok.mpr ⟨_, hmapped, bind_eq_ok.mpr ⟨_, hledger, rfl⟩⟩⟩

end Emission

end Code

end SchemaTypings
