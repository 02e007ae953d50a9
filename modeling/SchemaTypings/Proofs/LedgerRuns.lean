import SchemaTypings.Proofs.Bindings
import SchemaTypings.Proofs.TableOrder

/-!
# Runs of a ledger

However the calls on a ledger follow each other, its records come out the same as if all that was
asked for under a key had been looked at together: one record for each key, at the place of the
first asking, bound as the last one wants it, passed on if one of them wants that, and for types
only if all of them do.
-/

open SchemaTypings.Outcome

namespace SchemaTypings

namespace ImportLedger

/-! ## Calls -/

inductive Call where
  | add (module boundAs : Value) (imported : Option String) (reexport : Bool)
      (typeOnly : Option Value)
  | addMapper (m : Mapper) (typeOnly : Option Value)
  | addEnum (s : Settings) (enum : String)
  | addAssignment (name : String) (target : Value)
  | addReexport (name : String)

def Call.run (ledger : ImportLedger) : Call → Except MappingError ImportLedger
  | add module boundAs imported reexport typeOnly =>
    (ledger.add module boundAs imported reexport typeOnly).map (·.2)
  | addMapper m typeOnly => ledger.addMapper m typeOnly
  | addEnum s enum => ledger.addEnum s enum
  | addAssignment name target => .ok (ledger.addAssignment name target)
  | addReexport name => .ok (ledger.addReexport name)

/-- What a run leaves: a run that is refused leaves the ledger as it was. -/
def orElse (ledger : ImportLedger) (run : Except MappingError ImportLedger) : ImportLedger :=
  run.toOption.getD ledger

/-- A new ledger after some calls, be they refused or not. -/
def after (typeImports : Value) (calls : List Call) : ImportLedger :=
  calls.foldl (fun ledger call => ledger.orElse (call.run ledger)) { typeImports }

theorem after_snoc (typeImports : Value) (calls : List Call) (call : Call) :
    after typeImports (calls ++ [call]) =
      (after typeImports calls).orElse (call.run (after typeImports calls)) := by
  simp [after]

/-- A symbol that is asked for, whether to be passed on, and whether for types only. -/
structure Wish where
  source : ImportSource
  reexport : Bool
  typeOnly : Value

def Wish.key? (w : Wish) : Option (Value.Key × String) := w.source.key?

/-- The symbol of an enum that lives elsewhere, which is never for types only. -/
def enumWish? (s : Settings) (enum : String) : Option Wish :=
  match s.externalEnum? enum with
  | .ok (some m) => m.source.map fun i => ⟨i, false, .bool false⟩
  | _ => none

/-- The symbol that a call asks for; what the call does not say of types the ledger says. -/
def Call.wish? (typeImports : Value) : Call → Option Wish
  | add module boundAs imported reexport typeOnly =>
    some ⟨⟨module, imported, boundAs⟩, reexport, typeOnly.getD typeImports⟩
  | addMapper m typeOnly => m.source.map fun i => ⟨i, false, typeOnly.getD typeImports⟩
  | addEnum s enum => enumWish? s enum
  | addAssignment .. | addReexport _ => none

/-- All that is asked for in some calls. A module that cannot be a key is refused. -/
def wishes (typeImports : Value) (calls : List Call) : List Wish :=
  (calls.filterMap (Call.wish? typeImports)).filter fun w => w.key?.isSome

theorem wishes_snoc (typeImports : Value) (calls : List Call) (call : Call) :
    wishes typeImports (calls ++ [call]) = wishes typeImports calls ++
      (call.wish? typeImports).toList.filter fun w => w.key?.isSome := by
  unfold wishes
  rw [List.filterMap_append, List.filter_append]
  cases hwish : call.wish? typeImports <;> simp [hwish]

/-! ## Filing -/

abbrev Records := Table (Value.Key × String) ImportRecord

def Wish.record (w : Wish) : ImportRecord :=
  { module := w.source.module, boundAs := w.source.boundAs, imported := w.source.imported,
    reexport := w.reexport, typeOnly := w.typeOnly }

def Wish.joined (w : Wish) : Option ImportRecord → ImportRecord
  | none => w.record
  | some older => join w.record older

theorem Wish.source_joined (w : Wish) (older : Option ImportRecord) :
    (w.joined older).source = w.source := by
  cases older <;> rfl

def file (records : Records) (w : Wish) : Records :=
  match w.key? with
  | some key => Table.put records key (w.joined (Table.get? records key))
  | none => records

theorem file_of_key {w : Wish} {key : Value.Key × String} (hkey : w.key? = some key)
    (records : Records) :
    file records w = Table.put records key (w.joined (Table.get? records key)) := by
  rw [file, hkey]

/-- One ledger comes from another by filing a wish, if there is one, whatever else is noted. -/
structure Files (ledger : ImportLedger) (wish? : Option Wish) (ledger' : ImportLedger) : Prop where
  typeImports : ledger'.typeImports = ledger.typeImports
  records : ledger'.records = (wish?.toList).foldl file ledger.records

theorem Files.refl (ledger : ImportLedger) : ledger.Files none ledger := ⟨rfl, rfl⟩

theorem Files.addAssignment {ledger ledger' : ImportLedger} {wish? : Option Wish}
    (h : ledger.Files wish? ledger') (name : String) (target : Value) :
    ledger.Files wish? (ledger'.addAssignment name target) := ⟨h.typeImports, h.records⟩

theorem Files.addReexport {ledger ledger' : ImportLedger} {wish? : Option Wish}
    (h : ledger.Files wish? ledger') (name : String) :
    ledger.Files wish? (ledger'.addReexport name) := by
  unfold ImportLedger.addReexport
  split
  · exact h
  · exact ⟨h.typeImports, h.records⟩

theorem add_of_key {ledger : ImportLedger} {w : Wish} {key : Value.Key × String}
    (hkey : w.key? = some key) {typeOnly : Option Value}
    (htypes : typeOnly.getD ledger.typeImports = w.typeOnly) :
    ledger.add w.source.module w.source.boundAs w.source.imported w.reexport typeOnly =
      .ok (w.joined (Table.get? ledger.records key),
        { ledger with records := file ledger.records w }) := by
  rw [file_of_key hkey]
  obtain ⟨k, hk, rfl⟩ := Option.map_eq_some_iff.mp hkey
  have hsymbol : w.record.symbol = w.source.symbol := rfl
  unfold Wish.record at hsymbol
  unfold add
  rw [htypes, keyOf_eq_ok.mpr hk, ok_bind]
  simp only [hsymbol]
  cases Table.get? ledger.records (k, w.source.symbol) <;> rfl

theorem add_of_keyless {ledger : ImportLedger} {w : Wish} (hkey : w.key? = none)
    (typeOnly : Option Value) :
    ledger.add w.source.module w.source.boundAs w.source.imported w.reexport typeOnly =
      .error (.notAKey w.source.module) := by
  have hmodule : w.source.module.key? = none := Option.map_eq_none_iff.mp hkey
  unfold add keyOf
  rw [hmodule]
  rfl

theorem files_add (ledger : ImportLedger) (w : Wish) (typeOnly : Option Value)
    (htypes : typeOnly.getD ledger.typeImports = w.typeOnly) :
    ledger.Files (some w) (ledger.orElse ((ledger.add w.source.module w.source.boundAs
      w.source.imported w.reexport typeOnly).map (·.2))) := by
  cases hkey : w.key? with
  | none =>
    rw [add_of_keyless hkey]
    refine ⟨rfl, ?_⟩
    rw [Option.toList_some, List.foldl_cons, List.foldl_nil, file, hkey]
    rfl
  | some key =>
    rw [add_of_key hkey htypes]
    exact ⟨rfl, rfl⟩

theorem files_addEnum (ledger : ImportLedger) (s : Settings) (enum : String) :
    ledger.Files (enumWish? s enum) (ledger.orElse (ledger.addEnum s enum)) := by
  unfold addEnum enumWish?
  rcases s.externalEnum? enum with e | _ | ⟨type, _ | i⟩
  · exact .refl ledger
  · exact .refl ledger
  · exact .refl ledger
  · have hfiled := files_add ledger ⟨i, false, .bool false⟩ (some (.bool false)) rfl
    simp only [ok_bind, Option.map_some]
    cases hadd : ledger.add i.module i.boundAs i.imported false (some (.bool false)) with
    | error e =>
      simp only [hadd] at hfiled
      exact hfiled
    | ok filed =>
      simp only [hadd] at hfiled
      -- What is written for the enum besides does not touch the records.
      have hnamed : ∀ renamed : Bool, ledger.Files (some ⟨i, false, .bool false⟩)
          (if renamed then filed.2.addAssignment enum type else filed.2) := by
        intro renamed
        cases renamed with
        | true => exact hfiled.addAssignment enum type
        | false => exact hfiled
      simp only [ok_bind, pure, Except.pure, orElse, Except.toOption, Option.getD_some]
      split
      · exact hnamed _
      · exact (hnamed _).addReexport enum

theorem files_run (ledger : ImportLedger) (call : Call) :
    ledger.Files (call.wish? ledger.typeImports) (ledger.orElse (call.run ledger)) := by
  cases call with
  | add module boundAs imported reexport typeOnly =>
    exact files_add ledger ⟨⟨module, imported, boundAs⟩, reexport, _⟩ typeOnly rfl
  | addMapper m typeOnly =>
    simp only [Call.run, addMapper, Call.wish?]
    cases m.source with
    | none => exact .refl ledger
    | some i => exact files_add ledger ⟨i, false, typeOnly.getD ledger.typeImports⟩ typeOnly rfl
  | addEnum s enum => exact files_addEnum ledger s enum
  | addAssignment name target => exact (Files.refl ledger).addAssignment name target
  | addReexport name => exact (Files.refl ledger).addReexport name

/-! ## What the records join -/

/-- A record is the join of some wishes for its symbol: bound as the last one wants it, passed on if
one of them wants that, and for types only if all of them are. -/
structure JoinOf (ws : List Wish) (r : ImportRecord) : Prop where
  last : ws.getLast?.map Wish.source = some r.source
  reexport : r.reexport = ws.any Wish.reexport
  typeOnly : r.typeOnly.truthy = ws.all fun w => w.typeOnly.truthy
  given : ∃ w ∈ ws, r.typeOnly = w.typeOnly

theorem joinOf_single (w : Wish) : JoinOf [w] (w.joined none) := by
  refine ⟨rfl, ?_, ?_, w, List.mem_cons_self, rfl⟩ <;> simp [Wish.joined, Wish.record]

theorem JoinOf.snoc {ws : List Wish} {older : ImportRecord} (h : JoinOf ws older) (w : Wish) :
    JoinOf (ws ++ [w]) (w.joined (some older)) := by
  refine ⟨?_, ?_, ?_, ?_⟩
  · rw [List.getLast?_concat, Option.map_some, Wish.source_joined]
  · rw [List.any_append, List.any_cons, List.any_nil, Bool.or_false, ← h.reexport, Bool.or_comm]
    rfl
  · rw [List.all_append, List.all_cons, List.all_nil, Bool.and_true, ← h.typeOnly]
    cases hw : w.typeOnly.truthy <;> simp [Wish.joined, join, Wish.record, hw]
  · obtain ⟨w', hw', hgiven⟩ := h.given
    cases hw : w.typeOnly.truthy with
    | true =>
      refine ⟨w', List.mem_append_left _ hw', ?_⟩
      simp [Wish.joined, join, Wish.record, hw, hgiven]
    | false =>
      refine ⟨w, List.mem_append_right _ List.mem_cons_self, ?_⟩
      simp [Wish.joined, join, Wish.record, hw]

def under (ws : List Wish) (key? : Option (Value.Key × String)) : List Wish :=
  ws.filter fun w => w.key? = key?

/-- Each symbol that was asked for has one record, at the place of the first asking, which joins all
wishes for it. -/
structure Joined (records : Records) (ws : List Wish) : Prop where
  nodup : (Table.keys records).Nodup
  order : (Table.keys records).map some = (ws.map Wish.key?).eraseDups
  joins : ∀ key r, Table.get? records key = some r → JoinOf (under ws (some key)) r

namespace Joined

variable {records : Records} {ws : List Wish}

theorem nil : Joined [] [] := ⟨List.nodup_nil, rfl, nofun⟩

theorem mem_keys_iff (h : Joined records ws) {key : Value.Key × String} :
    key ∈ Table.keys records ↔ some key ∈ ws.map Wish.key? := by
  have hmem : some key ∈ (Table.keys records).map some ↔ some key ∈ ws.map Wish.key? := by
    rw [h.order, List.mem_eraseDups]
  rw [← hmem]
  simp

theorem under_of_new (h : Joined records ws) {key : Value.Key × String}
    (hget : Table.get? records key = none) : under ws (some key) = [] := by
  have hnew : some key ∉ ws.map Wish.key? := by
    rw [← h.mem_keys_iff, Table.mem_keys_iff, hget]
    exact Bool.false_ne_true
  refine List.filter_eq_nil_iff.mpr fun w hw hkey => hnew ?_
  exact List.mem_map.mpr ⟨w, hw, of_decide_eq_true hkey⟩

theorem file (h : Joined records ws) {w : Wish} {key : Value.Key × String}
    (hkey : w.key? = some key) : Joined (file records w) (ws ++ [w]) := by
  rw [file_of_key hkey]
  refine ⟨Table.nodup_keys_put _ _ _ h.nodup, ?_, ?_⟩
  · rw [Table.keys_put, List.map_append, List.map_singleton, eraseDups_snoc, ← h.order, hkey]
    -- A key that was there keeps its place.
    by_cases hk : key ∈ Table.keys records
    · rw [if_pos hk, if_pos (h.mem_keys_iff.mp hk)]
    · rw [if_neg hk, if_neg (mt h.mem_keys_iff.mpr hk), List.map_append, List.map_singleton]
  · intro key' r hr
    rw [Table.get?_put] at hr
    rw [under, List.filter_append, List.filter_singleton, hkey]
    split at hr
    · next heq =>
      subst heq
      obtain rfl := Option.some.inj hr
      simp only [decide_true, cond_true]
      cases hget : Table.get? records key with
      | none =>
        rw [show ws.filter _ = [] from h.under_of_new hget]
        exact joinOf_single w
      | some older => exact (h.joins key older hget).snoc w
    · next hne =>
      simp only [Option.some.injEq, hne, decide_false, cond_false, List.append_nil]
      exact h.joins key' r hr

theorem fileAll (hkeys : ∀ w ∈ ws, w.key?.isSome = true) :
    Joined (ws.foldl ImportLedger.file []) ws := by
  induction ws using List.reverseRecOn with
  | nil => exact nil
  | append_singleton ws w ih =>
    rw [List.forall_mem_append, List.forall_mem_singleton] at hkeys
    obtain ⟨key, hkey⟩ := Option.isSome_iff_exists.mp hkeys.2
    rw [List.foldl_append, List.foldl_cons, List.foldl_nil]
    exact (ih hkeys.1).file hkey

theorem key_of_mem (h : Joined records ws) {p : (Value.Key × String) × ImportRecord}
    (hp : p ∈ records) : p.2.source.key? = some p.1 := by
  have hlast := (h.joins p.1 p.2 ((Table.get?_eq_some_iff h.nodup).mpr hp)).last
  obtain ⟨w, hw, hsource⟩ := Option.map_eq_some_iff.mp hlast
  rw [← hsource]
  exact of_decide_eq_true (List.mem_filter.mp (List.mem_of_getLast? hw)).2

theorem keys_eq (h : Joined records ws) :
    (Table.values records).map (fun r => r.source.key?) = (Table.keys records).map some := by
  unfold Table.values Table.keys
  rw [List.map_map, List.map_map]
  exact List.map_congr_left fun p hp => h.key_of_mem hp

end Joined

/-! ## Runs -/

theorem typeImports_after (typeImports : Value) (calls : List Call) :
    (after typeImports calls).typeImports = typeImports := by
  induction calls using List.reverseRecOn with
  | nil => rfl
  | append_singleton calls call ih =>
    rw [after_snoc, (files_run _ call).typeImports, ih]

theorem file_of_keyless {w : Wish} (hkey : w.key? = none) (records : Records) :
    file records w = records := by
  rw [file, hkey]

theorem records_after (typeImports : Value) (calls : List Call) :
    (after typeImports calls).records = (wishes typeImports calls).foldl file [] := by
  induction calls using List.reverseRecOn with
  | nil => rfl
  | append_singleton calls call ih =>
    rw [after_snoc, (files_run _ call).records, ih, typeImports_after, wishes_snoc,
      List.foldl_append]
    cases call.wish? typeImports with
    | none => rfl
    | some w => cases hkey : w.key? <;> simp [hkey, file_of_keyless]

theorem joined_after (typeImports : Value) (calls : List Call) :
    Joined (after typeImports calls).records (wishes typeImports calls) := by
  rw [records_after]
  exact Joined.fileAll fun w hw => (List.mem_filter.mp hw).2

/-- **After any calls there is one record for each symbol that was asked for, in the order of first
asking, and it joins all wishes for its symbol.** -/
theorem after_records (typeImports : Value) (calls : List Call) :
    let records := Table.values (after typeImports calls).records
    let ws := wishes typeImports calls
    (records.map fun r => r.source.key?) = (ws.map Wish.key?).eraseDups ∧
      (records.map fun r => r.source.key?).Nodup ∧
      ∀ r ∈ records, JoinOf (under ws r.source.key?) r := by
  intro records ws
  have h : Joined (after typeImports calls).records ws := joined_after typeImports calls
  refine ⟨h.keys_eq.trans h.order, ?_, ?_⟩
  · rw [h.keys_eq]
    exact List.Nodup.map (fun _ _ => Option.some.inj) h.nodup
  · intro r hr
    obtain ⟨key, hget⟩ := (Table.mem_values_iff h.nodup).mp hr
    rw [h.key_of_mem (Table.mem_of_get? hget)]
    exact h.joins key r hget

end ImportLedger

end SchemaTypings
