import Mathlib.Data.List.Perm.Basic
import SchemaTypings.Proofs.LedgerRuns
import SchemaTypings.Proofs.Lines

/-!
# What the import lines mention

Records are written group by group, a group being a module and whether its symbols are for types
only. Only the first default export of a group is written, and there is no second one: the records
of a module differ in what they import.
-/

open SchemaTypings.Outcome

namespace SchemaTypings

/-! ## Keys that are true -/

theorem Binary64.isZero_of_toRat? {x : Binary64} {q : Rat} (h : x.toRat? = some q) :
    x.isZero = true ↔ q = 0 := by
  cases x with
  | nan | infinite _ => cases h
  | finite negative m e =>
    have hpow : ((2 : Rat) ^ e) ≠ 0 := by
      intro hzero
      have hpos : (0 : Rat) < 2 ^ e := Rat.zpow_pos (by decide)
      rw [hzero] at hpos
      exact Rat.lt_irrefl hpos
    have hsize : (m : Rat) * 2 ^ e = 0 ↔ m = 0 := by
      rw [Rat.mul_eq_zero, or_iff_left hpow, Rat.natCast_eq_zero_iff]
    have hneg : ∀ r : Rat, -r = 0 ↔ r = 0 := fun r =>
      ⟨fun hr => by rw [← Rat.neg_neg r, hr]; rfl, fun hr => by rw [hr]; rfl⟩
    have hzero : (finite negative m e).isZero = true ↔ m = 0 := by
      cases m <;> simp [isZero]
    obtain rfl := Option.some.inj h
    rw [hzero, ← hsize]
    cases negative with
    | false => rfl
    | true => exact (hneg _).symm

theorem Value.truthy_of_key? {v : Value} {k : Value.Key} (h : v.key? = some k) :
    v.truthy = k.truthy := by
  cases v with
  | null => cases h; rfl
  | bool b => cases h; cases b <;> rfl
  | int n =>
    cases h
    rw [truthy, Key.truthy, Bool.eq_iff_iff, bne_iff_ne, bne_iff_ne, ne_eq, ne_eq,
      Rat.intCast_eq_zero_iff]
  | float x =>
    cases x with
    | nan | infinite _ => cases h; rfl
    | finite negative m e =>
      have hkey : ((Binary64.finite negative m e).toRat?.map Key.number) = some k := h
      obtain ⟨q, hq, rfl⟩ := Option.map_eq_some_iff.mp hkey
      rw [truthy, Key.truthy, Bool.eq_iff_iff, bne_iff_ne, ne_eq, Bool.not_eq_true',
        ← Binary64.isZero_of_toRat? hq, Bool.not_eq_true]
  | text s => cases h; rfl
  | list _ | object _ => cases h

/-! ## Groups -/

theorem flatMap_filter_perm {α κ : Type} [DecidableEq κ] {key? : α → Option κ} {keys : List κ}
    (hkeys : keys.Nodup) {items : List α} (hitems : ∀ i ∈ items, ∃ k ∈ keys, key? i = some k) :
    (keys.flatMap fun k => items.filter fun i => key? i = some k).Perm items := by
  induction keys generalizing items with
  | nil =>
    obtain rfl : items = [] := List.eq_nil_iff_forall_not_mem.mpr fun i hi => by
      obtain ⟨k, hk, _⟩ := hitems i hi
      cases hk
    exact .refl _
  | cons k rest ih =>
    rw [List.nodup_cons] at hkeys
    let others := items.filter fun i => !decide (key? i = some k)
    -- The other keys differ from this one, so they do not miss what it takes.
    have hothers : (rest.flatMap fun k' => items.filter fun i => key? i = some k') =
        rest.flatMap fun k' => others.filter fun i => key? i = some k' := by
      refine List.flatMap_congr fun k' hk' => ?_
      rw [List.filter_filter]
      refine List.filter_congr fun i _ => ?_
      have hne : k' ≠ k := fun heq => hkeys.1 (heq ▸ hk')
      by_cases hi : key? i = some k' <;> simp [hi, hne]
    have hrest : ∀ i ∈ others, ∃ k' ∈ rest, key? i = some k' := by
      intro i hi
      obtain ⟨hi, hne⟩ := List.mem_filter.mp hi
      obtain ⟨k', hk', hkey⟩ := hitems i hi
      rcases List.mem_cons.mp hk' with rfl | hk'
      · simp [hkey] at hne
      · exact ⟨k', hk', hkey⟩
    rw [List.flatMap_cons, hothers]
    exact ((ih hkeys.2 hrest).append_left _).trans (List.filter_append_perm _ items)

namespace ImportLedger

/-! ## Mentions -/

/-- What is said of one symbol; without `imported` it is the default export. -/
structure Mention where
  module : Option Value.Key
  typeOnly : Bool
  imported : Option String
  boundAs : Value

def mention (r : ImportRecord) : Mention :=
  { module := r.module.key?, typeOnly := r.typeOnly.truthy, imported := r.imported,
    boundAs := r.boundAs }

/-- The bindings of a statement, the one before the braces and then those inside. -/
def Statement.mentions (st : Statement) : List Mention :=
  let say := Mention.mk st.module.key? st.typeOnly
  st.default.toList.map (say none) ++ st.named.map fun (name, boundAs) => say (some name) boundAs

/-- The default export first, and the named symbols in their order. -/
def defaultFirst (rs : List ImportRecord) : List ImportRecord :=
  rs.filter (·.imported.isNone) ++ rs.filter (·.imported.isSome)

theorem defaultFirst_perm (rs : List ImportRecord) : (defaultFirst rs).Perm rs := by
  have hnot : ∀ r : ImportRecord, r.imported.isSome = !r.imported.isNone := by simp
  unfold defaultFirst
  simp only [hnot]
  exact List.filter_append_perm _ rs

/-- Statements for the records of a module that are all for types, or all not: one, or two if the
default export cannot stand with the named symbols. -/
structure Write (module : Value.Key) (typeOnly : Bool) (rs : List ImportRecord)
    (statements : List Statement) : Prop where
  atMostTwo : statements.length ≤ 2
  heading : ∀ st ∈ statements, st.module.key? = some module ∧ st.typeOnly = typeOnly
  apart : ∀ st ∈ statements, st.typeOnly = true → st.default = none ∨ st.named = []
  filled : ∀ st ∈ statements, st.mentions ≠ []
  mentions : statements.flatMap Statement.mentions = (defaultFirst rs).map mention

theorem map_mention_defaults {module : Option Value.Key} {typeOnly : Bool} {rs : List ImportRecord}
    (h : ∀ r ∈ rs, r.module.key? = module ∧ r.typeOnly.truthy = typeOnly) :
    (rs.filter (·.imported.isNone)).map mention =
      ((rs.filter (·.imported.isNone)).map ImportRecord.boundAs).map
        (Mention.mk module typeOnly none) := by
  rw [List.map_map]
  refine List.map_congr_left fun r hr => ?_
  rw [List.mem_filter, Option.isNone_iff_eq_none] at hr
  rw [mention, (h r hr.1).1, (h r hr.1).2, hr.2]
  rfl

theorem map_mention_named {module : Option Value.Key} {typeOnly : Bool} {rs : List ImportRecord}
    (h : ∀ r ∈ rs, r.module.key? = module ∧ r.typeOnly.truthy = typeOnly) :
    (rs.filter (·.imported.isSome)).map mention =
      (rs.filterMap fun r => r.imported.map fun name => (name, r.boundAs)).map
        fun (name, boundAs) => Mention.mk module typeOnly (some name) boundAs := by
  induction rs with
  | nil => rfl
  | cons r rs ih =>
    rw [List.forall_mem_cons] at h
    have hr : mention r = Mention.mk module typeOnly r.imported r.boundAs := by
      rw [mention, h.1.1, h.1.2]
    cases himported : r.imported with
    | none => simpa [himported] using ih h.2
    | some name => simpa [himported, hr] using ih h.2

theorem Group.write {g : Group} {module : Value.Key} (hmodule : g.module.key? = some module)
    (hrecords : ∀ r ∈ g.records, r.module.key? = some module ∧
      r.typeOnly.truthy = g.typeOnly.truthy)
    (hone : (g.records.filter (·.imported.isNone)).length ≤ 1) :
    Write module g.typeOnly.truthy g.records g.statements := by
  have hdefaults := map_mention_defaults hrecords
  have hnamed := map_mention_named hrecords
  have hmentions : (defaultFirst g.records).map mention = _ :=
    List.map_append.trans (congrArg₂ (· ++ ·) hdefaults hnamed)
  unfold Group.statements
  generalize g.records.filter (·.imported.isNone) = defaults at *
  generalize (g.records.filterMap fun r => r.imported.map fun n => (n, r.boundAs)) = named at *
  generalize g.typeOnly.truthy = typeOnly at *
  -- A statement of its own for the named symbols if the group is for types only.
  match defaults, named, hone with
  | [], [], _ | [], _ :: _, _ | [_], [], _ =>
    constructor <;> simp [Statement.mentions, hmodule, hmentions]
  | [_], _ :: _, _ =>
    cases typeOnly <;> constructor <;> simp [Statement.mentions, hmodule, hmentions]

/-! ## The words of a line -/

/-- A default export is said by the name that it gets, another symbol by its own name, and by both if
they differ. -/
def Mention.words (m : Mention) : String :=
  match m.imported, m.boundAs with
  | none, bound => bound.display
  | some name, .text bound => if name = bound then name else name ++ " as " ++ bound
  | some name, bound => name ++ " as " ++ bound.display

/-- A line imports from the module of a mention, as it says, and its words are among the bindings. -/
def Says (line : String) (m : Mention) : Prop :=
  ∃ (module : Value) (bindings : String), module.key? = m.module ∧
    line = (if m.typeOnly then "import type " else "import ") ++ bindings ++ " from '" ++
      module.display ++ "';" ∧ m.words.toList <:+: bindings.toList

theorem bindingText_eq_words (module : Option Value.Key) (typeOnly : Bool) (name : String)
    (boundAs : Value) :
    bindingText name boundAs = (Mention.mk module typeOnly (some name) boundAs).words := by
  cases boundAs <;> rfl

theorem Statement.says {st : Statement} {m : Mention} (hm : m ∈ st.mentions) :
    Says st.render m := by
  rcases List.mem_append.mp hm with hm | hm
  · obtain ⟨name, hname, rfl⟩ := List.mem_map.mp hm
    have hdefault : st.default = some name := Option.mem_toList.mp hname
    refine ⟨st.module, _, rfl, rfl, ?_⟩
    rw [hdefault]
    cases st.named with
    | nil => exact List.infix_refl _
    | cons _ _ =>
      simp only [String.toList_append, List.append_assoc]
      exact (List.prefix_append ..).isInfix
  · obtain ⟨⟨name, boundAs⟩, hmem, rfl⟩ := List.mem_map.mp hm
    refine ⟨st.module, _, rfl, rfl, ?_⟩
    rw [← bindingText_eq_words]
    -- The words stand between commas, and these stand between braces.
    have hpiece := Text.infix_join (", ".toList) (List.mem_map_of_mem (f := String.toList)
      (List.mem_map_of_mem (f := fun (i, b) => bindingText i b) hmem))
    rw [Text.join, ← String.toList_intercalate] at hpiece
    have hbraces := hpiece.trans (List.infix_append "\x7b ".toList _ " \x7d".toList)
    rw [← String.toList_append, ← String.toList_append] at hbraces
    cases hnamed : st.named with
    | nil => rw [hnamed] at hmem; cases hmem
    | cons p rest =>
      rw [hnamed] at hbraces
      cases st.default with
      | none => exact hbraces
      | some name =>
        refine hbraces.trans ?_
        simp only [String.toList_append]
        exact (List.suffix_append ..).isInfix

/-! ## All groups -/

theorem last?_sources (ws : List Wish) (key : Value.Key × String) :
    ImportSource.last? (ws.map Wish.source) key =
      (under ws (some key)).getLast?.map Wish.source := by
  unfold ImportSource.last? under
  rw [← List.map_reverse, List.find?_map, List.getLast?_eq_head?_reverse, ← List.filter_reverse,
    List.head?_filter]
  rfl

theorem Joined.holds {ledger : ImportLedger} {ws : List Wish} (h : Joined ledger.records ws) :
    ledger.Holds (ws.map Wish.source) := by
  refine ⟨?_, h.nodup, ?_⟩
  · intro i hi
    obtain ⟨w, hw, rfl⟩ := List.mem_map.mp hi
    have hkey : w.key? ∈ (Table.keys ledger.records).map some := by
      rw [h.order, List.mem_eraseDups]
      exact List.mem_map_of_mem hw
    obtain ⟨key, _, hkey⟩ := List.mem_map.mp hkey
    exact ⟨key, hkey.symm⟩
  · intro key
    rw [last?_sources]
    cases hget : Table.get? ledger.records key with
    | none =>
      rw [h.under_of_new hget]
      rfl
    | some r => exact (h.joins key r hget).last.symm

/-- The groups of some records, in the order in which they are first met. -/
def groupKeys (rs : List ImportRecord) : List (Value.Key × Value.Key) :=
  (rs.filterMap groupKey?).eraseDups

/-- Each group stands where its first record does, and is of the kind that its key says. -/
structure InOrder (rs : List ImportRecord) (groups : Table (Value.Key × Value.Key) Group) :
    Prop where
  keys : Table.keys groups = groupKeys rs
  kind : ∀ p ∈ groups, p.2.typeOnly.key? = some p.1.2

theorem kind_of_groupKey? {r : ImportRecord} {key : Value.Key × Value.Key}
    (h : groupKey? r = some key) : r.typeOnly.key? = some key.2 := by
  obtain ⟨m, _, h⟩ := Option.bind_eq_some_iff.mp h
  obtain ⟨t, ht, rfl⟩ := Option.map_eq_some_iff.mp h
  exact ht

theorem inOrder {rs : List ImportRecord} {groups : Table (Value.Key × Value.Key) Group}
    (h : group rs = .ok groups) : InOrder rs groups := by
  refine group_invariant InOrder ⟨rfl, nofun⟩ ?_ h
  intro done r groups key hdone hkey old hold
  constructor
  · rw [Table.keys_put, groupKeys, List.filterMap_append, List.filterMap_cons_some hkey,
      List.filterMap_nil, eraseDups_snoc, ← groupKeys, ← hdone.keys]
    have hmem : key ∈ Table.keys groups ↔ key ∈ done.filterMap groupKey? := by
      rw [hdone.keys, groupKeys, List.mem_eraseDups]
    by_cases hk : key ∈ Table.keys groups
    · rw [if_pos hk, if_pos (hmem.mp hk)]
    · rw [if_neg hk, if_neg (mt hmem.mpr hk)]
  · intro p hp
    rcases Table.mem_of_mem_put hp with hp | rfl
    · exact hdone.kind p hp
    · rw [hold]
      cases hget : Table.get? groups key with
      | none => exact kind_of_groupKey? hkey
      | some g => exact hdone.kind (key, g) (Table.mem_of_get? hget)

def Written (rs : List ImportRecord) (pieces : List (List Statement)) : Prop :=
  List.Forall₂
    (fun key piece => Write key.1 key.2.truthy (rs.filter fun r => groupKey? r = some key) piece)
    (groupKeys rs) pieces

theorem written {ledger : ImportLedger} {sources : List ImportSource} (h : ledger.Holds sources)
    {statements : List Statement} (hstatements : ledger.statements = .ok statements) :
    ∃ pieces, statements = pieces.flatten ∧ Written (Table.values ledger.records) pieces := by
  obtain ⟨groups, hgroups, hstatements⟩ := bind_eq_ok.mp hstatements
  rw [pure_eq_ok] at hstatements
  have hg := grouped hgroups
  have horder := inOrder hgroups
  refine ⟨groups.map fun p => p.2.statements, ?_, ?_⟩
  · rw [← hstatements, Table.values, List.flatMap_map, List.flatMap_def]
  · unfold Written
    rw [← horder.keys, Table.keys, List.forall₂_map_left_iff, List.forall₂_map_right_iff,
      List.forall₂_same]
    intro p hp
    have hget := (Table.get?_eq_some_iff hg.nodup).mpr hp
    have hkind := horder.kind p hp
    rw [← hg.records_of_get? hget, ← Value.truthy_of_key? hkind]
    refine Group.write (hg.module _ _ hget) ?_ (hg.one_default h hget)
    intro r hr
    rw [hg.records_of_get? hget, List.mem_filter, decide_eq_true_eq] at hr
    refine ⟨module_of_groupKey? hr.2, ?_⟩
    rw [Value.truthy_of_key? hkind, Value.truthy_of_key? (kind_of_groupKey? hr.2)]

theorem Written.mentions_perm {rs : List ImportRecord} {pieces : List (List Statement)}
    (h : Written rs pieces) (hrs : ∀ r ∈ rs, (groupKey? r).isSome = true) :
    (pieces.flatten.flatMap Statement.mentions).Perm (rs.map mention) := by
  have hpieces : ∀ {keys pieces}, List.Forall₂ (fun key piece => Write key.1 key.2.truthy
      (rs.filter fun r => groupKey? r = some key) piece) keys pieces →
      (pieces.flatten.flatMap Statement.mentions).Perm
        ((keys.flatMap fun key => rs.filter fun r => groupKey? r = some key).map mention) := by
    intro keys pieces hall
    induction hall with
    | nil => exact .refl _
    | cons hwrite _ ih =>
      rw [List.flatten_cons, List.flatMap_append, List.flatMap_cons, List.map_append,
        hwrite.mentions]
      exact ((defaultFirst_perm _).map mention).append ih
  refine (hpieces h).trans (List.Perm.map mention (flatMap_filter_perm ?_ ?_))
  · exact nodup_eraseDups _
  · intro r hr
    obtain ⟨key, hkey⟩ := Option.isSome_iff_exists.mp (hrs r hr)
    exact ⟨key, List.mem_eraseDups.mpr (List.mem_filterMap.mpr ⟨r, hr, hkey⟩), hkey⟩

theorem exists_written {ledger : ImportLedger} {sources : List ImportSource}
    (h : ledger.Holds sources) {lines : List String} (hlines : ledger.importLines = .ok lines) :
    ∃ pieces : List (List Statement), lines = pieces.flatten.map Statement.render ∧
      Written (Table.values ledger.records) pieces ∧
      (pieces.flatten.flatMap Statement.mentions).Perm
        ((Table.values ledger.records).map mention) := by
  obtain ⟨statements, hstatements, hlines⟩ := bind_eq_ok.mp hlines
  obtain ⟨pieces, rfl, hwritten⟩ := written h hstatements
  refine ⟨pieces, (pure_eq_ok.mp hlines).symm, hwritten, hwritten.mentions_perm ?_⟩
  intro r hr
  obtain ⟨groups, hgroups, _⟩ := bind_eq_ok.mp hstatements
  obtain ⟨key, hkey⟩ := (grouped hgroups).placed r hr
  exact Option.isSome_iff_exists.mpr ⟨key, hkey⟩

theorem Written.filled {rs : List ImportRecord} {pieces : List (List Statement)}
    (h : Written rs pieces) : ∀ st ∈ pieces.flatten, st.mentions ≠ [] := by
  intro st hst
  obtain ⟨piece, hpiece, hst⟩ := List.mem_flatten.mp hst
  obtain ⟨i, hi, rfl⟩ := List.mem_iff_getElem.mp hpiece
  exact (List.forall₂_iff_get.mp h).2 i (h.length_eq ▸ hi) hi |>.filled st hst

/-- **After any calls the import lines mention each record once, as what it is, and nothing else.**
They come group after group, as the groups are first met. -/
theorem importLines_after (typeImports : Value) (calls : List Call) :
    let ledger := after typeImports calls
    let records := Table.values ledger.records
    ((∀ w ∈ wishes typeImports calls, w.typeOnly.key?.isSome = true) →
        ∃ lines, ledger.importLines = .ok lines) ∧
      ∀ lines, ledger.importLines = .ok lines → ∃ pieces : List (List Statement),
        lines = pieces.flatten.map Statement.render ∧ Written records pieces ∧
          (pieces.flatten.flatMap Statement.mentions).Perm (records.map mention) := by
  intro ledger records
  have h : Joined ledger.records (wishes typeImports calls) := joined_after typeImports calls
  refine ⟨fun hflags => importLines_of_keyed fun p hp => ?_, fun lines => exists_written h.holds⟩
  obtain ⟨w, hw, hgiven⟩ := (h.joins _ _ ((Table.get?_eq_some_iff h.nodup).mpr hp)).given
  obtain ⟨m, hm, _⟩ := Option.map_eq_some_iff.mp (h.key_of_mem hp)
  exact ⟨Option.isSome_iff_exists.mpr ⟨m, hm⟩, hgiven ▸ hflags w (List.mem_filter.mp hw).1⟩

theorem importLines_say {ledger : ImportLedger} {sources : List ImportSource}
    (h : ledger.Holds sources) {lines : List String} (hlines : ledger.importLines = .ok lines) :
    (∀ r ∈ Table.values ledger.records, ∃ line ∈ lines, Says line (mention r)) ∧
      ∀ line ∈ lines, ∃ r ∈ Table.values ledger.records, Says line (mention r) := by
  obtain ⟨pieces, rfl, hwritten, hperm⟩ := exists_written h hlines
  constructor
  · intro r hr
    have hmention := hperm.mem_iff.mpr (List.mem_map_of_mem hr)
    obtain ⟨st, hst, hm⟩ := List.mem_flatMap.mp hmention
    exact ⟨st.render, List.mem_map_of_mem hst, st.says hm⟩
  · intro line hline
    obtain ⟨st, hst, rfl⟩ := List.mem_map.mp hline
    obtain ⟨m, hm⟩ := List.exists_mem_of_ne_nil _ (hwritten.filled st hst)
    have hrecord := hperm.mem_iff.mp (List.mem_flatMap.mpr ⟨st, hst, hm⟩)
    obtain ⟨r, hr, rfl⟩ := List.mem_map.mp hrecord
    exact ⟨r, hr, st.says hm⟩

example : (after (.bool true)
    [.add (.text "a") (.text "A") none false none,
      .add (.text "b") (.text "B") (some "C") false none,
      .add (.text "a") (.text "D") (some "D") false none]).importLines =
    .ok ["import type A from 'a';", "import type \x7b D \x7d from 'a';",
      "import type \x7b C as B \x7d from 'b';"] := by
  rfl

end ImportLedger

end SchemaTypings
