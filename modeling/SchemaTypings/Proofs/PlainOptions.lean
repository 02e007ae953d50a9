import SchemaTypings.Config.Basic
import SchemaTypings.Import.Mapper
import SchemaTypings.Proofs.Cutting
import SchemaTypings.Proofs.OneLine
import SchemaTypings.Proofs.Outcome

/-!
# Options of plain texts

The texts that options hold, keys included, are plain if each stands on one line and has no mark that
opens a comment. What the settings take from plain options is then written on one line.
-/

open SchemaTypings.Outcome

namespace SchemaTypings

/-- A text stands somewhere in a value, be it as a key. -/
inductive Value.Holds (s : String) : Value → Prop
  | text : Holds s (.text s)
  | item {items v} (hv : v ∈ items) (h : Holds s v) : Holds s (.list items)
  | key {fields v} (hv : (s, v) ∈ fields) : Holds s (.object fields)
  | entry {fields k v} (hv : (k, v) ∈ fields) (h : Holds s v) : Holds s (.object fields)

/-- A text on one line that opens no comment. -/
def PlainText (s : String) : Prop := OneLine s ∧ ¬['/', '*'] <:+: s.toList

instance : DecidablePred PlainText := fun _ => inferInstanceAs (Decidable (_ ∧ _))

def Value.Plain (v : Value) : Prop := ∀ s, v.Holds s → PlainText s

def Options.Plain (o : Options) : Prop := ∀ name, (o name).Plain

/-- Each text in a value stands on one line. -/
def Value.Lined (v : Value) : Prop := ∀ s, v.Holds s → OneLine s

def PlainEntries (entries : List (String × Value)) : Prop :=
  ∀ p ∈ entries, PlainText p.1 ∧ p.2.Lined

namespace Value

mutual

def texts : Value → List String
  | .text s => [s]
  | .list items => itemTexts items
  | .object fields => fieldTexts fields
  | _ => []

def itemTexts : List Value → List String
  | [] => []
  | v :: rest => texts v ++ itemTexts rest

def fieldTexts : List (String × Value) → List String
  | [] => []
  | (k, v) :: rest => k :: (texts v ++ fieldTexts rest)

end

theorem texts_subset_items {items : List Value} {v : Value} (h : v ∈ items) :
    v.texts ⊆ itemTexts items := by
  induction items with
  | nil => cases h
  | cons w items ih =>
    rw [itemTexts]
    rcases List.mem_cons.mp h with rfl | h
    · exact List.subset_append_left ..
    · exact List.Subset.trans (ih h) (List.subset_append_right ..)

theorem texts_subset_fields {fields : List (String × Value)} {k : String} {v : Value}
    (h : (k, v) ∈ fields) : k :: v.texts ⊆ fieldTexts fields := by
  induction fields with
  | nil => cases h
  | cons p fields ih =>
    obtain ⟨l, w⟩ := p
    rw [fieldTexts]
    rcases List.mem_cons.mp h with ⟨rfl, rfl⟩ | h
    · exact List.cons_subset_cons _ (List.subset_append_left ..)
    · have hrest := List.subset_append_right w.texts (fieldTexts fields)
      exact List.Subset.trans (ih h) (List.subset_cons_of_subset _ hrest)

theorem Holds.mem_texts {s : String} {v : Value} (h : v.Holds s) : s ∈ v.texts := by
  induction h with
  | text => exact List.mem_singleton_self s
  | item hv _ ih => exact texts_subset_items hv ih
  | key hv => exact texts_subset_fields hv List.mem_cons_self
  | entry hv _ ih => exact texts_subset_fields hv (List.mem_cons_of_mem _ ih)

theorem Plain.lined {v : Value} (h : v.Plain) : v.Lined := fun s hs => (h s hs).1

theorem Plain.entries {fields : List (String × Value)} (h : (object fields).Plain) :
    PlainEntries fields := by
  rintro ⟨k, v⟩ hp
  exact ⟨h k (.key hp), fun s hs => (h s (.entry hp hs)).1⟩

theorem lined_text {s : String} (h : OneLine s) : (text s).Lined := by
  intro t ht
  cases ht
  exact h

theorem Lined.display {v : Value} (h : v.Lined) : OneLine v.display := by
  refine oneLine_display ?_
  rintro s rfl
  exact h s .text

theorem Lined.entry {fields : Table String Value} (h : (object fields).Lined) {key : String}
    {v : Value} (hv : Table.get? fields key = some v) : v.Lined :=
  fun s hs => h s (.entry (Table.mem_of_get? hv) hs)

end Value

theorem Options.plain_of_texts {o : Options}
    (h : ∀ name ∈ OptionName.all, ∀ s ∈ (o name).texts, PlainText s) : o.Plain :=
  fun name s hs => h name name.mem_all s hs.mem_texts

/-! ## Settings -/

def MappingSource.Plain : MappingSource → Prop
  | .module path => OneLine path
  | .table entries => PlainEntries entries

/-- The settings that texts of declarations are taken from. -/
structure Settings.Plain (s : Settings) : Prop where
  typesPrefix : OneLine s.typesPrefix
  typesSuffix : OneLine s.typesSuffix
  scalars : s.scalars.Plain
  defaultScalar : s.defaultScalar.Lined
  enumValues : s.enumValues.Plain
  directiveMappings : PlainEntries s.directiveMappings
  mappingSuffix : OneLine s.mappingSuffix

theorem MappingSource.plain_of_ofValue {shape : ConfigError} {v : Value} {m : MappingSource}
    (h : MappingSource.ofValue shape v = .ok m) (hv : v.Plain) : m.Plain := by
  unfold MappingSource.ofValue at h
  split at h
  · cases h
    exact hv.lined _ .text
  · cases h
    exact hv.entries
  · cases h

theorem Settings.plain_of_options {o : Options} {s : Settings} (h : Settings.ofOptions o = .ok s)
    (ho : o.Plain) : s.Plain := by
  unfold Settings.ofOptions at h
  obtain ⟨_, _, h⟩ := bind_eq_ok.mp h
  obtain ⟨scalars, hscalars, h⟩ := bind_eq_ok.mp h
  obtain ⟨enumValues, henums, h⟩ := bind_eq_ok.mp h
  dsimp only at h
  -- Only a table of directive mappings gets past this point.
  split at h
  · next entries hentries =>
    obtain ⟨_, hsame, h⟩ := bind_eq_ok.mp h
    obtain ⟨_, _, h⟩ := bind_eq_ok.mp h
    obtain ⟨_, _, h⟩ := bind_eq_ok.mp h
    obtain ⟨_, _, h⟩ := bind_eq_ok.mp h
    cases hsame
    cases h
    have hmappings := ho .directiveMappings
    rw [hentries] at hmappings
    exact {
      typesPrefix := (ho .typesPrefix).lined.display
      typesSuffix := (ho .typesSuffix).lined.display
      scalars := MappingSource.plain_of_ofValue hscalars (ho .scalars)
      defaultScalar := (ho .defaultScalarType).lined
      enumValues := MappingSource.plain_of_ofValue henums (ho .enumValues)
      directiveMappings := hmappings.entries
      mappingSuffix := oneLine_ite (ho .directiveMappingSuffix).lined.display (by decide) }
  · obtain ⟨_, hfault, _⟩ := bind_eq_ok.mp h
    cases hfault

/-! ## Mapped names -/

namespace Mapper

theorem notMem_splitAlias {identifier : List Char} (h : '\n' ∉ identifier) :
    '\n' ∉ (splitAlias identifier).1 ∧ '\n' ∉ (splitAlias identifier).2 := by
  unfold splitAlias
  split
  · next hcut =>
    obtain ⟨hsymbol, hgiven⟩ := Text.mem_cutFirst hcut
    exact ⟨fun hmem => h (hsymbol (Text.mem_trim hmem)), fun hmem => h (hgiven (Text.mem_trim hmem))⟩
  · exact ⟨fun hmem => h (Text.mem_trim hmem), List.not_mem_nil⟩

theorem oneLine_ofIdentifier (module : Value) {identifier : List Char} {typeName suffix : String}
    (hidentifier : '\n' ∉ identifier) (hname : OneLine typeName) (hsuffix : OneLine suffix) :
    OneLine (ofIdentifier module identifier typeName suffix).type.display := by
  obtain ⟨hsymbol, hgiven⟩ := notMem_splitAlias hidentifier
  have hsymbol := oneLine_ofList.mpr hsymbol
  have hgiven := oneLine_ofList.mpr hgiven
  unfold ofIdentifier
  dsimp only
  split
  · exact oneLine_ite hname hgiven
  split
  · exact hsymbol
  · exact oneLine_ite hgiven (oneLine_ite hsymbol (oneLine_append.mpr ⟨hsymbol, hsuffix⟩))

theorem oneLine_ofObject {fields : Table String Value} {typeName suffix : String} {m : Mapper}
    (h : ofObject fields typeName suffix = .ok m) (hfields : (Value.object fields).Lined)
    (hname : OneLine typeName) (hsuffix : OneLine suffix) : OneLine m.type.display := by
  have hentry : ∀ key, ((Table.get? fields key).getD .null).Lined := by
    intro key
    cases hget : Table.get? fields key with
    | none => exact nofun
    | some v => exact hfields.entry hget
  have horElse : ∀ key,
      OneLine (((Table.get? fields key).getD .null).orElse (.text typeName)).display := by
    intro key
    unfold Value.orElse
    split
    · exact (hentry key).display
    · exact hname
  have has : OneLine " as " := by decide
  unfold ofObject at h
  dsimp only at h
  split at h
  · split at h
    · cases h
      exact horElse "alias"
    · split at h
      · cases h
        refine oneLine_ofIdentifier _ ?_ hname hsuffix
        have hgiven := (hentry "alias").display
        exact oneLine_append.mpr ⟨oneLine_append.mpr ⟨horElse "symbol", has⟩, hgiven⟩
      · have hsymbol := horElse "symbol"
        split at h
        · next hsame =>
          cases h
          rw [hsame] at hsymbol
          exact oneLine_ofIdentifier _ hsymbol hname hsuffix
        · cases h
  · cases h

theorem oneLine_ofValue {v : Value} {typeName suffix : String} {m : Mapper}
    (h : ofValue v typeName suffix = .ok m) (hv : v.Lined) (hname : OneLine typeName)
    (hsuffix : OneLine suffix) : OneLine m.type.display := by
  unfold ofValue at h
  split at h
  · exact oneLine_ofObject h hv hname hsuffix
  · next s =>
    split at h
    · next hcut =>
      cases h
      refine oneLine_ofIdentifier _ ?_ hname hsuffix
      exact fun hmem => hv s .text ((Text.mem_cutLast hcut).2 (Text.mem_trim hmem))
    · cases h
      exact hv s .text
  · cases h
    exact hv.display

end Mapper

end SchemaTypings
