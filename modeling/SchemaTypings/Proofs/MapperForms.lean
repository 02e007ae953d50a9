import SchemaTypings.Proofs.Cutting
import SchemaTypings.Proofs.Mapper

/-!
# The two forms of a mapping

A symbol of a module is named by a text or by an object. If neither the symbol nor its alias has
blanks or a `#`, both forms come to the same, whatever the module is called: the text is cut at its
last `#`, and behind it ` as ` stands only before the alias.
-/

namespace SchemaTypings.Mapper

/-! ## Symbols and aliases -/

/-- A text that can stand behind the `#` of a mapping as a symbol or as an alias. -/
def IsPlainName (name : String) : Prop :=
  ∀ c ∈ name.toList, Text.isBlank c = false ∧ c ≠ '#'

instance (name : String) : Decidable (IsPlainName name) :=
  List.decidableBAll (fun c => Text.isBlank c = false ∧ c ≠ '#') name.toList

/-- A symbol with its alias, which may be empty. -/
def aliased (symbol given : String) : String :=
  if given.isEmpty then symbol else symbol ++ " as " ++ given

variable {symbol given module typeName suffix : String} {fields : Table String Value}

theorem notMem_aliased (hsymbol : IsPlainName symbol) (hgiven : IsPlainName given) :
    '#' ∉ (aliased symbol given).toList := by
  intro hmem
  rw [aliased] at hmem
  split at hmem
  · exact (hsymbol _ hmem).2 rfl
  · rw [String.toList_append, String.toList_append, List.mem_append, List.mem_append] at hmem
    rcases hmem with (hmem | hmem) | hmem
    · exact (hsymbol _ hmem).2 rfl
    · revert hmem
      decide
    · exact (hgiven _ hmem).2 rfl

theorem trim_aliased (hne : symbol ≠ "") (hsymbol : IsPlainName symbol)
    (hgiven : IsPlainName given) :
    Text.trim (aliased symbol given).toList = (aliased symbol given).toList := by
  rw [aliased]
  split
  · exact Text.trim_of_noBlanks fun c hc => (hsymbol c hc).1
  · next hsome =>
    have hsymbolNe : symbol.toList ≠ [] := fun h => hne (String.toList_eq_nil_iff.mp h)
    have hgivenNe : given.toList ≠ [] := fun h => hsome (by simpa using h)
    rw [String.toList_append, String.toList_append]
    refine Text.trim_of_ends (fun c hc => ?_) fun c hc => ?_
    · rw [List.append_assoc, List.head?_append_of_ne_nil _ hsymbolNe] at hc
      exact (hsymbol c (List.mem_of_mem_head? hc)).1
    · rw [List.getLast?_append_of_ne_nil _ hgivenNe] at hc
      exact (hgiven c (List.mem_of_mem_getLast? hc)).1

theorem splitAlias_aliased (hsymbol : IsPlainName symbol) (hgiven : IsPlainName given) :
    splitAlias (aliased symbol given).toList = (symbol.toList, given.toList) := by
  have hblank : ' ' ∉ symbol.toList := fun h => absurd (hsymbol _ h).1 (by decide)
  have htrim : Text.trim symbol.toList = symbol.toList :=
    Text.trim_of_noBlanks fun c hc => (hsymbol c hc).1
  rw [aliased]
  split
  · next hnone =>
    rw [splitAlias, Text.cutFirst_of_notMem hblank, htrim, String.isEmpty_iff.mp hnone]
    rfl
  · have hmark : " as ".toList = [' ', 'a', 's', ' '] := rfl
    rw [splitAlias, String.toList_append, String.toList_append, List.append_assoc, hmark,
      Text.cutFirst_append hblank]
    simp only [htrim, Text.trim_of_noBlanks fun c hc => (hgiven c hc).1]

/-! ## What each form comes to -/

/-- The text form of a mapping. -/
def mappingText (module symbol given : String) : String := module ++ "#" ++ aliased symbol given

/-- An object names a symbol of a module, with an alias that may be empty. -/
structure NamesSymbol (fields : Table String Value) (module symbol given : String) : Prop where
  module : Table.get? fields "module" = some (.text module)
  symbol : Table.get? fields "symbol" = some (.text symbol)
  given : Table.get? fields "alias" = some (.text given)
  notDefault : Table.get? fields "default" = none

/-- An object names the default export of a module, with an alias that may be empty. -/
structure NamesDefault (fields : Table String Value) (module given : String) : Prop where
  module : Table.get? fields "module" = some (.text module)
  isDefault : Table.get? fields "default" = some (.bool true)
  given : Table.get? fields "alias" = some (.text given)

/-- A symbol of the module is imported, and the expression is the name that it gets or a dotted path
from there. -/
def ImportsFrom (m : Mapper) (module : String) : Prop :=
  m.isExternal = true ∧ ∃ i, m.source = some i ∧ i.module = .text module ∧
    (m.type = i.boundAs ∨
      ∃ head rest, i.boundAs = .text head ∧ m.type = .text (head ++ "." ++ rest))

theorem ofValue_mappingText (hne : symbol ≠ "") (hsymbol : IsPlainName symbol)
    (hgiven : IsPlainName given) :
    ofValue (.text (mappingText module symbol given)) typeName suffix =
      .ok (ofIdentifier (.text module) (aliased symbol given).toList typeName suffix) := by
  have hcut : Text.cutLast '#' (mappingText module symbol given).toList =
      some (module.toList, (aliased symbol given).toList) := by
    rw [mappingText, String.toList_append, String.toList_append, List.append_assoc]
    exact Text.cutLast_append (notMem_aliased hsymbol hgiven) _
  unfold ofValue
  simp only [hcut, trim_aliased hne hsymbol hgiven, String.ofList_toList]

theorem ofObject_symbol (h : NamesSymbol fields module symbol given) (hne : symbol ≠ "") :
    ofObject fields typeName suffix =
      .ok (ofIdentifier (.text module) (aliased symbol given).toList typeName suffix) := by
  have hsymbol : (Value.text symbol).orElse (.text typeName) = .text symbol := by
    rw [Value.orElse, Value.truthy, if_pos (by simpa using hne)]
  unfold ofObject
  simp only [h.module, h.symbol, h.given, h.notDefault, Option.getD_some, Option.getD_none, hsymbol,
    Value.truthy, aliased]
  cases hgiven : given.isEmpty <;> rfl

theorem ofObject_default (h : NamesDefault fields module given) :
    ofObject fields typeName suffix =
      .ok (ofDefault (.text module) (.text (if given.isEmpty then typeName else given))) := by
  unfold ofObject
  simp only [h.module, h.isDefault, h.given, Option.getD_some, Value.truthy, Value.orElse]
  cases given.isEmpty <;> rfl

theorem ofIdentifier_default (hgiven : IsPlainName given) (module : Value) :
    ofIdentifier module (aliased "default" given).toList typeName suffix =
      ofDefault module (.text (if given.isEmpty then typeName else given)) := by
  unfold ofIdentifier
  rw [splitAlias_aliased (by decide) hgiven]
  simp only [if_true, String.ofList_toList]
  simp

theorem exists_source_ofIdentifier (module : Value) (identifier : List Char)
    (typeName suffix : String) :
    ∃ i, (ofIdentifier module identifier typeName suffix).source = some i ∧ i.module = module := by
  unfold ofIdentifier ofDefault
  simp only
  split
  · exact ⟨_, rfl, rfl⟩
  · split <;> exact ⟨_, rfl, rfl⟩

theorem importsFrom_ofIdentifier (module : String) (identifier : List Char)
    (typeName suffix : String) :
    (ofIdentifier (.text module) identifier typeName suffix).ImportsFrom module := by
  obtain ⟨i, hi, hmodule⟩ := exists_source_ofIdentifier (.text module) identifier typeName suffix
  refine ⟨?_, i, hi, hmodule, startsAtImport_ofIdentifier _ _ _ _ i hi⟩
  rw [isExternal, hi]
  rfl

/-- **A mapping means the same as a text and as an object**, for a symbol and for the default export
of a module. Either form imports from the module that it names, and its expression begins with the
name of the import. -/
theorem forms_agree (module : String) {symbol given : String} (typeName suffix : String)
    (hne : symbol ≠ "") (hsymbol : IsPlainName symbol) (hgiven : IsPlainName given) :
    (∀ fields, NamesSymbol fields module symbol given →
      ∃ m, ofValue (.text (mappingText module symbol given)) typeName suffix = .ok m ∧
        ofValue (.object fields) typeName suffix = .ok m ∧ m.ImportsFrom module) ∧
    ∀ fields, NamesDefault fields module given →
      ∃ m, ofValue (.text (mappingText module "default" given)) typeName suffix = .ok m ∧
        ofValue (.object fields) typeName suffix = .ok m ∧ m.ImportsFrom module := by
  refine ⟨fun fields h => ?_, fun fields h => ?_⟩
  · exact ⟨_, ofValue_mappingText hne hsymbol hgiven, ofObject_symbol h hne,
      importsFrom_ofIdentifier _ _ _ _⟩
  · refine ⟨_, ofValue_mappingText (by decide) (by decide) hgiven, ?_,
      importsFrom_ofIdentifier _ _ _ _⟩
    rw [ofIdentifier_default hgiven]
    exact ofObject_default h

/-- A module with both separators in its name, a dotted symbol, and an alias. -/
theorem forms_agree_separators :
    let module := "./a#b as c"
    let money := [("module", Value.text module), ("symbol", .text "NS.Money"),
      ("alias", .text "Cash")]
    let cash := [("alias", Value.text "Cash"), ("default", .bool true), ("module", .text module)]
    "NS.Money" ≠ "" ∧ IsPlainName "NS.Money" ∧ IsPlainName "Cash" ∧
    NamesSymbol money module "NS.Money" "Cash" ∧ NamesDefault cash module "Cash" ∧
    (∃ m, ofValue (.text "./a#b as c#NS.Money as Cash") "Price" "Type" = .ok m ∧
      ofValue (.object money) "Price" "Type" = .ok m ∧ m.ImportsFrom module) ∧
    ∃ m, ofValue (.text "./a#b as c#default as Cash") "Price" "Type" = .ok m ∧
      ofValue (.object cash) "Price" "Type" = .ok m ∧ m.ImportsFrom module := by
  intro module money cash
  have hne : "NS.Money" ≠ "" := by decide
  have hsymbol : IsPlainName "NS.Money" := by decide
  have hgiven : IsPlainName "Cash" := by decide
  have hmoney : NamesSymbol money module "NS.Money" "Cash" := ⟨rfl, rfl, rfl, rfl⟩
  have hcash : NamesDefault cash module "Cash" := ⟨rfl, rfl, rfl⟩
  obtain ⟨hsymbols, hdefaults⟩ := forms_agree module "Price" "Type" hne hsymbol hgiven
  exact ⟨hne, hsymbol, hgiven, hmoney, hcash, hsymbols money hmoney, hdefaults cash hcash⟩

end SchemaTypings.Mapper
