import SchemaTypings.Config.Reading
import SchemaTypings.Proofs.ConfigLimits
import SchemaTypings.Proofs.TableOrder

/-!
# Only valid configurations

Reading a configuration step by step comes to what `Config.ofValue` says, so of all that a step can
stop at only the refusal of a configuration comes out, and that there is no room for the levels of a
value. What is read is valid, and its compound options can be read again.
-/

open SchemaTypings.Outcome

namespace SchemaTypings.Reading

/-! ## Faults of a configuration -/

/-- A limit is no refusal of a configuration. -/
def faultOf : ConfigError → Fault
  | .limit _ => .tooDeep
  | e => .refused e.message

/-- An outcome with the words of its fault. -/
def inWords {α : Type} (x : Except ConfigError α) : Reads α := x.mapError faultOf

section

variable {ε ε' α β : Type}

theorem mapError_bind (g : ε → ε') (x : Except ε α) (f : α → Except ε β) :
    (x >>= f).mapError g = x.mapError g >>= fun a => (f a).mapError g := by
  cases x <;> rfl

theorem inWords_bind (x : Except ConfigError α) (f : α → Except ConfigError β) :
    inWords (x >>= f) = inWords x >>= fun a => inWords (f a) :=
  mapError_bind _ x f

theorem mapError_inWords (translate : Fault → Fault)
    (h : ∀ message, translate (.refused message) = .refused message)
    (hdeep : translate .tooDeep = .tooDeep) (x : Except ConfigError α) :
    (inWords x).mapError translate = inWords x := by
  cases x with
  | ok a => rfl
  | error e =>
    refine congrArg Except.error ?_
    cases e with
    | limit l => exact hdeep
    | _ => exact h _

theorem invalid_inWords (x : Except ConfigError α) : (inWords x).mapError invalid = inWords x :=
  mapError_inWords invalid (fun _ => rfl) rfl x

theorem unknownStyle_inWords (x : Except ConfigError α) :
    (inWords x).mapError unknownStyle = inWords x :=
  mapError_inWords unknownStyle (fun _ => rfl) rfl x

end

variable {room : Room}

/-! ## Compound options -/

theorem record_eq (option : String) (v : Value) :
    record option v = inWords (recordOf option v) := by
  cases v <;> rfl

theorem get?_eq_lookup {α : Type} (t : Table String α) (key : String) :
    Table.get? t key = t.lookup key := by
  induction t with
  | nil => rfl
  | cons p rest ih =>
    rw [Table.get?, List.lookup_cons, ih]
    split
    · next h => simp [h]
    · next h => rw [beq_false_of_ne (Ne.symm h)]

theorem ofValue_given {v : Value} (h : v ≠ .null) (room : Room) :
    NameStyle.ofValue v room = (do
      checkWords .longStyle v room.style
      match NameStyle.ofText? v.display with
      | some style => return style
      | none =>
        checkWords .longStyle v room.unknownStyle
        throw (.unknownNaming v)) := by
  cases v <;> first | rfl | exact absurd rfl h

theorem style_given {v : Value} (h : v ≠ .null) (room : Room) :
    (style v room).mapError unknownStyle = inWords (NameStyle.ofValue v room) := by
  have hspelling : Table.get? NameStyle.spellings (NameStyle.spellingKey v.display) =
      NameStyle.ofText? v.display := get?_eq_lookup _ _
  have hstyle : style v room = spelledStyle v room := by
    cases v <;> first | rfl | exact absurd rfl h
  rw [hstyle, ofValue_given h, spelledStyle, words, checkWords, checkWords, Value.checkText,
    Value.checkText]
  -- The text is made once to look the style up, and once more to say that it is not known.
  cases v.limit? room.style with
  | some l => cases l <;> rfl
  | none =>
    simp only [ok_bind, Table.has, lookUp, hspelling]
    cases NameStyle.ofText? v.display with
    | some found => rfl
    | none =>
      rw [words]
      cases v.limit? room.unknownStyle with
      | some l => cases l <;> rfl
      | none => rfl

theorem style_eq (v : Value) (room : Room) :
    (style v room).mapError unknownStyle = inWords (NameStyle.ofValue v room) := by
  by_cases h : v = .null
  · rw [h]
    rfl
  · exact style_given h room

theorem naming_eq (v : Value) (room : Room) :
    naming v room = inWords (NamingConvention.ofValue v room) := by
  cases v with
  | null => rfl
  | text s =>
    simp only [naming, styles, NamingConvention.ofValue, mapError_bind, inWords_bind, style_eq]
    rfl
  | object fields =>
    have hrecord := unknownStyle_inWords (recordOf "naming_convention" (.object fields))
    simp only [naming, styles, NamingConvention.ofValue, mapError_bind, inWords_bind, style_eq,
      record_eq, hrecord]
    rfl
  | _ => rfl

/-- The keyword of a category, as all of them are read. -/
def readKind (room : Room) (p : String × Value) :
    Except ConfigError (String × DeclarationKeyword) := do
  return (p.1, ← keywordOf p.1 p.2 room)

theorem isKind_eq (v : Value) : isKind v = (DeclarationKeyword.ofValue? v).isSome := by
  cases v with
  | text s =>
    rw [isKind, DeclarationKeyword.ofValue?, List.isSome_find?]
    simp only [Value.asText?, Option.some.injEq, eq_comm]
  | _ => rfl

theorem eq_word {v : Value} {keyword : DeclarationKeyword}
    (h : DeclarationKeyword.ofValue? v = some keyword) : v = .text keyword.word := by
  cases v with
  | text s =>
    have hword := List.find?_some h
    rw [of_decide_eq_true hword]
  | _ => cases h

theorem checkKind_eq (room : Room) (p : String × Value) :
    (checkKind room p).mapError invalid = inWords ((readKind room p).map fun _ => ()) := by
  rw [checkKind, isKind_eq, readKind, keywordOf]
  cases DeclarationKeyword.ofValue? p.2 with
  | some keyword => rfl
  | none =>
    rw [words, checkWords, Value.checkText]
    cases p.2.limit? room.unknownKind with
    | some l => cases l <;> rfl
    | none => rfl

theorem checkKinds_eq (given : Table String Value) (room : Room) :
    (checkKinds given room).mapError invalid =
      inWords ((given.mapM (readKind room)).map fun _ => ()) := by
  induction given with
  | nil => rfl
  | cons p rest ih =>
    have hcons : checkKinds (p :: rest) room =
        checkKind room p >>= fun _ => checkKinds rest room := rfl
    rw [hcons, mapError_bind, checkKind_eq, ih, List.mapM_cons]
    cases readKind room p with
    | error e => rfl
    | ok kind => cases rest.mapM (readKind room) <;> rfl

theorem ofValue?_of_keywordOf {category : String} {v : Value} {keyword : DeclarationKeyword}
    (h : keywordOf category v room = .ok keyword) :
    DeclarationKeyword.ofValue? v = some keyword := by
  unfold keywordOf at h
  split at h
  · next hvalue => rw [hvalue, Except.ok.inj h]
  · obtain ⟨_, _, h⟩ := bind_eq_ok.mp h
    cases h

theorem eq_words {given : Table String Value} {keywords : Table String DeclarationKeyword}
    (h : given.mapM (readKind room) = .ok keywords) :
    given = keywords.map fun p => (p.1, Value.text p.2.word) := by
  have hword : ∀ p kind, readKind room p = .ok kind → p = (kind.1, .text kind.2.word) := by
    rintro ⟨category, v⟩ kind hp
    obtain ⟨keyword, hkeyword, hkind⟩ := bind_eq_ok.mp hp
    obtain rfl := pure_eq_ok.mp hkind
    exact Prod.ext rfl (eq_word (ofValue?_of_keywordOf hkeyword))
  rw [← List.forall₂_eq_eq_eq, List.forall₂_map_right_iff]
  exact (mapM_eq_ok.mp h).imp hword

theorem takes_filter (fields : List String) (arguments : Table String Value) :
    takes fields (arguments.filter fun p => fields.contains p.1) = .ok () := by
  have hnone : (Table.keys (arguments.filter fun p => fields.contains p.1)).find?
      (fun name => !fields.contains name) = none := by
    refine List.find?_eq_none.mpr fun name hname => ?_
    obtain ⟨p, hp, rfl⟩ := List.mem_map.mp hname
    simpa using (List.mem_filter.mp hp).2
  rw [takes, hnone]

/-- The keywords of the categories that are known. -/
def keywordsOf (keywords : Table String DeclarationKeyword) : DeclarationKinds :=
  let kindOf (category : String) : DeclarationKeyword :=
    (Table.get? keywords category).getD .typeAlias
  { object := kindOf "type", input := kindOf "input", interface := kindOf "interface",
    arguments := kindOf "arguments" }

/-- The kinds that keywords stand for. -/
def Kinds.ofKeywords (k : DeclarationKinds) : Kinds :=
  { object := .text k.object.word, input := .text k.input.word
    interface := .text k.interface.word, arguments := .text k.arguments.word }

theorem getD_word {given : Table String Value} {keywords : Table String DeclarationKeyword}
    (hdistinct : (Table.keys given).Nodup) (hread : given.mapM (readKind room) = .ok keywords)
    {category : String} (hcategory : Kinds.categories.contains category = true) :
    (Table.get? (given.filter fun p => Kinds.categories.contains p.1) category).getD
        (.text "type") =
      .text ((Table.get? keywords category).getD .typeAlias).word := by
  rw [Table.get?_filter hdistinct, eq_words hread,
    Table.get?_mapValues fun k : DeclarationKeyword => Value.text k.word]
  cases Table.get? keywords category with
  | none => rfl
  | some keyword => rw [Option.map_some, Option.filter_some, if_pos hcategory]; rfl

theorem givenKinds_eq {given : Table String Value} (hdistinct : (Table.keys given).Nodup)
    (room : Room) : (givenKinds given room).mapError invalid =
      inWords ((given.mapM (readKind room)).map fun keywords =>
        Kinds.ofKeywords (keywordsOf keywords)) := by
  rw [givenKinds, mapError_bind, checkKinds_eq]
  cases hread : given.mapM (readKind room) with
  | error e => rfl
  | ok keywords =>
    have hkinds : Kinds.ofTable (given.filter fun p => Kinds.categories.contains p.1) =
        Kinds.ofKeywords (keywordsOf keywords) := by
      simp only [Kinds.ofTable, Kinds.ofKeywords, keywordsOf]
      rw [getD_word hdistinct hread (by decide), getD_word hdistinct hread (by decide),
        getD_word hdistinct hread (by decide), getD_word hdistinct hread (by decide)]
    have htakes := takes_filter Kinds.categories given
    -- The guard never fires: only known categories are handed over.
    change (takes Kinds.categories (given.filter fun p => Kinds.categories.contains p.1) >>=
      fun _ => pure (Kinds.ofTable (given.filter fun p =>
        Kinds.categories.contains p.1))).mapError invalid = _
    rw [htakes, hkinds]
    rfl

theorem mapM_readKind_text (s : String) (room : Room) :
    (Kinds.categories.map fun category => (category, Value.text s)).mapM (readKind room) =
      (keywordOf "type" (.text s) room).map fun keyword =>
        Kinds.categories.map fun category => (category, keyword) := by
  have hread : ∀ category, readKind room (category, .text s) =
      (keywordOf category (.text s) room).map fun keyword => (category, keyword) := by
    intro category
    unfold readKind
    cases keywordOf category (.text s) room <;> rfl
  simp only [Kinds.categories, List.map_cons, List.map_nil, List.mapM_cons, List.mapM_nil, hread,
    keywordOf]
  cases DeclarationKeyword.ofValue? (.text s) <;> rfl

theorem kinds_eq (v : Value) (room : Room) : (kinds v room).mapError invalid =
    inWords ((DeclarationKinds.ofValue v room).map Kinds.ofKeywords) := by
  cases v with
  | null => rfl
  | text s =>
    -- One text stands for a table with it under all categories.
    have hdistinct : (Table.keys (Kinds.categories.map fun category =>
        (category, Value.text s))).Nodup := (by decide : Kinds.categories.Nodup)
    refine (givenKinds_eq hdistinct room).trans ?_
    rw [mapM_readKind_text, DeclarationKinds.ofValue]
    cases keywordOf "type" (.text s) room <;> rfl
  | object fields =>
    have hvalue : DeclarationKinds.ofValue (.object fields) room =
        (normalizeKeys fields).mapM (readKind room) >>= fun keywords =>
          pure (keywordsOf keywords) := rfl
    have hdistinct : (Table.keys (normalizeKeys fields)).Nodup := Table.nodup_keys_ofPairs _
    refine (givenKinds_eq hdistinct room).trans ?_
    rw [hvalue]
    cases (normalizeKeys fields).mapM (readKind room) <;> rfl
  | _ => rfl

theorem avoid_eq (v : Value) : avoid v = inWords (AvoidOptionals.ofValue v) := by
  cases v with
  | bool b => cases b <;> rfl
  | _ => rfl

/-! ## Configurations -/

def Views.ofSettings (s : Settings) : Views :=
  { naming := s.naming, kinds := .ofKeywords s.kinds, avoid := s.avoid }

theorem views_eq (o : Options) (room : Room) :
    (views o room).mapError invalid = inWords (do
      let naming ← NamingConvention.ofValue (o .namingConvention) room
      let kinds ← (DeclarationKinds.ofValue (o .declarationKind) room).map Kinds.ofKeywords
      let avoid ← AvoidOptionals.ofValue (o .avoidOptionals)
      return { naming, kinds, avoid }) := by
  simp only [views, naming_eq, kinds_eq, avoid_eq, inWords_bind, mapError_bind, invalid_inWords]
  rfl

theorem checkForms_eq (o : Options) :
    require ((formsAsked o).length ≤ 1) (.exclusive ((formsAsked o).map (·.key))) =
      inWords ((EnumForm.ofOptions o).map fun _ => ()) := by
  unfold EnumForm.ofOptions
  generalize hasked : enumForms.filter _ = asked
  have hforms : formsAsked o = asked.map Prod.fst :=
    calc
      formsAsked o = (enumForms.map Prod.fst).filter fun name => (o name).truthy := rfl
      _ = (enumForms.filter _).map Prod.fst := List.filter_map
      _ = asked.map Prod.fst := congrArg (List.map Prod.fst) hasked
  rw [hforms]
  cases asked with
  | nil => rfl
  | cons first rest =>
    cases rest with
    | nil => rfl
    | cons second rest =>
      rw [require, if_neg (by simp), List.map_map]
      rfl

theorem checkSource_eq {shape : ConfigError} (hshape : faultOf shape = .refused shape.message)
    (v : Value) : require (isText v || isObject v) shape =
      inWords ((MappingSource.ofValue shape v).map fun _ => ()) := by
  cases v with
  | text path => rfl
  | object entries => rfl
  | _ => exact congrArg Except.error hshape.symm

theorem invalid_require (condition : Bool) (e : ConfigError) :
    (require condition e).mapError invalid = require condition e := by
  cases condition <;> rfl

theorem check_views_eq (o : Options) (room : Room) :
    (check o >>= fun _ => views o room).mapError invalid =
      inWords ((Settings.ofOptions o room).map Views.ofSettings) := by
  have hscalars := @checkSource_eq .scalarsShape rfl (o .scalars)
  have henums := @checkSource_eq .enumValuesShape rfl (o .enumValues)
  unfold check Settings.ofOptions
  simp only [mapError_bind, invalid_require, views_eq]
  rw [checkForms_eq, hscalars, henums]
  -- The steps come in the same order on both sides, so the first that fails is the same.
  cases EnumForm.ofOptions o with
  | error e => rfl
  | ok form =>
    cases MappingSource.ofValue .scalarsShape (o .scalars) with
    | error e => rfl
    | ok scalars =>
      cases MappingSource.ofValue .enumValuesShape (o .enumValues) with
      | error e => rfl
      | ok enumValues =>
        cases o .directiveMappings with
        | object entries =>
          cases NamingConvention.ofValue (o .namingConvention) room with
          | error e => rfl
          | ok naming =>
            cases DeclarationKinds.ofValue (o .declarationKind) room with
            | error e => rfl
            | ok kinds => cases AvoidOptionals.ofValue (o .avoidOptionals) <;> rfl
        | _ => rfl

theorem knows_eq (key : String) :
    ConfigClass.types.knows key = (OptionName.all.map (·.key)).contains key := by
  rw [List.contains_eq_any_beq, List.any_map, ConfigClass.knows]
  congr 1
  funext o
  rw [Bool.eq_iff_iff, decide_eq_true_iff, Function.comp_apply, beq_iff_eq]
  exact eq_comm

theorem ofTable_filter {given : Table String Value} (hdistinct : (Table.keys given).Nodup) :
    Options.ofTable (given.filter fun p => ConfigClass.types.knows p.1) =
      Options.ofTable given := by
  funext o
  have hknown : ConfigClass.types.knows o.key = true :=
    List.any_eq_true.mpr ⟨o, o.mem_all, decide_eq_true rfl⟩
  rw [Options.ofTable, Options.ofTable, Table.get?_filter hdistinct]
  cases Table.get? given o.key with
  | none => rfl
  | some v => rw [Option.filter_some, if_pos hknown]

theorem config_object (pairs : List (String × Value)) (room : Room) :
    config (.object pairs) room =
      inWords ((Settings.ofOptions (Options.ofTable (normalizeKeys pairs)) room).map fun s =>
        (Options.ofTable (normalizeKeys pairs), Views.ofSettings s)) := by
  have hdistinct : (Table.keys (normalizeKeys pairs)).Nodup := Table.nodup_keys_ofPairs _
  have htakes : takes (OptionName.all.map (·.key))
      ((normalizeKeys pairs).filter fun p => ConfigClass.types.knows p.1) = .ok () := by
    simp only [knows_eq]
    exact takes_filter _ _
  have hconfig : config (.object pairs) room = (construct ((normalizeKeys pairs).filter fun p =>
      ConfigClass.types.knows p.1) room).mapError invalid := rfl
  rw [hconfig, construct, htakes, ofTable_filter hdistinct]
  generalize Options.ofTable (normalizeKeys pairs) = o
  have hread := check_views_eq o room
  have hconstruct : check o >>= (fun _ => views o room >>= fun w => pure (o, w)) =
      (check o >>= fun _ => views o room) >>= fun w => pure (o, w) := (bind_assoc ..).symm
  calc
    _ = (check o >>= fun _ => views o room >>= fun w => pure (o, w)).mapError invalid := rfl
    _ = inWords ((Settings.ofOptions o room).map Views.ofSettings) >>= fun w => pure (o, w) := by
      rw [hconstruct, mapError_bind, hread]
      rfl
    _ = _ := by cases Settings.ofOptions o room <;> rfl

/-- What holds of a configuration and of what its compound options are read as. -/
structure Valid (room : Room) (o : Options) (w : Views) : Prop where
  oneForm : ([OptionName.enumsAsTypes, .enumsAsConst, .numericEnums, .constEnums].filter fun name =>
    (o name).truthy).length ≤ 1
  scalars : (∃ path, o .scalars = .text path) ∨ ∃ entries, o .scalars = .object entries
  enumValues : (∃ path, o .enumValues = .text path) ∨ ∃ entries, o .enumValues = .object entries
  mappings : ∃ entries, o .directiveMappings = .object entries
  kinds : ∀ kind ∈ [w.kinds.object, w.kinds.input, w.kinds.interface, w.kinds.arguments],
    ∃ word ∈ ["type", "interface", "class"], kind = .text word
  styles : w.naming.typeNames ∈ NameStyle.all ∧ w.naming.enumValues ∈ NameStyle.all
  rereads : Reading.naming (o .namingConvention) room = .ok w.naming ∧
    Reading.kinds (o .declarationKind) room = .ok w.kinds ∧
    Reading.avoid (o .avoidOptionals) = .ok w.avoid

theorem of_require {condition : Bool} {e : ConfigError} {u : Unit}
    (h : require condition e = .ok u) : condition = true := by
  cases condition with
  | true => rfl
  | false => cases h

theorem exists_text_or_object {v : Value} (h : (isText v || isObject v) = true) :
    (∃ path, v = .text path) ∨ ∃ entries, v = .object entries := by
  cases v with
  | text path => exact Or.inl ⟨path, rfl⟩
  | object entries => exact Or.inr ⟨entries, rfl⟩
  | _ => cases h

theorem exists_object {v : Value} (h : isObject v = true) : ∃ entries, v = .object entries := by
  cases v with
  | object entries => exact ⟨entries, rfl⟩
  | _ => cases h

theorem mem_all (style : NameStyle) : style ∈ NameStyle.all := by cases style <;> decide

theorem exists_word (keyword : DeclarationKeyword) :
    ∃ word ∈ ["type", "interface", "class"], Value.text keyword.word = .text word := by
  refine ⟨keyword.word, ?_, rfl⟩
  cases keyword <;> decide

theorem valid_of_settings {o : Options} {s : Settings} (h : Settings.ofOptions o room = .ok s) :
    Valid room o (.ofSettings s) := by
  have hread : (check o >>= fun _ => views o room).mapError invalid = .ok (Views.ofSettings s) := by
    rw [check_views_eq, h]
    rfl
  obtain ⟨_, hcheck, hviews⟩ := bind_eq_ok.mp (mapError_eq_ok.mp hread)
  obtain ⟨_, hforms, hcheck⟩ := bind_eq_ok.mp hcheck
  obtain ⟨_, hscalars, hcheck⟩ := bind_eq_ok.mp hcheck
  obtain ⟨_, henums, hmappings⟩ := bind_eq_ok.mp hcheck
  obtain ⟨naming, hnaming, hviews⟩ := bind_eq_ok.mp hviews
  obtain ⟨kinds, hkinds, hviews⟩ := bind_eq_ok.mp hviews
  obtain ⟨avoid, havoid, hviews⟩ := bind_eq_ok.mp hviews
  obtain ⟨rfl, rfl, rfl⟩ := Views.mk.inj (pure_eq_ok.mp hviews)
  exact
    { oneForm := of_decide_eq_true (of_require hforms)
      scalars := exists_text_or_object (of_require hscalars)
      enumValues := exists_text_or_object (of_require henums)
      mappings := exists_object (of_require hmappings)
      kinds := by
        simp only [List.forall_mem_cons]
        exact ⟨exists_word _, exists_word _, exists_word _, exists_word _, nofun⟩
      styles := ⟨mem_all _, mem_all _⟩
      rereads := ⟨hnaming, hkinds, havoid⟩ }

theorem ofOptions_cases (o : Options) (room : Room) :
    (∃ e, TypesConfig.ofOptions o room = .error e ∧ Settings.ofOptions o room = .error e) ∨
    ∃ t, TypesConfig.ofOptions o room = .ok t ∧ t.options = o ∧
      Settings.ofOptions o room = .ok t.settings := by
  unfold TypesConfig.ofOptions
  split
  · next s hs => exact Or.inr ⟨_, rfl, rfl, hs⟩
  · next e he => exact Or.inl ⟨e, rfl, he⟩

theorem ofValue_object (pairs : List (String × Value)) (room : Room) :
    (Config.ofValue .types (.object pairs) room).2 =
      (TypesConfig.ofOptions (Options.ofTable (normalizeKeys pairs)) room).map .types := rfl

/-- **A value gives a valid configuration, or it is refused in the words of a configuration, or there
is no room for its levels in these words.** No other fault comes out, whatever the value, and what the
compound options are read as is read from them again without a fault. -/
theorem valid_or_refused (v : Value) (room : Room) :
    (∃ e, (Config.ofValue .types v room).2 = .error e ∧
      config v room = .error (.refused e.message)) ∨
    (∃ t, (Config.ofValue .types v room).2 = .ok (.types t) ∧
      config v room = .ok (t.options, .ofSettings t.settings) ∧
      Valid room t.options (.ofSettings t.settings)) ∨
    ((Config.ofValue .types v room).2 = .error (.limit (.text .levels)) ∧
      config v room = .error .tooDeep ∧
      ∃ pairs, v = .object pairs ∧ Overfull room (Options.ofTable (normalizeKeys pairs))) := by
  cases v with
  | object pairs =>
    rw [ofValue_object, config_object]
    rcases ofOptions_cases (Options.ofTable (normalizeKeys pairs)) room with
      ⟨e, he, hs⟩ | ⟨t, ht, ho, hs⟩
    · rw [he, hs]
      cases e with
      | limit l =>
        obtain ⟨rfl, hdeep⟩ := overfull_of_limit he
        exact Or.inr (Or.inr ⟨rfl, rfl, pairs, rfl, hdeep⟩)
      | _ => exact Or.inl ⟨_, rfl, rfl⟩
    · rw [ht, ← ho]
      rw [← ho] at hs
      rw [hs]
      exact Or.inr (Or.inl ⟨t, rfl, rfl, valid_of_settings hs⟩)
  | _ => exact Or.inl ⟨.notMapping _, rfl, rfl⟩

/-! ## Values nested too deeply -/

theorem normalizeKeys_singleton {key : String} (h : optionKey key = key) (v : Value) :
    normalizeKeys [(key, v)] = [(key, v)] := by
  have hkey : normalizeKeys [(key, v)] = [(optionKey key, v)] := rfl
  rw [hkey, h]

/-- A style for the names of types: an empty list inside so many others. -/
def deepStyle (n : Nat) : List (String × Value) :=
  [("naming_convention", .object [("type_names", .nest n)])]

theorem naming_of_nest {n : Nat} (h : room.style = some n) :
    NamingConvention.ofValue (.object [("type_names", .nest (n + 1))]) room =
      .error (.limit (.text .levels)) := by
  have hlimit : (Value.nest (n + 1)).limit? room.style = some .levels := by
    rw [h, Value.limit?_nest, if_pos (Nat.lt_succ_self n)]
  have hstyle : NameStyle.ofValue (.nest (n + 1)) room = .error (.limit (.text .levels)) := by
    simp only [Value.nest, NameStyle.ofValue, checkWords, Value.checkText] at hlimit ⊢
    rw [hlimit]
    rfl
  have hkey : optionKey "type_names" = "type_names" := by decide +kernel
  simp only [NamingConvention.ofValue, recordOf, ok_bind, normalizeKeys_singleton hkey]
  rw [Table.get?, if_pos rfl, Option.getD_some, hstyle]
  rfl

theorem settings_of_naming {given : Value} {e : ConfigError}
    (h : NamingConvention.ofValue given room = .error e) :
    Settings.ofOptions (Options.ofTable [("naming_convention", given)]) room = .error e := by
  have hforms : EnumForm.ofOptions (Options.ofTable [("naming_convention", given)]) =
      .ok .plain := rfl
  have hscalars : Options.ofTable [("naming_convention", given)] .scalars = .object [] := rfl
  have henums : Options.ofTable [("naming_convention", given)] .enumValues = .object [] := rfl
  have hmappings : Options.ofTable [("naming_convention", given)] .directiveMappings =
    .object [] := rfl
  have hnaming : Options.ofTable [("naming_convention", given)] .namingConvention = given := rfl
  unfold Settings.ofOptions
  rw [hforms, hscalars, henums, hmappings, hnaming, h]
  rfl

/-- Where there is room for so many levels and no more, the next one is too many. -/
theorem tooDeep_of_style {n : Nat} (h : room.style = some n) :
    (Config.ofValue .types (.object (deepStyle (n + 1))) room).2 =
      .error (.limit (.text .levels)) ∧
    config (.object (deepStyle (n + 1))) room = .error .tooDeep := by
  have hkey : optionKey "naming_convention" = "naming_convention" := by decide +kernel
  have hsettings := settings_of_naming (naming_of_nest h)
  rw [← normalizeKeys_singleton hkey] at hsettings
  rw [ofValue_object, config_object, deepStyle, hsettings]
  refine ⟨?_, rfl⟩
  rcases ofOptions_cases (Options.ofTable (normalizeKeys
    [("naming_convention", .object [("type_names", .nest (n + 1))])])) room with
    ⟨e, he, hs⟩ | ⟨t, _, _, hs⟩
  · rw [hsettings] at hs
    rw [he, ← Except.error.inj hs]
    rfl
  · rw [hsettings] at hs
    cases hs

/-- A value that is neither refused nor valid. -/
theorem neither_valid_nor_refused :
    config (.object (deepStyle 981)) .standard = .error .tooDeep ∧
    ¬ ((∃ message, config (.object (deepStyle 981)) .standard = .error (.refused message)) ∨
      ∃ read, config (.object (deepStyle 981)) .standard = .ok read) := by
  have hdeep := (@tooDeep_of_style .standard 980 rfl).2
  refine ⟨hdeep, ?_⟩
  rw [hdeep]
  rintro (⟨_, h⟩ | ⟨_, h⟩) <;> cases h

end SchemaTypings.Reading
