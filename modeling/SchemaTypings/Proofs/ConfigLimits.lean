import SchemaTypings.Config.Basic
import SchemaTypings.Proofs.Outcome
import SchemaTypings.Proofs.TextLimits

/-!
# Limits of a configuration

Of all limits, options can run into that of levels alone, and only where the value of a compound
option is put into text: a value that names a style, or a kind of declarations that is not known.
-/

open SchemaTypings.Outcome

namespace SchemaTypings

/-- Where a run stops at a limit, it is that of levels, and for a reason. -/
def LimitedTo {α : Type} (reason : Prop) (x : Except ConfigError α) : Prop :=
  FailsWith (fun e => ∀ l, e = .limit l → l = .text .levels ∧ reason) x

/-- A value of a compound option has more levels than there is room for in the words it stands in. -/
inductive Overfull (room : Room) (o : Options) : Prop
  | naming {fields : List (String × Value)} {key : String} {v : Value}
      (hoption : o .namingConvention = .object fields) (hkey : key ∈ ["type_names", "enum_values"])
      (hgiven : Table.get? (normalizeKeys fields) key = some v)
      (hdeep : v.DeeperThan room.style ∨ v.DeeperThan room.unknownStyle)
  | kind {fields : List (String × Value)} {category : String} {v : Value}
      (hoption : o .declarationKind = .object fields)
      (hgiven : (category, v) ∈ normalizeKeys fields) (hdeep : v.DeeperThan room.unknownKind)

theorem not_overfull_ample (o : Options) : ¬ Overfull .ample o := by
  rintro (⟨_, _, _, hdeep | hdeep⟩ | ⟨_, _, hdeep⟩)
  all_goals exact Value.not_deeperThan_ample _ hdeep

section

variable {α β : Type} {reason : Prop} {room : Room}

theorem limitedTo_ok (a : α) : LimitedTo reason (.ok a : Except ConfigError α) := failsWith_ok a

theorem limitedTo_error {e : ConfigError} (h : ∀ l, e ≠ .limit l) :
    LimitedTo reason (.error e : Except ConfigError α) :=
  failsWith_error fun l he => absurd he (h l)

theorem LimitedTo.bind {x : Except ConfigError α} {f : α → Except ConfigError β}
    (hx : LimitedTo reason x) (hf : ∀ a, LimitedTo reason (f a)) : LimitedTo reason (x >>= f) :=
  FailsWith.bind hx hf

theorem LimitedTo.imp {reason' : Prop} {x : Except ConfigError α} (h : LimitedTo reason x)
    (himp : reason → reason') : LimitedTo reason' x :=
  fun e he l hl => (h e he l hl).imp_right himp

/-! ## Compound options -/

theorem limitedTo_checkWords (tooLong : ConfigError) (h : ∀ l, tooLong ≠ .limit l) (v : Value)
    (levels : Option Nat) : LimitedTo (v.DeeperThan levels) (checkWords tooLong v levels) := by
  unfold checkWords Value.checkText
  cases hlimit : v.limit? levels with
  | none => exact limitedTo_ok _
  | some l =>
    cases l with
    | digits => exact limitedTo_error h
    | levels =>
      refine failsWith_error fun l hl => ?_
      cases hl
      exact ⟨rfl, v.deeperThan_of_limit? hlimit⟩

theorem limitedTo_nameStyle (v : Value) :
    LimitedTo (v.DeeperThan room.style ∨ v.DeeperThan room.unknownStyle)
      (NameStyle.ofValue v room) := by
  have hwords := limitedTo_checkWords .longStyle nofun v
  unfold NameStyle.ofValue
  split
  · exact limitedTo_ok _
  · refine ((hwords _).imp Or.inl).bind fun _ => ?_
    split
    · exact limitedTo_ok _
    · exact ((hwords _).imp Or.inr).bind fun _ => limitedTo_error nofun

theorem limitedTo_naming {o : Options} :
    LimitedTo (Overfull room o) (NamingConvention.ofValue (o .namingConvention) room) := by
  cases hoption : o .namingConvention with
  | null => exact limitedTo_ok _
  | text s =>
    have htext : ∀ levels, ¬ (Value.text s).DeeperThan levels := by
      rintro levels ⟨n, _, hn⟩
      exact absurd hn (Nat.not_lt_zero n)
    refine LimitedTo.bind ((limitedTo_nameStyle _).imp fun h => ?_) fun _ => limitedTo_ok _
    exact absurd h (not_or.mpr ⟨htext _, htext _⟩)
  | object fields =>
    have hkey : ∀ key ∈ ["type_names", "enum_values"], LimitedTo (Overfull room o)
        (NameStyle.ofValue ((Table.get? (normalizeKeys fields) key).getD .null) room) := by
      intro key hkey
      cases hgiven : Table.get? (normalizeKeys fields) key with
      | none => exact limitedTo_ok _
      | some v => exact (limitedTo_nameStyle v).imp (.naming hoption hkey hgiven)
    simp only [NamingConvention.ofValue, recordOf, ok_bind]
    exact (hkey "type_names" (by decide)).bind fun _ =>
      (hkey "enum_values" (by decide)).bind fun _ => limitedTo_ok _
  | _ => exact limitedTo_error nofun

theorem limitedTo_keywordOf (category : String) (v : Value) :
    LimitedTo (v.DeeperThan room.unknownKind) (keywordOf category v room) := by
  have hwords := limitedTo_checkWords .longKind nofun v room.unknownKind
  unfold keywordOf
  split
  · exact limitedTo_ok _
  · exact hwords.bind fun _ => limitedTo_error nofun

theorem limitedTo_categories {reason : Prop} {record : Table String Value}
    (h : ∀ p ∈ record, LimitedTo reason (keywordOf p.1 p.2 room)) :
    LimitedTo reason (record.mapM fun (category, kind) => do
      let keyword ← keywordOf category kind room
      return (category, keyword)) := by
  intro e he l hl
  obtain ⟨p, hp, herror⟩ := exists_of_mapM_error he
  exact (h p hp).bind (fun _ => limitedTo_ok _) e herror l hl

theorem limitedTo_kinds {o : Options} :
    LimitedTo (Overfull room o) (DeclarationKinds.ofValue (o .declarationKind) room) := by
  cases hoption : o .declarationKind with
  | null => exact limitedTo_ok _
  | text s =>
    -- A text has no levels, so it is never too deep.
    refine LimitedTo.bind ((limitedTo_keywordOf "type" (.text s)).imp fun h => ?_) fun _ =>
      limitedTo_ok _
    obtain ⟨n, _, hn⟩ := h
    exact absurd hn (Nat.not_lt_zero n)
  | object fields =>
    have hkinds : ∀ p ∈ normalizeKeys fields,
        LimitedTo (Overfull room o) (keywordOf p.1 p.2 room) := fun p hgiven =>
      (limitedTo_keywordOf p.1 p.2).imp (.kind hoption hgiven)
    simp only [DeclarationKinds.ofValue, recordOf, ok_bind]
    exact (limitedTo_categories hkinds).bind fun _ => limitedTo_ok _
  | _ => exact limitedTo_error nofun

theorem limitedTo_avoidOptionals (v : Value) : LimitedTo reason (AvoidOptionals.ofValue v) := by
  cases v with
  | null => exact limitedTo_ok _
  | bool b => cases b <;> exact limitedTo_ok _
  | object fields => exact limitedTo_ok _
  | _ => exact limitedTo_error nofun

/-! ## All options -/

theorem limitedTo_enumForm (o : Options) : LimitedTo reason (EnumForm.ofOptions o) := by
  unfold EnumForm.ofOptions
  split
  · exact limitedTo_ok _
  · exact limitedTo_ok _
  · exact limitedTo_error nofun

theorem limitedTo_mappingSource {shape : ConfigError} (hshape : ∀ l, shape ≠ .limit l) (v : Value) :
    LimitedTo reason (MappingSource.ofValue shape v) := by
  cases v with
  | text path => exact limitedTo_ok _
  | object entries => exact limitedTo_ok _
  | _ => exact limitedTo_error hshape

theorem limitedTo_settings (o : Options) (room : Room) :
    LimitedTo (Overfull room o) (Settings.ofOptions o room) := by
  have hscalars := @limitedTo_mappingSource (Overfull room o) .scalarsShape nofun (o .scalars)
  have henums := @limitedTo_mappingSource (Overfull room o) .enumValuesShape nofun (o .enumValues)
  unfold Settings.ofOptions
  refine (limitedTo_enumForm o).bind fun _ => hscalars.bind fun _ => henums.bind fun _ => ?_
  split
  · refine (limitedTo_ok _).bind fun _ => limitedTo_naming.bind fun _ => ?_
    exact limitedTo_kinds.bind fun _ => (limitedTo_avoidOptionals _).bind fun _ => limitedTo_ok _
  · exact limitedTo_error nofun

/-- Reading options runs out of levels only where one of them has too many. -/
theorem overfull_of_limit {o : Options} {l : Limit}
    (h : TypesConfig.ofOptions o room = .error (.limit l)) : l = .text .levels ∧ Overfull room o := by
  unfold TypesConfig.ofOptions at h
  split at h
  · cases h
  · next e he => exact limitedTo_settings o room e he l (Except.error.inj h)

end

/-! ## Settings that were read in little room -/

theorem checkWords_ample {tooLong : ConfigError} {v : Value} {levels : Option Nat}
    (h : checkWords tooLong v levels = .ok ()) : checkWords tooLong v none = .ok () :=
  mapError_eq_ok.mpr (v.checkText_ample (mapError_eq_ok.mp h))

theorem nameStyle_ample {v : Value} {room : Room} {style : NameStyle}
    (h : NameStyle.ofValue v room = .ok style) : NameStyle.ofValue v = .ok style := by
  cases v with
  | null => exact h
  | bool _ | int _ | float _ | text _ | list _ | object _ =>
    obtain ⟨⟨⟩, hwords, h⟩ := bind_eq_ok.mp h
    refine bind_eq_ok.mpr ⟨(), checkWords_ample hwords, ?_⟩
    cases hknown : NameStyle.ofText? _ with
    | some known =>
      rw [hknown] at h
      exact h
    | none =>
      rw [hknown] at h
      obtain ⟨_, _, h⟩ := bind_eq_ok.mp h
      cases h

theorem naming_ample {v : Value} {room : Room} {naming : NamingConvention}
    (h : NamingConvention.ofValue v room = .ok naming) :
    NamingConvention.ofValue v = .ok naming := by
  cases v with
  | null => exact h
  | text s =>
    obtain ⟨style, hstyle, h⟩ := bind_eq_ok.mp h
    exact bind_eq_ok.mpr ⟨style, nameStyle_ample hstyle, h⟩
  | bool _ | int _ | float _ | list _ | object _ =>
    obtain ⟨given, hgiven, h⟩ := bind_eq_ok.mp h
    obtain ⟨typeNames, htypes, h⟩ := bind_eq_ok.mp h
    obtain ⟨enumValues, henums, h⟩ := bind_eq_ok.mp h
    exact bind_eq_ok.mpr ⟨given, hgiven, bind_eq_ok.mpr ⟨typeNames, nameStyle_ample htypes,
      bind_eq_ok.mpr ⟨enumValues, nameStyle_ample henums, h⟩⟩⟩

theorem keywordOf_ample {category : String} {v : Value} {room : Room} {kind : DeclarationKeyword}
    (h : keywordOf category v room = .ok kind) : keywordOf category v = .ok kind := by
  unfold keywordOf at h ⊢
  cases hknown : DeclarationKeyword.ofValue? v with
  | some known =>
    rw [hknown] at h
    exact h
  | none =>
    rw [hknown] at h
    obtain ⟨_, _, h⟩ := bind_eq_ok.mp h
    cases h

theorem kinds_ample {v : Value} {room : Room} {kinds : DeclarationKinds}
    (h : DeclarationKinds.ofValue v room = .ok kinds) : DeclarationKinds.ofValue v = .ok kinds := by
  cases v with
  | null => exact h
  | text s =>
    obtain ⟨keyword, hkeyword, h⟩ := bind_eq_ok.mp h
    exact bind_eq_ok.mpr ⟨keyword, keywordOf_ample hkeyword, h⟩
  | bool _ | int _ | float _ | list _ | object _ =>
    obtain ⟨given, hgiven, h⟩ := bind_eq_ok.mp h
    obtain ⟨read, hread, h⟩ := bind_eq_ok.mp h
    refine bind_eq_ok.mpr ⟨given, hgiven, bind_eq_ok.mpr ⟨read, ?_, h⟩⟩
    refine mapM_eq_ok.mpr ((mapM_eq_ok.mp hread).imp fun p entry hentry => ?_)
    obtain ⟨keyword, hkeyword, hentry⟩ := bind_eq_ok.mp hentry
    exact bind_eq_ok.mpr ⟨keyword, keywordOf_ample hkeyword, hentry⟩

theorem settings_ample {o : Options} {room : Room} {s : Settings}
    (h : Settings.ofOptions o room = .ok s) : Settings.ofOptions o = .ok s := by
  unfold Settings.ofOptions at h ⊢
  obtain ⟨form, hform, h⟩ := bind_eq_ok.mp h
  obtain ⟨scalars, hscalars, h⟩ := bind_eq_ok.mp h
  obtain ⟨enumValues, henums, h⟩ := bind_eq_ok.mp h
  refine bind_eq_ok.mpr ⟨form, hform, bind_eq_ok.mpr ⟨scalars, hscalars,
    bind_eq_ok.mpr ⟨enumValues, henums, ?_⟩⟩⟩
  dsimp only at h ⊢
  split at h
  · obtain ⟨mappings, hmappings, h⟩ := bind_eq_ok.mp h
    obtain ⟨naming, hnaming, h⟩ := bind_eq_ok.mp h
    obtain ⟨kinds, hkinds, h⟩ := bind_eq_ok.mp h
    exact bind_eq_ok.mpr ⟨mappings, hmappings, bind_eq_ok.mpr ⟨naming, naming_ample hnaming,
      bind_eq_ok.mpr ⟨kinds, kinds_ample hkinds, h⟩⟩⟩
  · obtain ⟨_, hfault, _⟩ := bind_eq_ok.mp h
    cases hfault

/-- The settings of a configuration are what its options say, however much room there was. -/
theorem TypesConfig.valid_ample (c : TypesConfig) :
    Settings.ofOptions c.options = .ok c.settings :=
  settings_ample c.valid.choose_spec

end SchemaTypings
