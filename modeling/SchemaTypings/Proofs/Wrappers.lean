import SchemaTypings.Proofs.Emission

/-!
# The wrappers of a declaration

Whatever wraps a type is an array or an alias that the prelude of the run declares.
-/

open SchemaTypings.Outcome

namespace SchemaTypings.Code

/-- The wrappers of a declaration. -/
def DeclarationBody.wrappers : DeclarationBody → List Wrapper
  | scalars _ | directiveMappings _ | enum .. | union .. => []
  | object _ _ _ fields | interface _ _ fields | input _ fields | arguments _ fields =>
    fields.flatMap fun a => a.type.type.wrappers
  | oneOf _ variants => variants.flatten.flatMap fun f => (f.type.map TypeExpr.wrappers).getD []

/-! ## Aliases -/

/-- What the alias of a wrapper stands for; arrays need none. -/
def Wrapper.body? (s : Settings) : Wrapper → Option String
  | maybe => some s.maybe
  | inputMaybe => some s.inputMaybe
  | field => some s.fieldWrapper
  | entireField => some s.entireFieldWrapper
  | array | readonlyArray => none

def aliasLine (s : Settings) (name body : String) : String :=
  s.exportPrefix ++ ("type " ++ name ++ "<T> = " ++ body ++ ";")

/-- Wrappers of fields are there only on demand. -/
def Wrapper.Allowed (s : Settings) : Wrapper → Prop
  | field => s.wrapFields = true
  | entireField => s.wrapEntireFields = true
  | maybe | inputMaybe | array | readonlyArray => True

theorem aliasLine_mem {s : Settings} {w : Wrapper} (h : w.Allowed s) {body : String}
    (hbody : w.body? s = some body) : aliasLine s w.name body ∈ preludeLines s := by
  cases w with
  | maybe | inputMaybe =>
    simp only [Wrapper.body?, Option.some.injEq] at hbody
    subst hbody
    simp [preludeLines, aliasLine, Wrapper.name]
  | field | entireField =>
    simp only [Wrapper.body?, Option.some.injEq] at hbody
    subst hbody
    simp only [Wrapper.Allowed] at h
    simp [preludeLines, aliasLine, Wrapper.name, h]
  | array | readonlyArray => simp [Wrapper.body?] at hbody

theorem mem_levelWrappers {missing many w : Wrapper} {inner : List Wrapper} {t : TypeRef}
    (h : w ∈ levelWrappers missing many inner t) : w = missing ∨ w = many ∨ w ∈ inner := by
  induction t with
  | named nullable name =>
    rcases List.mem_append.mp h with h | h
    · split at h <;> simp_all
    · exact Or.inr (Or.inr h)
  | list nullable item ih =>
    rcases List.mem_append.mp h with h | h
    · split at h <;> simp_all
    · rcases List.mem_cons.mp h with h | h
      · exact Or.inr (Or.inl h)
      · exact ih h

theorem allowed_arrayWrapper (s : Settings) : s.arrayWrapper.Allowed s := by
  unfold Settings.arrayWrapper
  split <;> trivial

theorem allowed_outputExpr {s : Settings} {t : TypeRef} {core : Reference} {w : Wrapper}
    (h : w ∈ (s.outputExpr t core).wrappers) : w.Allowed s := by
  rcases List.mem_append.mp h with h | h
  · split at h
    · next hoption => exact List.mem_singleton.mp h ▸ hoption
    · simp at h
  · rcases mem_levelWrappers h with rfl | rfl | h
    · trivial
    · exact allowed_arrayWrapper s
    · split at h
      · next hoption => exact List.mem_singleton.mp h ▸ hoption
      · simp at h

theorem allowed_inputExpr {s : Settings} {t : TypeRef} {core : Reference} {w : Wrapper}
    (h : w ∈ (s.inputExpr t core).wrappers) : w.Allowed s := by
  rcases mem_levelWrappers h with rfl | rfl | h
  · trivial
  · exact allowed_arrayWrapper s
  · simp at h

namespace Scope

variable {c : Scope} {w : Wrapper}

theorem allowed_outputMember {f : Field} {a : Attribute} (ha : c.outputMember f = .ok a)
    (h : w ∈ a.type.type.wrappers) : w.Allowed c.settings := by
  obtain ⟨core, _, _, _, htype⟩ := outputMember_ok ha
  rw [htype] at h
  exact allowed_outputExpr h

theorem allowed_inputMember {i : InputValue} {a : Attribute} (ha : c.inputMember i = .ok a)
    (h : w ∈ a.type.type.wrappers) : w.Allowed c.settings := by
  obtain ⟨_, _, ⟨o, _, htype⟩ | ⟨_, core, _, htype⟩⟩ := inputMember_ok ha
  · rw [htype] at h
    simp [Settings.inputAttribute] at h
  · rw [htype] at h
    exact allowed_inputExpr h

theorem allowed_requiredType {i : InputValue} {type : TypeExpr Reference}
    (htype : c.requiredType i = .ok type) (h : w ∈ type.wrappers) : w.Allowed c.settings := by
  rcases requiredType_ok htype with ⟨o, _, rfl⟩ | ⟨_, core, _, rfl⟩
  · simp at h
  · exact allowed_inputExpr h

theorem allowed_variants {input : String} {all given : List InputValue} {variants : List Variant}
    (hvariants : given.mapM (c.variant input all) = .ok variants) {f : VariantField}
    (hf : f ∈ variants.flatten) (h : w ∈ (f.type.map TypeExpr.wrappers).getD []) :
    w.Allowed c.settings := by
  obtain ⟨v, hv, hf⟩ := List.mem_flatten.mp hf
  obtain ⟨i, _, hi⟩ := exists_of_mem_mapM hvariants hv
  obtain ⟨_, type, htype, rfl⟩ := variant_ok hi
  obtain ⟨g, _, rfl⟩ := List.mem_map.mp hf
  simp only at h
  split at h
  · exact allowed_requiredType htype h
  · simp at h

theorem allowed_argumentBags {owner : String} {fields : List Field} {bags : List Declaration}
    (hbags : c.argumentBags owner fields = .ok bags) {d : Declaration} (hd : d ∈ bags)
    (h : w ∈ d.body.wrappers) : w.Allowed c.settings := by
  obtain ⟨f, _, hbag⟩ := exists_of_mem_mapM hbags hd
  obtain ⟨members, hmembers, hbag⟩ := bind_eq_ok.mp hbag
  rw [pure_eq_ok] at hbag
  rw [← hbag] at h
  obtain ⟨a, ha, h⟩ := List.mem_flatMap.mp h
  obtain ⟨i, _, hia⟩ := exists_of_mem_mapM hmembers ha
  exact allowed_inputMember hia h

theorem allowed_declared {t : NamedType} {ds : List Declaration} (hds : c.Declared t ds)
    {d : Declaration} (hd : d ∈ ds) (h : w ∈ d.body.wrappers) : w.Allowed c.settings := by
  cases hds with
  | scalar | externalEnum => simp at hd
  -- Neither values nor members of a union are wrapped.
  | localEnum | union =>
    rw [List.mem_singleton.mp hd] at h
    simp [declareType, declare, DeclarationBody.wrappers] at h
  | object hbody hmembers hbags | interface hbody hmembers hbags =>
    rcases List.mem_cons.mp hd with rfl | hd
    · obtain ⟨a, ha, h⟩ := List.mem_flatMap.mp h
      obtain ⟨f, _, hfa⟩ := exists_of_mem_mapM hmembers ha
      exact allowed_outputMember hfa h
    · exact allowed_argumentBags hbags hd h
  | oneOf hbody hone hvariants =>
    rw [List.mem_singleton.mp hd] at h
    obtain ⟨f, hf, h⟩ := List.mem_flatMap.mp h
    exact allowed_variants hvariants hf h
  | input hbody hone hmembers =>
    rw [List.mem_singleton.mp hd] at h
    obtain ⟨a, ha, h⟩ := List.mem_flatMap.mp h
    obtain ⟨i, _, hia⟩ := exists_of_mem_mapM hmembers ha
    exact allowed_inputMember hia h

end Scope

end SchemaTypings.Code
