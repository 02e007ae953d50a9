import Mathlib.Data.List.TakeWhile
import SchemaTypings.Proofs.Outcome
import SchemaTypings.Proofs.Spelling
import SchemaTypings.Sdl.Reader

/-!
# The names in a document

Tokens for names are spelled as names, and a document takes each name from such a token.
-/

namespace SchemaTypings.Sdl

def Named (s : String) : Prop := isName s.toList = true

/-! ## Tokens -/

/-- A token that says a name says one that is spelled as names are. -/
def Token.Proper : Token → Prop
  | .name s => Named s
  | _ => True

theorem named_read {c : Char} {rest : List Char} (h : isNameStart c = true) :
    Named (String.ofList (c :: rest.takeWhile isNamePart)) := by
  unfold Named
  rw [String.toList_ofList, isName, h, Bool.true_and, List.all_eq_true]
  exact fun _ hd => List.mem_takeWhile_imp hd

theorem proper_number {cs rest : List Char} {t : Token} (h : number? cs = some (t, rest)) :
    t.Proper := by
  have hend : ∀ {closed short : Bool} {written : String} {after : List Char},
      (if closed then none else some (if short then Token.int written else .float written, after)) =
        some (t, rest) → t.Proper := by
    intro closed short written after h
    cases closed <;> cases short <;> cases h <;> trivial
  unfold number? at h
  obtain ⟨whole, _, h⟩ := Option.bind_eq_some_iff.mp h
  dsimp only at h
  split at h
  all_goals
    obtain ⟨fraction, _, h⟩ := Option.bind_eq_some_iff.mp h
    split at h
  all_goals try split at h
  all_goals
    obtain ⟨power, _, h⟩ := Option.bind_eq_some_iff.mp h
    exact hend h

theorem proper_string {cs rest : List Char} {t : Token} (h : stringToken? cs = some (t, rest)) :
    t.Proper := by
  unfold stringToken? at h
  split at h
  · obtain ⟨⟨_, _⟩, _, h⟩ := Option.bind_eq_some_iff.mp h
    cases h
    trivial
  · obtain ⟨⟨_, _⟩, _, h⟩ := Option.bind_eq_some_iff.mp h
    cases h
    trivial
  · cases h

theorem proper_tokensFrom {read : List Token} {fuel : Nat} {cs : List Char} {ts : List Token}
    (hread : ∀ t ∈ read, t.Proper) (h : tokensFrom read fuel cs = .ok ts) : ∀ t ∈ ts, t.Proper := by
  have hmore : ∀ {read : List Token} {t : Token}, (∀ u ∈ read, u.Proper) → t.Proper →
      ∀ u ∈ t :: read, u.Proper := fun hread ht => List.forall_mem_cons.mpr ⟨ht, hread⟩
  fun_induction tokensFrom read fuel cs
  case case1 read =>
    cases h
    simpa using hread
  case case2 | case8 | case10 | case12 => cases h
  case case3 ih | case4 ih => exact ih hread h
  case case5 ih | case11 ih => exact ih (hmore hread trivial) h
  case case6 hstart ih => exact ih (hmore hread (named_read hstart)) h
  case case7 hnumber ih => exact ih (hmore hread (proper_number hnumber)) h
  case case9 hstring ih => exact ih (hmore hread (proper_string hstring)) h

theorem proper_tokens {text : String} {ts : List Token} (h : tokens text = .ok ts) :
    ∀ t ∈ ts, t.Proper := proper_tokensFrom (by simp) h

/-! ## Definitions -/

def InputDef.Proper (d : InputDef) : Prop := Named d.name ∧ Named d.type.name

def FieldDef.Proper (d : FieldDef) : Prop :=
  Named d.name ∧ Named d.type.name ∧ ∀ i ∈ d.arguments, i.Proper

def TypeBody.Proper : TypeBody → Prop
  | scalar => True
  | object interfaces fields | interface interfaces fields =>
    (∀ n ∈ interfaces, Named n) ∧ ∀ f ∈ fields, f.Proper
  | union members => ∀ n ∈ members, Named n
  | enum values => ∀ v ∈ values, Named v.name
  | input fields => ∀ i ∈ fields, i.Proper

def TypeDef.Proper (d : TypeDef) : Prop := Named d.name ∧ d.body.Proper

def Definition.Proper : Definition → Prop
  | type d | extendType d => d.Proper
  | _ => True

/-! ## Reading -/

namespace Read

/-- From proper tokens, a reader gives what has a property and leaves proper tokens. -/
def Gives {α : Type} (P : α → Prop) (r : Read α) : Prop :=
  ∀ ts a rest, (∀ t ∈ ts, t.Proper) → r.run ts = .ok (a, rest) → P a ∧ ∀ t ∈ rest, t.Proper

abbrev Keeps {α : Type} (r : Read α) : Prop := Gives (fun _ => True) r

variable {α β : Type} {P : α → Prop} {Q : β → Prop}

theorem Gives.pure {a : α} (h : P a) : Gives P (pure a) := by
  intro ts b rest hts hrun
  cases hrun
  exact ⟨h, hts⟩

theorem Gives.bind {r : Read α} {f : α → Read β} (hr : Gives P r) (hf : ∀ a, P a → Gives Q (f a)) :
    Gives Q (r >>= f) := by
  intro ts b rest hts hrun
  rw [StateT.run_bind] at hrun
  cases hfirst : r.run ts with
  | error e =>
    rw [hfirst] at hrun
    cases hrun
  | ok out =>
    obtain ⟨a, mid⟩ := out
    rw [hfirst] at hrun
    obtain ⟨ha, hmid⟩ := hr ts a mid hts hfirst
    exact hf a ha mid b rest hmid hrun

theorem gives_peek : Gives (fun t? => ∀ t, t? = some t → t.Proper) peek? := by
  intro ts t? rest hts hrun
  cases hrun
  refine ⟨?_, hts⟩
  intro t ht
  exact hts t (List.mem_of_mem_head? ht)

theorem gives_fail : Gives P (fail : Read α) := by
  unfold fail
  refine gives_peek.bind fun t? _ => ?_
  intro ts a rest _ hrun
  cases t? <;> cases hrun

theorem keeps_skip : Keeps skip := by
  intro ts a rest hts hrun
  cases hrun
  exact ⟨trivial, fun t ht => hts t (List.mem_of_mem_tail ht)⟩

theorem keeps_rounds : Keeps rounds := by
  intro ts a rest hts hrun
  cases hrun
  exact ⟨trivial, hts⟩

theorem keeps_sees (t : Token) : Keeps (sees t) := by
  unfold sees
  exact gives_peek.bind fun _ _ => .pure trivial

theorem keeps_expect (t : Token) : Keeps (expect t) := by
  unfold expect
  refine (keeps_sees t).bind fun seen _ => ?_
  split
  · exact keeps_skip
  · exact gives_fail

theorem keeps_optional (t : Token) : Keeps (optional t) := by
  unfold optional
  refine (keeps_sees t).bind fun seen _ => ?_
  split
  · exact keeps_skip.bind fun _ _ => .pure trivial
  · exact .pure trivial

theorem gives_name : Gives Named name := by
  unfold name
  refine gives_peek.bind fun t? ht => ?_
  split
  · exact keeps_skip.bind fun _ _ => .pure (ht _ rfl)
  · exact gives_fail

/-! ## Repetition -/

theorem gives_untilClose {item : Read α} (h : Gives P item) (close : Char) (fuel : Nat) :
    Gives (fun as => ∀ a ∈ as, P a) (untilClose close item fuel) := by
  induction fuel with
  | zero => exact gives_fail
  | succ fuel ih =>
    unfold untilClose
    refine (keeps_optional _).bind fun seen _ => ?_
    split
    · exact .pure (by simp)
    · exact h.bind fun _ ha => ih.bind fun _ has => .pure (List.forall_mem_cons.mpr ⟨ha, has⟩)

theorem gives_any {item : Read α} (h : Gives P item) (opening close : Char) :
    Gives (fun as => ∀ a ∈ as, P a) (any opening close item) := by
  unfold any
  exact (keeps_expect _).bind fun _ _ => keeps_rounds.bind fun n _ => gives_untilClose h close n

theorem gives_many {item : Read α} (h : Gives P item) (opening close : Char) :
    Gives (fun as => ∀ a ∈ as, P a) (many opening close item) := by
  unfold many
  refine (keeps_expect _).bind fun _ _ => h.bind fun _ ha => keeps_rounds.bind fun n _ => ?_
  exact (gives_untilClose h close n).bind fun _ has => .pure (List.forall_mem_cons.mpr ⟨ha, has⟩)

theorem gives_optionalMany {item : Read α} (h : Gives P item) (opening close : Char) :
    Gives (fun as => ∀ a ∈ as, P a) (optionalMany opening close item) := by
  unfold optionalMany
  refine (keeps_sees _).bind fun seen _ => ?_
  split
  · exact gives_many h opening close
  · exact .pure (by simp)

theorem gives_separatedRest {item : Read α} (h : Gives P item) (sep : Char) (fuel : Nat) :
    Gives (fun as => ∀ a ∈ as, P a) (separatedRest sep item fuel) := by
  induction fuel with
  | zero => exact gives_fail
  | succ fuel ih =>
    unfold separatedRest
    refine (keeps_optional _).bind fun seen _ => ?_
    split
    · exact h.bind fun _ ha => ih.bind fun _ has => .pure (List.forall_mem_cons.mpr ⟨ha, has⟩)
    · exact .pure (by simp)

theorem gives_separated {item : Read α} (h : Gives P item) (sep : Char) :
    Gives (fun as => ∀ a ∈ as, P a) (separated sep item) := by
  unfold separated
  refine (keeps_optional _).bind fun _ _ => h.bind fun _ ha => keeps_rounds.bind fun n _ => ?_
  exact (gives_separatedRest h sep n).bind fun _ has => .pure (List.forall_mem_cons.mpr ⟨ha, has⟩)

/-! ## Values, types and directives -/

theorem Gives.keeps {r : Read α} (h : Gives P r) : Keeps r :=
  fun ts a rest hts hrun => ⟨trivial, (h ts a rest hts hrun).2⟩

theorem gives_throw (e : SyntaxFault) : Gives P (throw e : Read α) := by
  intro ts a rest _ hrun
  cases hrun

theorem keeps_plainValue (const : Bool) : Keeps (plainValue const) := by
  unfold plainValue
  refine gives_peek.bind fun t? _ => ?_
  split
  case h_8 =>
    split
    · exact gives_fail
    · exact keeps_skip.bind fun _ _ => gives_name.bind fun _ _ => .pure trivial
  case h_9 => exact gives_fail
  all_goals exact keeps_skip.bind fun _ _ => .pure trivial

theorem keeps_value (const : Bool) (levels : Nat) : Keeps (value const levels) := by
  induction levels with
  | zero =>
    unfold value
    refine (keeps_sees _).bind fun _ _ => (keeps_sees _).bind fun _ _ => ?_
    split
    · exact gives_throw _
    · exact keeps_plainValue const
  | succ levels ih =>
    unfold value
    refine (keeps_sees _).bind fun _ _ => ?_
    split
    · exact (gives_any ih _ _).bind fun _ _ => .pure trivial
    · refine (keeps_sees _).bind fun _ _ => ?_
      split
      · refine Gives.bind (gives_any (P := fun _ => True) ?_ _ _) fun _ _ => .pure trivial
        exact gives_name.bind fun _ _ => (keeps_expect _).bind fun _ _ =>
          ih.bind fun _ _ => .pure trivial
      · exact keeps_plainValue const

theorem keeps_default : Keeps default? := by
  unfold default?
  refine (keeps_optional _).bind fun _ _ => ?_
  split
  · exact (keeps_value _ _).bind fun _ _ => .pure trivial
  · exact .pure trivial

theorem gives_typeRefFrom (levels : Nat) :
    Gives (fun t : TypeRef => Named t.name) (typeRefFrom levels) := by
  have hplain : Gives (fun t : TypeRef => Named t.name) (do
      let name ← name
      return .named (!(← optional (.mark '!'))) name) :=
    gives_name.bind fun _ hname => (keeps_optional _).bind fun _ _ => .pure hname
  induction levels with
  | zero =>
    unfold typeRefFrom
    refine (keeps_sees _).bind fun _ _ => ?_
    split
    · exact gives_throw _
    · exact hplain
  | succ levels ih =>
    unfold typeRefFrom
    refine (keeps_optional _).bind fun _ _ => ?_
    split
    · exact ih.bind fun _ hitem => (keeps_expect _).bind fun _ _ =>
        (keeps_optional _).bind fun _ _ => .pure hitem
    · exact hplain

theorem gives_typeRef : Gives (fun t : TypeRef => Named t.name) typeRef := gives_typeRefFrom _

theorem keeps_arguments (const : Bool) (levels : Nat) : Keeps (arguments const levels) := by
  unfold arguments
  refine Gives.keeps (gives_optionalMany (P := fun _ => True) ?_ _ _)
  exact gives_name.bind fun _ _ => (keeps_expect _).bind fun _ _ =>
    (keeps_value _ _).bind fun _ _ => .pure trivial

theorem keeps_directivesFrom (const : Bool) (levels fuel : Nat) :
    Keeps (directivesFrom const levels fuel) := by
  induction fuel with
  | zero => exact gives_fail
  | succ fuel ih =>
    unfold directivesFrom
    refine (keeps_optional _).bind fun _ _ => ?_
    split
    · exact gives_name.bind fun _ _ => (keeps_arguments _ _).bind fun _ _ =>
        ih.bind fun _ _ => .pure trivial
    · exact .pure trivial

theorem keeps_usesWithin (const : Bool) (levels : Nat) : Keeps (usesWithin const levels) :=
  keeps_rounds.bind fun _ _ => keeps_directivesFrom const levels _

theorem keeps_directives : Keeps directives := keeps_usesWithin _ _

/-! ## Type definitions -/

theorem keeps_description : Keeps description? := by
  unfold description?
  refine gives_peek.bind fun _ _ => ?_
  split
  · exact keeps_skip.bind fun _ _ => .pure trivial
  · exact .pure trivial

theorem gives_inputDef : Gives InputDef.Proper inputDef := by
  unfold inputDef
  exact keeps_description.bind fun _ _ => gives_name.bind fun _ hname =>
    (keeps_expect _).bind fun _ _ => gives_typeRef.bind fun _ htype =>
      keeps_default.bind fun _ _ => keeps_directives.bind fun _ _ => .pure ⟨hname, htype⟩

theorem gives_argumentDefs : Gives (fun ds => ∀ d ∈ ds, d.Proper) argumentDefs :=
  gives_optionalMany gives_inputDef _ _

theorem gives_fieldDef : Gives FieldDef.Proper fieldDef := by
  unfold fieldDef
  exact keeps_description.bind fun _ _ => gives_name.bind fun _ hname =>
    gives_argumentDefs.bind fun _ harguments => (keeps_expect _).bind fun _ _ =>
      gives_typeRef.bind fun _ htype => keeps_directives.bind fun _ _ =>
        .pure ⟨hname, htype, harguments⟩

theorem gives_enumValueDef : Gives (fun d : EnumValueDef => Named d.name) enumValueDef := by
  unfold enumValueDef
  refine keeps_description.bind fun _ _ => gives_peek.bind fun _ _ => ?_
  split
  case h_4 => exact gives_name.bind fun _ hname => keeps_directives.bind fun _ _ => .pure hname
  all_goals exact gives_fail

theorem gives_interfaces : Gives (fun names => ∀ n ∈ names, Named n) interfaces := by
  unfold interfaces
  refine (keeps_optional _).bind fun _ _ => ?_
  split
  · exact gives_separated gives_name _
  · exact .pure (by simp)

theorem gives_fieldDefs : Gives (fun ds => ∀ d ∈ ds, d.Proper) fieldDefs :=
  gives_optionalMany gives_fieldDef _ _

theorem gives_unionMembers : Gives (fun names => ∀ n ∈ names, Named n) unionMembers := by
  unfold unionMembers
  refine (keeps_optional _).bind fun _ _ => ?_
  split
  · exact gives_separated gives_name _
  · exact .pure (by simp)

theorem gives_typeDef (description : Option String) : Gives TypeDef.Proper (typeDef description) := by
  unfold typeDef
  refine gives_name.bind fun word _ => gives_name.bind fun _ hname => ?_
  split
  · exact keeps_directives.bind fun _ _ => .pure ⟨hname, trivial⟩
  · exact gives_interfaces.bind fun _ hinterfaces => keeps_directives.bind fun _ _ =>
      gives_fieldDefs.bind fun _ hfields => .pure ⟨hname, hinterfaces, hfields⟩
  · exact gives_interfaces.bind fun _ hinterfaces => keeps_directives.bind fun _ _ =>
      gives_fieldDefs.bind fun _ hfields => .pure ⟨hname, hinterfaces, hfields⟩
  · exact keeps_directives.bind fun _ _ => gives_unionMembers.bind fun _ hmembers =>
      .pure ⟨hname, hmembers⟩
  · exact keeps_directives.bind fun _ _ =>
      (gives_optionalMany gives_enumValueDef _ _).bind fun _ hvalues => .pure ⟨hname, hvalues⟩
  · exact keeps_directives.bind fun _ _ =>
      (gives_optionalMany gives_inputDef _ _).bind fun _ hfields => .pure ⟨hname, hfields⟩
  · exact gives_fail

/-! ## Other definitions -/

theorem keeps_operationKind : Keeps operationKind := by
  unfold operationKind
  refine gives_peek.bind fun _ _ => ?_
  split
  · split
    · exact keeps_skip.bind fun _ _ => .pure trivial
    · exact gives_fail
  · exact gives_fail

theorem keeps_operationType : Keeps operationType :=
  keeps_operationKind.bind fun _ _ => (keeps_expect _).bind fun _ _ =>
    gives_name.bind fun _ _ => .pure trivial

theorem keeps_location : Keeps location := by
  unfold location
  refine gives_peek.bind fun _ _ => ?_
  split
  · split
    · exact keeps_skip.bind fun _ _ => .pure trivial
    · exact gives_fail
  · exact gives_fail

theorem keeps_schemaDef : Keeps schemaDef :=
  (keeps_expect _).bind fun _ _ => keeps_directives.bind fun _ _ =>
    (gives_many keeps_operationType _ _).bind fun _ _ => .pure trivial

theorem gives_extension : Gives Definition.Proper extension := by
  unfold extension
  refine (keeps_expect _).bind fun _ _ => gives_peek.bind fun _ _ => ?_
  split
  · refine keeps_skip.bind fun _ _ => keeps_directives.bind fun _ _ =>
      (gives_optionalMany keeps_operationType _ _).bind fun _ _ => ?_
    split
    · exact gives_fail
    · exact .pure trivial
  · refine keeps_skip.bind fun _ _ => (keeps_expect _).bind fun _ _ => gives_name.bind fun _ _ =>
      keeps_directives.bind fun _ _ => ?_
    split
    · exact gives_fail
    · exact .pure trivial
  · split
    · refine (gives_typeDef none).bind fun d hd => ?_
      split
      · exact gives_fail
      · exact .pure hd
    · exact gives_fail
  · exact gives_fail

theorem keeps_directiveDef (description : Option String) : Keeps (directiveDef description) := by
  unfold directiveDef
  exact (keeps_expect _).bind fun _ _ => (keeps_expect _).bind fun _ _ =>
    gives_name.bind fun _ _ => gives_argumentDefs.bind fun _ _ => keeps_directives.bind fun _ _ =>
      (keeps_optional _).bind fun _ _ => (keeps_expect _).bind fun _ _ =>
        (gives_separated keeps_location _).bind fun _ _ => .pure trivial

theorem keeps_fragmentName : Keeps fragmentName := by
  unfold fragmentName
  refine (keeps_sees _).bind fun _ _ => ?_
  split
  · exact gives_fail
  · exact gives_name.bind fun _ _ => .pure trivial

theorem keeps_selecting (fuel : Nat) : ∀ levels, Keeps (selection levels fuel) ∧
    Keeps (selectionSet levels fuel) ∧ Keeps (selections levels fuel) := by
  -- Each of the three readers calls the others with less fuel, so one induction carries them all.
  induction fuel with
  | zero =>
    intro levels
    unfold selection selectionSet selections
    exact ⟨gives_fail, gives_fail, gives_fail⟩
  | succ fuel ih =>
    intro levels
    refine ⟨?_, ?_, ?_⟩
    · rw [selection]
      refine (keeps_optional _).bind fun _ _ => ?_
      split
      · refine (keeps_optional _).bind fun _ _ => ?_
        split
        · exact gives_name.bind fun _ _ => (keeps_usesWithin _ _).bind fun _ _ =>
            (ih levels).2.1.bind fun _ _ => .pure trivial
        · refine gives_peek.bind fun _ _ => ?_
          split
          · exact keeps_fragmentName.bind fun _ _ => (keeps_usesWithin _ _).bind fun _ _ =>
              .pure trivial
          · exact (keeps_usesWithin _ _).bind fun _ _ => (ih levels).2.1.bind fun _ _ => .pure trivial
      · refine gives_name.bind fun _ _ => (keeps_optional _).bind fun _ _ => ?_
        -- The field itself, behind its alias if there is one.
        have hrest : Keeps (do
            let arguments ← arguments false levels
            let directives ← usesWithin false levels
            let selections ← if ← sees (.mark '\x7b') then selectionSet levels fuel else pure []
            return Selection.field arguments directives selections) := by
          refine (keeps_arguments _ _).bind fun _ _ => (keeps_usesWithin _ _).bind fun _ _ =>
            (keeps_sees _).bind fun _ _ => ?_
          split
          · exact (ih levels).2.1.bind fun _ _ => .pure trivial
          · exact .pure trivial
        split
        · exact gives_name.bind fun _ _ => hrest
        · exact hrest
    · rw [selectionSet.eq_def]
      refine (keeps_expect _).bind fun _ _ => ?_
      cases levels with
      | zero => exact gives_throw _
      | succ levels => exact (ih levels).2.2
    · rw [selections]
      refine (keeps_optional _).bind fun _ _ => ?_
      split
      · exact .pure trivial
      · exact (ih levels).1.bind fun _ _ => (ih levels).2.2.bind fun _ _ => .pure trivial

theorem keeps_anySelectionSet : Keeps anySelectionSet :=
  keeps_rounds.bind fun _ _ => (keeps_selecting _ _).2.1

theorem keeps_variableDef : Keeps variableDef := by
  unfold variableDef
  exact keeps_description.bind fun _ _ => (keeps_expect _).bind fun _ _ => gives_name.bind fun _ _ =>
    (keeps_expect _).bind fun _ _ => gives_typeRef.bind fun _ _ => keeps_default.bind fun _ _ =>
      keeps_directives.bind fun _ _ => .pure trivial

theorem gives_operation : Gives Definition.Proper operation := by
  unfold operation
  refine (keeps_sees _).bind fun _ _ => ?_
  split
  · exact keeps_anySelectionSet.bind fun _ _ => .pure trivial
  · refine keeps_operationKind.bind fun _ _ => gives_peek.bind fun _ _ => ?_
    have hrest : ∀ kind, Gives Definition.Proper (do
        let inputs ← optionalMany '(' ')' variableDef
        let directives ← usesWithin false deepest
        return .operation kind inputs directives (← anySelectionSet)) := by
      intro kind
      exact (gives_optionalMany keeps_variableDef _ _).bind fun _ _ =>
        (keeps_usesWithin _ _).bind fun _ _ => keeps_anySelectionSet.bind fun _ _ => .pure trivial
    split
    · exact keeps_skip.bind fun _ _ => hrest _
    · exact hrest _

theorem gives_fragment : Gives Definition.Proper fragment := by
  unfold fragment
  exact (keeps_expect _).bind fun _ _ => keeps_fragmentName.bind fun _ _ =>
    (keeps_expect _).bind fun _ _ => gives_name.bind fun _ _ => (keeps_usesWithin _ _).bind fun _ _ =>
      keeps_anySelectionSet.bind fun _ _ => .pure trivial

/-! ## Documents -/

theorem gives_definition : Gives Definition.Proper definition := by
  unfold definition
  refine (keeps_sees _).bind fun _ _ => ?_
  split
  · exact gives_operation
  · refine keeps_description.bind fun _ _ => gives_peek.bind fun _ _ => ?_
    split
    case h_2 => exact gives_fail
    split
    · exact keeps_schemaDef.bind fun _ _ => .pure trivial
    split
    · exact (keeps_directiveDef _).bind fun _ _ => .pure trivial
    split
    · exact (gives_typeDef _).bind fun _ hd => .pure hd
    split
    · exact gives_fragment
    split
    · exact gives_operation
    split
    · exact gives_extension
    · exact gives_fail

theorem gives_definitions (fuel : Nat) :
    Gives (fun doc => ∀ d ∈ doc, d.Proper) (definitions fuel) := by
  induction fuel with
  | zero => exact gives_fail
  | succ fuel ih =>
    unfold definitions
    refine gives_peek.bind fun _ _ => ?_
    split
    · exact .pure (by simp)
    · exact gives_definition.bind fun _ hfirst => ih.bind fun _ hrest =>
        .pure (List.forall_mem_cons.mpr ⟨hfirst, hrest⟩)

theorem gives_document : Gives (fun doc => ∀ d ∈ doc, d.Proper) document :=
  gives_definition.bind fun _ hfirst => keeps_rounds.bind fun _ _ =>
    (gives_definitions _).bind fun _ hrest => .pure (List.forall_mem_cons.mpr ⟨hfirst, hrest⟩)

end Read

/-- **Every name of a type definition in a document is spelled as names are.** -/
theorem Document.proper_of_read {text : String} {doc : Document} (h : Document.read text = .ok doc) :
    ∀ d ∈ doc, d.Proper := by
  obtain ⟨ts, hts, h⟩ := Outcome.bind_eq_ok.mp h
  obtain ⟨⟨read, rest⟩, hread, h⟩ := Outcome.bind_eq_ok.mp h
  rw [Outcome.pure_eq_ok] at h
  subst h
  exact (Read.gives_document ts read rest (proper_tokens hts) hread).1

end SchemaTypings.Sdl
