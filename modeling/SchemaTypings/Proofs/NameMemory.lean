import SchemaTypings.Code.NameTable

/-!
# What a name table remembers

A name table keeps each answer under all that it was asked with, and so does the sanitizer that it
asks in turn. So both answer as if nothing was asked before: a table as the settings do, a sanitizer
with the plain conversion.
-/

namespace SchemaTypings

/-! ## Memories -/

namespace Table

variable {κ α : Type} [DecidableEq κ] {f : κ → α} {t : Table κ α}

/-- A table that holds nothing but values of a function. -/
def Of (f : κ → α) (t : Table κ α) : Prop := ∀ key known, get? t key = some known → known = f key

theorem of_nil : Of f [] := nofun

theorem Of.put (h : Of f t) (key : κ) : Of f (put t key (f key)) := by
  intro key' known hget
  rw [get?_put] at hget
  split at hget
  · next heq => rw [← Option.some.inj hget, heq]
  · exact h key' known hget

end Table

/-- What every single request answers while an invariant holds, a run of requests answers too. -/
theorem run_mapM {σ α β : Type} {inv : σ → Prop} {ask : α → StateM σ β} {answer : α → β}
    (h : ∀ a t, inv t → ((ask a).run t).1 = answer a ∧ inv ((ask a).run t).2)
    (requests : List α) {t : σ} (ht : inv t) :
    ((requests.mapM ask).run t).1 = requests.map answer ∧ inv ((requests.mapM ask).run t).2 := by
  induction requests generalizing t with
  | nil => exact ⟨rfl, ht⟩
  | cons a rest ih =>
    obtain ⟨hanswer, hnext⟩ := h a t ht
    obtain ⟨hanswers, hlast⟩ := ih hnext
    have hrun : ((a :: rest).mapM ask).run t =
        (((ask a).run t).1 :: ((rest.mapM ask).run ((ask a).run t).2).1,
          ((rest.mapM ask).run ((ask a).run t).2).2) := by
      rw [List.mapM_cons]
      rfl
    rw [hrun, List.map_cons, hanswer, hanswers]
    exact ⟨rfl, hlast⟩

theorem Value.Key.truthy_ofBool (b : Bool) : (ofBool b).truthy = b := by
  cases b <;> rfl

/-! ## A sanitizer -/

namespace NameSanitizer

/-- A conversion without a memory. -/
def convert (key : String × NameStyle × Value.Key) : String :=
  key.2.1.applyParts key.1 key.2.2.truthy

theorem sanitize_of {z : NameSanitizer} (h : Table.Of convert z.memory) (name : String)
    (style : Option NameStyle) (drop : Value.Key) :
    ∃ memory, Table.Of convert memory ∧ z.sanitize name style drop =
      (convert (name, style.getD z.defaultStyle, drop), { z with memory }) := by
  unfold sanitize
  simp only
  split
  · next known hget => exact ⟨z.memory, h, by rw [h _ _ hget]⟩
  · exact ⟨_, h.put _, rfl⟩

inductive Call where
  | sanitize (name : String) (style : Option NameStyle) (dropUnderscores : Value.Key)
  | reset

/-- A conversion gives a name, forgetting gives nothing. -/
def Call.ask : Call → StateM NameSanitizer (Option String)
  | sanitize name style drop => do
    let (converted, next) := (← get).sanitize name style drop
    set next
    return some converted
  | reset => do
    modify NameSanitizer.reset
    return none

/-- What a call gives without a memory, where `standard` is the default style. -/
def Call.answer (standard : NameStyle) : Call → Option String
  | sanitize name style drop => some ((style.getD standard).applyParts name drop.truthy)
  | reset => none

/-- What is remembered are conversions, and the default style stays. -/
def Knows (standard : NameStyle) (z : NameSanitizer) : Prop :=
  z.defaultStyle = standard ∧ Table.Of convert z.memory

theorem knows_fresh (standard : NameStyle) : Knows standard { defaultStyle := standard } :=
  ⟨rfl, Table.of_nil⟩

theorem answers_ask {standard : NameStyle} (call : Call) (z : NameSanitizer)
    (hz : z.Knows standard) :
    (call.ask.run z).1 = call.answer standard ∧ (call.ask.run z).2.Knows standard := by
  obtain ⟨rfl, hmemory⟩ := hz
  cases call with
  | sanitize name style drop =>
    obtain ⟨memory, hof, hsanitize⟩ := sanitize_of hmemory name style drop
    have hrun : (Call.sanitize name style drop).ask.run z =
        (some (z.sanitize name style drop).1, (z.sanitize name style drop).2) := rfl
    rw [hrun, hsanitize]
    exact ⟨rfl, rfl, hof⟩
  | reset => exact ⟨rfl, rfl, Table.of_nil⟩

end NameSanitizer

/-! ## A name table -/

namespace Code.NameTable

open Settings (NameForm)

/-- What is remembered are answers of the settings. -/
structure Knows (s : Settings) (t : NameTable) : Prop where
  settings : t.settings = s
  conversions : Table.Of NameSanitizer.convert t.sanitizer.memory
  typeNames : Table.Of s.typeName t.typeNames
  enumNames : Table.Of s.enumName t.enumNames
  enumKeys : Table.Of (fun key => s.enumKey key.2) t.enumKeys
  argsNames : Table.Of (fun key => s.argsName key.1 key.2) t.argsNames

variable {s : Settings} {α β : Type}

theorem knows_ofSettings : (ofSettings s).Knows s :=
  ⟨rfl, Table.of_nil, Table.of_nil, Table.of_nil, Table.of_nil, Table.of_nil⟩

/-- A table gives an answer whatever it knows, and what it knows afterwards is right too. -/
def Answers (s : Settings) (ask : StateM NameTable α) (answer : α) : Prop :=
  ∀ t : NameTable, t.Knows s → (ask.run t).1 = answer ∧ (ask.run t).2.Knows s

theorem Answers.pure (a : α) : Answers s (Pure.pure a) a := fun _ ht => ⟨rfl, ht⟩

theorem Answers.bind {first : StateM NameTable α} {next : α → StateM NameTable β} {a : α} {b : β}
    (hfirst : Answers s first a) (hnext : Answers s (next a) b) : Answers s (first >>= next) b := by
  intro t ht
  obtain ⟨rfl, ht⟩ := hfirst t ht
  exact hnext _ ht

theorem answers_get (next : Settings → StateM NameTable α) {a : α} (h : Answers s (next s) a) :
    Answers s (get >>= fun t => next t.settings) a := by
  intro t ht
  obtain rfl := ht.settings
  exact h t ht

theorem answers_convert (name : String) (f : NameForm) :
    Answers s (convert name f) (s.convertName name f) := by
  rintro t ⟨rfl, hconversions, htypes, henums, hkeys, hargs⟩
  let style := (t.settings.effective f).1
  let drop := Value.Key.ofBool (t.settings.effective f).2
  obtain ⟨memory, hmemory, hsanitize⟩ :=
    NameSanitizer.sanitize_of hconversions name (some style) drop
  have hrun : (convert name f).run t =
      (t.settings.decorate f (t.sanitizer.sanitize name (some style) drop).1,
        { t with sanitizer := (t.sanitizer.sanitize name (some style) drop).2 }) := rfl
  rw [hrun, hsanitize]
  refine ⟨?_, rfl, hmemory, htypes, henums, hkeys, hargs⟩
  rw [NameSanitizer.convert, Value.Key.truthy_ofBool]
  rfl

/-- Looks an answer up, or makes and notes it. -/
def recalled (look : NameTable → Option String) (make : StateM NameTable String)
    (note : NameTable → String → NameTable) : StateM NameTable String := do
  match look (← get) with
  | some known => return known
  | none =>
    let made ← make
    modify fun t => note t made
    return made

theorem answers_recalled {look : NameTable → Option String} {make : StateM NameTable String}
    {note : NameTable → String → NameTable} {answer : String}
    (hlook : ∀ t : NameTable, t.Knows s → ∀ known, look t = some known → known = answer)
    (hmake : Answers s make answer)
    (hnote : ∀ t : NameTable, t.Knows s → (note t answer).Knows s) :
    Answers s (recalled look make note) answer := by
  intro t ht
  have hrun : (recalled look make note).run t = match look t with
      | some known => (known, t)
      | none => ((make.run t).1, note (make.run t).2 (make.run t).1) := by
    have hget : (recalled look make note).run t = ((match look t with
      | some known => Pure.pure known
      | none => do
        let made ← make
        modify fun t => note t made
        return made) : StateM NameTable String).run t := rfl
    rw [hget]
    cases look t <;> rfl
  rw [hrun]
  cases hget : look t with
  | some known => exact ⟨hlook t ht known hget, ht⟩
  | none =>
    obtain ⟨hmade, hknows⟩ := hmake t ht
    simp only [hmade, true_and]
    exact hnote _ hknows

theorem answers_typeName (name : String) : Answers s (typeName name) (s.typeName name) := by
  have heq : typeName name = recalled (fun t => Table.get? t.typeNames name) (convert name)
      fun t made => { t with typeNames := Table.put t.typeNames name made } := rfl
  rw [heq]
  exact answers_recalled (fun _ h => h.typeNames name) (answers_convert name {})
    fun _ h => { h with typeNames := h.typeNames.put name }

theorem answers_enumName (name : String) : Answers s (enumName name) (s.enumName name) := by
  let make (s : Settings) := convert name { withPrefix := s.enumPrefix }
  have heq : enumName name = recalled (fun t => Table.get? t.enumNames name)
      (get >>= fun t => make t.settings)
      fun t made => { t with enumNames := Table.put t.enumNames name made } := rfl
  rw [heq]
  exact answers_recalled (fun _ h => h.enumNames name) (answers_get make (answers_convert name _))
    fun _ h => { h with enumNames := h.enumNames.put name }

theorem answers_enumKey (enum value : String) :
    Answers s (enumKey enum value) (s.enumKey value) := by
  let make (s : Settings) := convert value s.enumKeyForm >>= fun key => pure (asKey key)
  have heq : enumKey enum value = recalled (fun t => Table.get? t.enumKeys (enum, value))
      (get >>= fun t => make t.settings)
      fun t made => { t with enumKeys := Table.put t.enumKeys (enum, value) made } := rfl
  rw [heq]
  exact answers_recalled (fun _ h => h.enumKeys (enum, value))
    (answers_get make ((answers_convert value _).bind (.pure _)))
    fun _ h => { h with enumKeys := h.enumKeys.put (enum, value) }

theorem answers_argsName (owner field : String) :
    Answers s (argsName owner field) (s.argsName owner field) := by
  let make (part : String) (s : Settings) := convert (s.argsBase owner part)
  have heq : argsName owner field = recalled (fun t => Table.get? t.argsNames (owner, field))
      (convert field Settings.bareForm >>= fun part => get >>= fun t => make part t.settings)
      fun t made => { t with argsNames := Table.put t.argsNames (owner, field) made } := rfl
  rw [heq]
  exact answers_recalled (fun _ h => h.argsNames (owner, field))
    ((answers_convert field _).bind (answers_get (make _) (answers_convert _ {})))
    fun _ h => { h with argsNames := h.argsNames.put (owner, field) }

/-! ## Requests -/

inductive Request where
  | convert (name : String) (f : NameForm)
  | typeName (name : String)
  | enumName (name : String)
  | enumKey (enum value : String)
  | argsName (owner field : String)

def Request.ask : Request → StateM NameTable String
  | convert name f => NameTable.convert name f
  | typeName name => NameTable.typeName name
  | enumName name => NameTable.enumName name
  | enumKey enum value => NameTable.enumKey enum value
  | argsName owner field => NameTable.argsName owner field

/-- What the settings say of a request. -/
def Request.answer (s : Settings) : Request → String
  | convert name f => s.convertName name f
  | typeName name => s.typeName name
  | enumName name => s.enumName name
  | enumKey _ value => s.enumKey value
  | argsName owner field => s.argsName owner field

theorem answers_ask (r : Request) : Answers s r.ask (r.answer s) := by
  cases r with
  | convert name f => exact answers_convert name f
  | typeName name => exact answers_typeName name
  | enumName name => exact answers_enumName name
  | enumKey enum value => exact answers_enumKey enum value
  | argsName owner field => exact answers_argsName owner field

/-- **A table answers every request as if it were the first.** -/
theorem ask_ofSettings (s : Settings) (requests : List Request) :
    ((requests.mapM Request.ask).run (ofSettings s)).1 = requests.map (Request.answer s) :=
  (run_mapM answers_ask requests knows_ofSettings).1

/-- **No answer depends on what was asked before**: each is the one that a table or a sanitizer without
a memory gives, and that is the plain conversion. -/
theorem answers_as_fresh (s : Settings) (requests : List Request) (standard : NameStyle)
    (calls : List NameSanitizer.Call) :
    let table := ofSettings s
    let sanitizer : NameSanitizer := { defaultStyle := standard }
    ((requests.mapM Request.ask).run table).1 = requests.map (fun r => (r.ask.run table).1) ∧
    (∀ r : Request, (r.ask.run table).1 = r.answer s) ∧
    ((calls.mapM NameSanitizer.Call.ask).run sanitizer).1 =
      calls.map (fun call => (call.ask.run sanitizer).1) ∧
    ∀ call : NameSanitizer.Call, (call.ask.run sanitizer).1 = call.answer standard := by
  intro table sanitizer
  have htable : ∀ r : Request, (r.ask.run table).1 = r.answer s :=
    fun r => (answers_ask r table knows_ofSettings).1
  have hsanitizer : ∀ call : NameSanitizer.Call,
      (call.ask.run sanitizer).1 = call.answer standard :=
    fun call => (NameSanitizer.answers_ask call sanitizer (NameSanitizer.knows_fresh standard)).1
  refine ⟨?_, htable, ?_, hsanitizer⟩
  · simp only [htable]
    exact ask_ofSettings s requests
  · simp only [hsanitizer]
    exact (run_mapM NameSanitizer.answers_ask calls (NameSanitizer.knows_fresh standard)).1

end Code.NameTable

end SchemaTypings
