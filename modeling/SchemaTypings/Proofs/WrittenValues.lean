import Mathlib.Data.Nat.Basic
import SchemaTypings.Folder.Limit
import SchemaTypings.Proofs.OptionKeys
import SchemaTypings.Proofs.Outcome
import SchemaTypings.Proofs.TextLimits

/-!
# Values that are read back

A value without binary numbers, whose objects have each key once, is what its JSON text is read as,
if there is room to read it as deep as it is. The text of a value is read up to its end, whatever
comes after it, as long as this does not go on with a number.
-/

open SchemaTypings.Outcome

namespace SchemaTypings

/-- A value that a JSON text says exactly. -/
inductive Value.Storable : Value → Prop where
  | null : Storable .null
  | bool (b : Bool) : Storable (.bool b)
  | int (n : Int) : Storable (.int n)
  | text (s : String) : Storable (.text s)
  | list {items : List Value} (h : ∀ v ∈ items, Storable v) : Storable (.list items)
  | object {fields : List (String × Value)} (distinct : (Table.keys fields).Nodup)
    (h : ∀ p ∈ fields, Storable p.2) : Storable (.object fields)

namespace Json

/-! ## Strings -/

theorem hexValue?_hexDigit {n : Nat} (h : n < 16) : hexValue? (hexDigit n) = some n := by
  have hall : ∀ n < 16, hexValue? (hexDigit n) = some n := by decide
  exact hall n h

theorem readHex4?_low {n : Nat} (h : n < 0x20) (rest : List Char) :
    readHex4? ('0' :: '0' :: hexDigit (n / 16) :: hexDigit (n % 16) :: rest) = some (n, rest) := by
  have hzero : hexValue? '0' = some 0 := rfl
  have hhigh := hexValue?_hexDigit (Nat.div_lt_of_lt_mul (by omega) : n / 16 < 16)
  have hlow := hexValue?_hexDigit (Nat.mod_lt n (by decide) : n % 16 < 16)
  have hn : n / 16 * 16 + n % 16 = n := by omega
  simp [readHex4?, hzero, hhigh, hlow, hn]

theorem readUnicode_low {c : Char} (h : c.toNat < 0x20) (rest : List Char) :
    readUnicode ('0' :: '0' :: hexDigit (c.toNat / 16) :: hexDigit (c.toNat % 16) :: rest) =
      .ok (c, rest) := by
  have hsurrogate : isHighSurrogate c.toNat = false := by
    simp [isHighSurrogate]
    omega
  have hvalid : c.toNat.isValidChar := c.valid
  have hchar : charOf c.toNat = c := by
    rw [charOf, if_pos hvalid, Char.ofNat_toNat]
  rw [readUnicode, readHex4?_low h]
  simp [hsurrogate, hchar]

theorem readString_escapeChar (c : Char) (read : List Char) (fuel : Nat) (rest : List Char) :
    readString read (fuel + 1) (escapeChar c ++ rest) = readString (c :: read) fuel rest := by
  unfold escapeChar
  split_ifs with hquote hslash hline hreturn htab hfeed hback hcontrol
  · subst hquote; rfl
  · subst hslash; rfl
  · subst hline; rfl
  · subst hreturn; rfl
  · subst htab; rfl
  · subst hfeed; rfl
  · subst hback; rfl
  · simp only [List.cons_append, List.nil_append]
    rw [readString, readUnicode_low hcontrol]
  · rw [List.singleton_append, readString]
    · exact if_neg hcontrol
    · exact hquote
    · exact fun _ h => absurd h hslash
    · exact fun _ _ h => absurd h hslash

theorem length_le_escaped (cs : List Char) : cs.length ≤ (cs.flatMap escapeChar).length := by
  induction cs with
  | nil => exact Nat.zero_le _
  | cons c cs ih =>
    have hc : 0 < (escapeChar c).length := by
      unfold escapeChar
      split_ifs <;> simp
    rw [List.flatMap_cons, List.length_append, List.length_cons]
    omega

theorem readString_escaped {cs : List Char} {fuel : Nat} (hfuel : cs.length < fuel)
    (read rest : List Char) :
    readString read fuel (cs.flatMap escapeChar ++ '"' :: rest) = .ok (read.reverse ++ cs, rest) := by
  induction cs generalizing read fuel with
  | nil =>
    cases fuel with
    | zero => cases hfuel
    | succ fuel => simp [readString]
  | cons c cs ih =>
    cases fuel with
    | zero => cases hfuel
    | succ fuel =>
      rw [List.flatMap_cons, List.append_assoc, readString_escapeChar,
        ih (Nat.lt_of_succ_lt_succ hfuel), List.reverse_cons, List.append_assoc,
        List.singleton_append]

theorem writeString_append (cs rest : List Char) :
    writeString cs ++ rest = '"' :: (cs.flatMap escapeChar ++ '"' :: rest) := by
  rw [writeString, List.cons_append, List.append_assoc, List.singleton_append]

theorem readString_written {cs : List Char} {fuel : Nat} (hfuel : (writeString cs).length ≤ fuel)
    (rest : List Char) :
    readString [] fuel (cs.flatMap escapeChar ++ '"' :: rest) = .ok (cs, rest) := by
  have hlength := length_le_escaped cs
  rw [writeString, List.length_cons, List.length_append, List.length_singleton] at hfuel
  rw [readString_escaped (by omega), List.reverse_nil, List.nil_append]

/-! ## Numbers -/

/-- What may follow a value: nothing that goes on with a number. -/
def EndsValue (rest : List Char) : Prop := ∀ c, rest.head? = some c → c = ',' ∨ c = '\n'

theorem endsValue_nil : EndsValue [] := nofun

theorem endsValue_comma (rest : List Char) : EndsValue (',' :: rest) := by
  intro c h
  exact Or.inl (Option.some.inj h).symm

theorem endsValue_newline (depth : Nat) (rest : List Char) : EndsValue (newline depth ++ rest) := by
  intro c h
  exact Or.inr (Option.some.inj h).symm

theorem isDigit_of_mem {n : Nat} {c : Char} (h : c ∈ Nat.toDigits 10 n) : isDigit c = true := by
  have hc := Nat.isDigit_of_mem_toDigits (by decide) (by decide) h
  simpa [Char.isDigit, isDigit, Char.le_def] using hc

theorem head_toDigits {n : Nat} (hn : 0 < n) {c : Char} (h : (Nat.toDigits 10 n).head? = some c) :
    c ≠ '0' := by
  induction n using Nat.strongRecOn with
  | ind n ih =>
    by_cases hsmall : n < 10
    · have hall : ∀ n < 10, 0 < n → Nat.digitChar n ≠ '0' := by decide
      rw [Nat.toDigits_of_lt_base hsmall] at h
      exact Option.some.inj h ▸ hall n hsmall hn
    · have hlarge : 10 ≤ n := Nat.le_of_not_lt hsmall
      have hfront := ih (n / 10) (Nat.div_lt_self hn (by decide)) (Nat.div_pos hlarge (by decide))
      rw [Nat.toDigits_of_base_le (by decide) hlarge] at h
      cases hdigits : Nat.toDigits 10 (n / 10) with
      | nil => exact absurd hdigits Nat.toDigits_ne_nil
      | cons d ds =>
        rw [hdigits] at h hfront
        exact hfront h

theorem digitsValue_toDigits (n : Nat) : digitsValue (Nat.toDigits 10 n) = n := by
  have hvalue : ∀ cs, digitsValue cs = Nat.ofDigitChars 10 cs 0 := by
    intro cs
    simp only [digitsValue, Nat.ofDigitChars, Nat.mul_comm]
    rfl
  rw [hvalue, Nat.ofDigitChars_toDigits (by decide) (by decide)]

theorem readWhole?_toDigits (n : Nat) {rest : List Char} (hrest : EndsValue rest) :
    readWhole? (Nat.toDigits 10 n ++ rest) = some (Nat.toDigits 10 n, rest) := by
  rcases Nat.eq_zero_or_pos n with rfl | hn
  · rfl
  · have hstop : rest.takeWhile isDigit = [] ∧ rest.dropWhile isDigit = rest := by
      cases rest with
      | nil => exact ⟨rfl, rfl⟩
      | cons c rest => rcases hrest c rfl with rfl | rfl <;> exact ⟨rfl, rfl⟩
    cases hdigits : Nat.toDigits 10 n with
    | nil => exact absurd hdigits Nat.toDigits_ne_nil
    | cons d ds =>
      have hd : isDigit d = true := isDigit_of_mem (hdigits ▸ List.mem_cons_self)
      have hds : ∀ c ∈ ds, isDigit c = true := fun c hc =>
        isDigit_of_mem (hdigits ▸ List.mem_cons_of_mem d hc)
      have hzero : d ≠ '0' := head_toDigits hn (by rw [hdigits]; rfl)
      rw [List.cons_append, readWhole?]
      · rw [if_pos hd, List.takeWhile_append_of_pos hds, List.dropWhile_append_of_pos hds,
          hstop.1, hstop.2, List.append_nil]
      · exact hzero

theorem readNumber_toDigits (negative : Bool) {n : Nat}
    (hlength : (Nat.toDigits 10 n).length ≤ Value.maxDigits) {rest : List Char}
    (hrest : EndsValue rest) :
    readNumber negative (Nat.toDigits 10 n ++ rest) =
      .ok (.int (if negative then -(n : Int) else n), rest) := by
  have hfraction : readFraction? rest = none := by
    cases rest with
    | nil => rfl
    | cons c rest => rcases hrest c rfl with rfl | rfl <;> rfl
  have hpower : readPower? rest = none := by
    cases rest with
    | nil => rfl
    | cons c rest => rcases hrest c rfl with rfl | rfl <;> rfl
  unfold readNumber
  simp [readWhole?_toDigits n hrest, hfraction, hpower, Nat.not_lt.mpr hlength,
    digitsValue_toDigits]

/-! ## Values -/

/-- What reading comes to if it goes so deep. -/
def reading {α : Type} (depth levels : Nat) (a : α) : Except Fault α :=
  if depth ≤ levels then .ok a else .error .tooManyLevels

/-- The text of a value is read as the value, up to its end, where there are levels enough. -/
def ReadsBack (v : Value) : Prop :=
  ∀ (levels : Nat) {fuel depth : Nat} {rest : List Char}, v.limit? none = none →
    2 * (write depth v).length ≤ fuel → EndsValue rest →
      readValue levels fuel (write depth v ++ rest) = reading v.depth levels (v, rest)

section

variable {α β : Type} {d levels : Nat}

theorem reading_of_le (h : d ≤ levels) (a : α) : reading d levels a = .ok a := if_pos h

theorem reading_of_lt (h : levels < d) (a : α) :
    reading d levels a = .error .tooManyLevels := if_neg (Nat.not_le.mpr h)

theorem reading_succ (a : α) : reading (d + 1) (levels + 1) a = reading d levels a := by
  simp only [reading, Nat.add_le_add_iff_right]

theorem reading_map (f : α → β) (a : α) :
    (reading d levels a).map f = reading d levels (f a) := by
  unfold reading
  split <;> rfl

theorem reading_bind_pure (f : α → β) (a : α) :
    (reading d levels a >>= fun a => pure (f a)) = reading d levels (f a) := reading_map f a

theorem reading_bind {e : Nat} {a : α} {b : β} {f : α → Except Fault β}
    (h : f a = reading e levels b) :
    reading d levels a >>= f = reading (max d e) levels b := by
  rcases Nat.lt_or_ge levels d with hd | hd
  · rw [reading_of_lt hd, reading_of_lt (Nat.lt_of_lt_of_le hd (Nat.le_max_left ..))]
    rfl
  · rw [reading_of_le hd, ok_bind, h]
    simp only [reading, Nat.max_le, hd, true_and]

end

theorem ne_of_isDigit {c d : Char} (hc : isDigit c = true) (hd : isDigit d = false) : c ≠ d := by
  rintro rfl
  rw [hc] at hd
  cases hd

theorem readValue_digit {c : Char} (hc : isDigit c = true) (levels fuel : Nat)
    (rest : List Char) :
    readValue levels (fuel + 1) (c :: rest) = readNumber false (c :: rest) := by
  rw [readValue]
  · rw [if_neg (ne_of_isDigit hc rfl), if_neg (ne_of_isDigit hc rfl),
      if_neg (ne_of_isDigit hc rfl), if_neg (ne_of_isDigit hc rfl), if_neg (ne_of_isDigit hc rfl)]
  · exact ne_of_isDigit hc rfl
  · exact ne_of_isDigit hc rfl
  · exact ne_of_isDigit hc rfl
  · exact fun _ h => absurd h (ne_of_isDigit hc rfl)
  · exact ne_of_isDigit hc rfl

theorem readValue_negative {c : Char} (hc : isDigit c = true) (levels fuel : Nat)
    (rest : List Char) :
    readValue levels (fuel + 1) ('-' :: c :: rest) = readNumber true (c :: rest) := by
  rw [readValue]
  intro more h
  exact ne_of_isDigit hc rfl (List.cons.inj h).1

theorem readsBack_int (n : Int) : ReadsBack (.int n) := by
  intro levels fuel depth rest hlimit hfuel hrest
  have hlength : (Nat.toDigits 10 n.natAbs).length ≤ Value.maxDigits := by
    unfold Value.limit? at hlimit
    split at hlimit
    · cases hlimit
    · next h => exact Nat.le_of_not_lt h
  have hread := fun negative => readNumber_toDigits negative hlength hrest
  have hmem : ∀ c ∈ Nat.toDigits 10 n.natAbs, isDigit c = true := fun c hc => isDigit_of_mem hc
  rw [write, writeInt, Value.depth, reading_of_le (Nat.zero_le _)]
  cases hdigits : Nat.toDigits 10 n.natAbs with
  | nil => exact absurd hdigits Nat.toDigits_ne_nil
  | cons d ds =>
    rw [hdigits] at hread hmem
    have hd : isDigit d = true := hmem d List.mem_cons_self
    cases fuel with
    | zero => simp [write, writeInt, hdigits] at hfuel
    | succ fuel =>
      split
      · next hn =>
        rw [List.singleton_append, List.cons_append, List.cons_append, readValue_negative hd,
          ← List.cons_append, hread, if_pos rfl, Int.ofNat_natAbs_of_nonpos (Int.le_of_lt hn),
          Int.neg_neg]
      · next hn =>
        rw [List.nil_append, List.cons_append, readValue_digit hd, ← List.cons_append, hread,
          if_neg Bool.false_ne_true, Int.natAbs_of_nonneg (Int.not_lt.mp hn)]

theorem readsBack_word (v : Value) (hv : v = .null ∨ ∃ b, v = .bool b) : ReadsBack v := by
  intro levels fuel depth rest _ hfuel _
  have hdepth : v.depth = 0 := by rcases hv with rfl | ⟨_, rfl⟩ <;> rfl
  rw [hdepth, reading_of_le (Nat.zero_le _)]
  cases fuel with
  | zero => rcases hv with rfl | ⟨_ | _, rfl⟩ <;> simp [write] at hfuel
  | succ fuel => rcases hv with rfl | ⟨_ | _, rfl⟩ <;> rfl

theorem readsBack_text (s : String) : ReadsBack (.text s) := by
  intro levels fuel depth rest _ hfuel _
  rw [write] at hfuel ⊢
  cases fuel with
  | zero => simp [writeString] at hfuel
  | succ fuel =>
    have hread := readString_written (le_trans (Nat.le_mul_of_pos_left _ Nat.two_pos) hfuel) rest
    rw [writeString_append, readValue, hread, Value.depth, reading_of_le (Nat.zero_le _)]
    show Except.ok (Value.text (String.ofList s.toList), rest) = .ok (.text s, rest)
    rw [String.ofList_toList]

/-! ## Lists and objects -/

theorem skipSpace_newline (depth : Nat) (cs : List Char) :
    skipSpace (newline depth ++ cs) = skipSpace cs := by
  have hspace : ∀ c ∈ newline depth, isSpace c = true := by
    intro c hc
    rcases List.mem_cons.mp hc with rfl | hc
    · rfl
    · rw [List.eq_of_mem_replicate hc]
      rfl
  exact List.dropWhile_append_of_pos hspace

theorem skipSpace_blank (cs : List Char) : skipSpace (' ' :: cs) = skipSpace cs := rfl

theorem skipSpace_cons {c : Char} (hc : isSpace c = false) (cs : List Char) :
    skipSpace (c :: cs) = c :: cs := by
  rw [skipSpace, List.dropWhile_cons, if_neg (by simp [hc])]

theorem skipSpace_writeString (cs rest : List Char) :
    skipSpace (writeString cs ++ rest) = writeString cs ++ rest := by
  rw [writeString_append, skipSpace_cons rfl]

/-- A written value begins with a character that is no blank and closes no list. -/
theorem write_head {v : Value} (hv : v.Storable) (depth : Nat) :
    ∃ c cs, write depth v = c :: cs ∧ isSpace c = false ∧ c ≠ ']' := by
  cases hv with
  | null => exact ⟨'n', _, rfl, rfl, by decide⟩
  | bool b => cases b <;> exact ⟨_, _, rfl, rfl, by decide⟩
  | int n =>
    rw [write, writeInt]
    split
    · exact ⟨'-', _, rfl, rfl, by decide⟩
    · cases hdigits : Nat.toDigits 10 n.natAbs with
      | nil => exact absurd hdigits Nat.toDigits_ne_nil
      | cons d ds =>
        have hd : isDigit d = true := isDigit_of_mem (hdigits ▸ List.mem_cons_self)
        have hspace : isSpace d = false := by
          have h : d ≠ ' ' ∧ d ≠ '\t' ∧ d ≠ '\n' ∧ d ≠ '\r' :=
            ⟨ne_of_isDigit hd rfl, ne_of_isDigit hd rfl, ne_of_isDigit hd rfl,
              ne_of_isDigit hd rfl⟩
          simp [isSpace, h]
        exact ⟨d, ds, rfl, hspace, ne_of_isDigit hd rfl⟩
  | text s => exact ⟨'"', _, by rw [write, writeString], rfl, by decide⟩
  | @list items h =>
    cases items with
    | nil => exact ⟨'[', _, rfl, rfl, by decide⟩
    | cons v rest => exact ⟨'[', _, by rw [write], rfl, by decide⟩
  | @object fields distinct h =>
    cases fields with
    | nil => exact ⟨'\x7b', _, rfl, rfl, by decide⟩
    | cons p rest => exact ⟨'\x7b', _, by rw [write], rfl, by decide⟩

theorem skipSpace_write {v : Value} (hv : v.Storable) (depth : Nat) (rest : List Char) :
    skipSpace (write depth v ++ rest) = write depth v ++ rest := by
  obtain ⟨c, cs, hwrite, hspace, _⟩ := write_head hv depth
  rw [hwrite, List.cons_append, skipSpace_cons hspace]

theorem endsValue_items (depth outer : Nat) (items : List Value) (rest : List Char) :
    EndsValue (writeItems depth items ++ (newline outer ++ rest)) := by
  cases items with
  | nil => exact endsValue_newline _ _
  | cons v items =>
    rw [writeItems, List.cons_append]
    exact endsValue_comma _

theorem endsValue_fields (depth outer : Nat) (fields : List (String × Value))
    (rest : List Char) : EndsValue (writeFields depth fields ++ (newline outer ++ rest)) := by
  cases fields with
  | nil => exact endsValue_newline _ _
  | cons p fields =>
    rw [writeFields, List.cons_append]
    exact endsValue_comma _

/-- Items are read up to the bracket that closes their list, or to the first that is too deep. -/
theorem readItems_write {levels depth outer : Nat} {rest : List Char} {v : Value}
    {items : List Value} (hread : ∀ w ∈ v :: items, w.Storable ∧ ReadsBack w)
    (hlimit : Value.itemsLimit? none (v :: items) = none) {fuel : Nat}
    (hfuel : 2 * (write depth v ++ writeItems depth items).length < fuel) :
    readItems levels fuel
      (write depth v ++ (writeItems depth items ++ (newline outer ++ ']' :: rest))) =
        reading (Value.itemsDepth (v :: items)) levels (v :: items, rest) := by
  induction items generalizing v fuel with
  | nil =>
    cases fuel with
    | zero => cases hfuel
    | succ fuel =>
      have hlimit := (Option.or_eq_none_iff.mp hlimit).1
      rw [List.length_append] at hfuel
      -- Twice the length is fuel for the value and for the list that goes on.
      have hfirst : 2 * (write depth v).length ≤ fuel := by omega
      have hv := (hread v List.mem_cons_self).2 levels hlimit hfirst
        (endsValue_items depth outer [] (']' :: rest))
      rw [readItems, hv, Value.itemsDepth]
      refine reading_bind ?_
      simp only [writeItems, List.nil_append, skipSpace_newline]
      rfl
  | cons w items ih =>
    cases fuel with
    | zero => cases hfuel
    | succ fuel =>
      obtain ⟨hlimit, hlimits⟩ := Option.or_eq_none_iff.mp hlimit
      rw [List.forall_mem_cons] at hread
      simp only [writeItems, List.length_append, List.length_cons] at hfuel
      have hfirst : 2 * (write depth v).length ≤ fuel := by omega
      have hv := hread.1.2 levels hlimit hfirst
        (endsValue_items depth outer (w :: items) (']' :: rest))
      have hitems := @ih w hread.2 hlimits fuel (by rw [List.length_append]; omega)
      have hw := (hread.2 w List.mem_cons_self).1
      rw [readItems, hv, Value.itemsDepth]
      refine reading_bind ?_
      simp only [writeItems, List.cons_append, List.append_assoc]
      simp only [skipSpace_cons (show isSpace ',' = false from rfl), skipSpace_newline,
        skipSpace_write hw, hitems]
      exact reading_bind_pure (fun r => (v :: r.1, r.2)) (w :: items, rest)

/-- Fields are read up to the brace that closes their object, or to the first that is too deep. -/
theorem readFields_write {levels depth outer : Nat} {rest : List Char} {p : String × Value}
    {fields : List (String × Value)}
    (hread : ∀ q ∈ p :: fields, q.2.Storable ∧ ReadsBack q.2)
    (hlimit : Value.fieldsLimit? none (p :: fields) = none) {fuel : Nat}
    (hfuel : 2 * (writeString p.1.toList ++ [':', ' '] ++ write depth p.2 ++
      writeFields depth fields).length < fuel) :
    readFields levels fuel
      (writeString p.1.toList ++ (':' :: ' ' :: (write depth p.2 ++
        (writeFields depth fields ++ (newline outer ++ '\x7d' :: rest))))) =
        reading (Value.fieldsDepth (p :: fields)) levels (p :: fields, rest) := by
  induction fields generalizing p fuel with
  | nil =>
    cases fuel with
    | zero => cases hfuel
    | succ fuel =>
      have hlimit := (Option.or_eq_none_iff.mp hlimit).1
      simp only [List.length_append, List.length_cons, List.length_nil] at hfuel
      have hkey : (writeString p.1.toList).length ≤ fuel + 1 := by omega
      have hfirst : 2 * (write depth p.2).length ≤ fuel := by omega
      obtain ⟨hstorable, hback⟩ := hread p List.mem_cons_self
      have hv := hback levels hlimit hfirst (endsValue_fields depth outer [] ('\x7d' :: rest))
      rw [writeString_append, readFields, readString_written hkey, ok_bind, Value.fieldsDepth]
      simp only [skipSpace_cons (show isSpace ':' = false from rfl), skipSpace_blank,
        skipSpace_write hstorable, hv]
      refine reading_bind ?_
      simp only [writeFields, List.nil_append, skipSpace_newline, String.ofList_toList]
      rfl
  | cons q fields ih =>
    cases fuel with
    | zero => cases hfuel
    | succ fuel =>
      obtain ⟨hlimit, hlimits⟩ := Option.or_eq_none_iff.mp hlimit
      rw [List.forall_mem_cons] at hread
      simp only [writeFields, List.length_append, List.length_cons, List.length_nil] at hfuel
      have hkey : (writeString p.1.toList).length ≤ fuel + 1 := by omega
      have hfirst : 2 * (write depth p.2).length ≤ fuel := by omega
      have hv := hread.1.2 levels hlimit hfirst
        (endsValue_fields depth outer (q :: fields) ('\x7d' :: rest))
      have hfields := @ih q hread.2 hlimits fuel (by
        simp only [List.length_append, List.length_cons, List.length_nil]
        omega)
      rw [writeString_append, readFields, readString_written hkey, ok_bind, Value.fieldsDepth]
      simp only [skipSpace_cons (show isSpace ':' = false from rfl), skipSpace_blank,
        skipSpace_write hread.1.1, hv]
      refine reading_bind ?_
      simp only [writeFields, List.cons_append, List.append_assoc, List.nil_append]
      simp only [skipSpace_cons (show isSpace ',' = false from rfl), skipSpace_newline]
      rw [skipSpace_writeString, hfields, String.ofList_toList]
      exact reading_bind_pure (fun r => (p :: r.1, r.2)) (q :: fields, rest)

theorem readValue_list {levels fuel : Nat} {cs tail : List Char} {c : Char}
    (hskip : skipSpace cs = c :: tail) (hc : c ≠ ']') :
    readValue (levels + 1) (fuel + 1) ('[' :: cs) =
      (readItems levels fuel (c :: tail)).map fun r => (.list r.1, r.2) := by
  rw [readValue.eq_def]
  simp only [hskip]
  split
  · next h => cases h
  · next h => exact absurd (List.cons.inj h).1 hc
  · next heq _ =>
    cases heq
    cases readItems levels fuel (c :: tail) <;> rfl

theorem readValue_object {levels fuel : Nat} {cs tail : List Char} {c : Char}
    (hskip : skipSpace cs = c :: tail) (hc : c ≠ '\x7d') :
    readValue (levels + 1) (fuel + 1) ('\x7b' :: cs) =
      (readFields levels fuel (c :: tail)).map fun r => (.object (Table.ofPairs r.1), r.2) := by
  rw [readValue.eq_def]
  simp only [hskip]
  split
  · next h => cases h
  · next h => exact absurd (List.cons.inj h).1 hc
  · next heq _ =>
    cases heq
    cases readFields levels fuel (c :: tail) <;> rfl

theorem readsBack_list {items : List Value} (h : ∀ v ∈ items, v.Storable ∧ ReadsBack v) :
    ReadsBack (.list items) := by
  intro levels fuel depth rest hlimit hfuel _
  cases fuel with
  | zero => cases items <;> simp [write] at hfuel
  | succ fuel =>
    -- The list itself is one level, also when it is empty.
    cases levels with
    | zero =>
      rw [Value.depth, reading_of_lt (Nat.succ_pos _)]
      cases items <;> rfl
    | succ levels =>
      rw [Value.depth, reading_succ]
      cases items with
      | nil => rfl
      | cons v items =>
        simp only [write, List.length_cons, List.length_append, List.length_nil] at hfuel
        have hitems := @readItems_write levels (depth + 1) depth rest v items h hlimit fuel (by
          rw [List.length_append]
          omega)
        obtain ⟨c, cs, hwrite, hspace, hbracket⟩ :=
          write_head (h v List.mem_cons_self).1 (depth + 1)
        rw [hwrite, List.cons_append] at hitems
        rw [write, hwrite]
        simp only [List.cons_append, List.append_assoc, List.nil_append]
        rw [readValue_list ((skipSpace_newline ..).trans (skipSpace_cons hspace _)) hbracket,
          hitems, reading_map]

theorem readsBack_object {fields : List (String × Value)} (distinct : (Table.keys fields).Nodup)
    (h : ∀ p ∈ fields, p.2.Storable ∧ ReadsBack p.2) : ReadsBack (.object fields) := by
  intro levels fuel depth rest hlimit hfuel _
  cases fuel with
  | zero => cases fields <;> simp [write] at hfuel
  | succ fuel =>
    cases levels with
    | zero =>
      rw [Value.depth, reading_of_lt (Nat.succ_pos _)]
      cases fields <;> rfl
    | succ levels =>
      rw [Value.depth, reading_succ]
      cases fields with
      | nil => rfl
      | cons p fields =>
        simp only [write, List.length_cons, List.length_append, List.length_nil] at hfuel
        have hfields := @readFields_write levels (depth + 1) depth rest p fields h hlimit fuel (by
          simp only [List.length_cons, List.length_append, List.length_nil]
          omega)
        rw [writeString_append] at hfields
        rw [write]
        simp only [List.cons_append, List.append_assoc, List.nil_append, writeString_append]
        rw [readValue_object ((skipSpace_newline ..).trans (skipSpace_cons rfl _)) (by decide),
          hfields, reading_map, Table.ofPairs_of_nodup distinct]

theorem readsBack_of_storable {v : Value} (h : v.Storable) : ReadsBack v := by
  induction h with
  | null => exact readsBack_word _ (Or.inl rfl)
  | bool b => exact readsBack_word _ (Or.inr ⟨b, rfl⟩)
  | int n => exact readsBack_int n
  | text s => exact readsBack_text s
  | list h ih => exact readsBack_list fun v hv => ⟨h v hv, ih v hv⟩
  | object distinct h ih => exact readsBack_object distinct fun p hp => ⟨h p hp, ih p hp⟩

theorem dump_eq_ok {v : Value} {text : String} {room : Room} :
    dump v room = .ok text ↔ v.limit? (some room.written) = none ∧ text = render v := by
  unfold dump Value.checkText
  cases v.limit? (some room.written) with
  | none => simp [Except.mapError, eq_comm]
  | some l => exact ⟨nofun, nofun⟩

/-- A value that is written is read back if it can be read as deep as it is. -/
theorem read_of_dump {v : Value} (h : v.Storable) {text : String} {room : Room}
    (hdump : dump v room = .ok text) : read text room = reading v.depth room.read v := by
  obtain ⟨hlimit, rfl⟩ := dump_eq_ok.mp hdump
  have hback := @readsBack_of_storable v h room.read (2 * (write 0 v).length + 2) 0 []
    (v.limit?_ample hlimit) (Nat.le_add_right _ _) endsValue_nil
  have hskip := skipSpace_write h 0 []
  rw [List.append_nil] at hback hskip
  rw [read, render, String.toList_ofList, hskip]
  simp only [hback]
  unfold reading
  split <;> rfl

end Json

end SchemaTypings
