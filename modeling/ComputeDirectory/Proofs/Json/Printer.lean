import ComputeDirectory.Json.Printer
import ComputeDirectory.Json.Reader

/-!
# What is written can be told apart

Main statement: `render_injective`, two values without binary64 numbers that are written alike are
equal. No text inside a string can pass for a quote, a comma or a bracket around it: the string
reader finds the end of what the printer wrote (`stringBody_flatMap_escapeSymbol`), whatever
follows. An integer ends where no digit follows, and what is written after a value never begins with
one. So each value shows where it ends, and arrays and objects are taken apart from the left.

Binary64 numbers are left out because those that are not finite are all written as `null`.
-/

namespace ComputeDirectory.Json

/-! ## Strings -/

/-- The code of a control character has four digits, which read back. -/
theorem code?_hexPadded {n : Nat} (h : n < 0x20) :
    ∃ w x y z, Text.hexPadded 4 n = [w, x, y, z] ∧
      code? (.char w) (.char x) (.char y) (.char z) = some n := by
  have hall : ∀ n < 0x20,
      Text.hexPadded 4 n = ['0', '0', Text.hexDigit (n / 16), Text.hexDigit (n % 16)] ∧
        code? (.char '0') (.char '0') (.char (Text.hexDigit (n / 16)))
          (.char (Text.hexDigit (n % 16))) = some n := by decide
  exact ⟨_, _, _, _, hall n h⟩

/-- What was read of a string does not end with an escaped upper half, which the next escape could
complete. The printer escapes no halves. -/
def StringPart.IsSettled (part : StringPart) : Prop := ∀ code ∈ part.escaped, code < 0x20

theorem StringPart.isSettled_add (part : StringPart) (s : Symbol) : (part.add s).IsSettled := by
  intro code hcode
  cases hcode

theorem StringPart.addCode_of_isSettled {part : StringPart} (h : part.IsSettled) {c : Char}
    (hc : c.toNat < 0x20) : part.addCode c.toNat = ⟨.char c :: part.symbols, some c.toNat⟩ := by
  have hjoined : part.escaped.bind (fun upper => Text.joined? upper c.toNat) = none := by
    cases hescaped : part.escaped with
    | none => rfl
    | some upper =>
      have hupper : ¬ 0xd800 ≤ upper := by
        have := h upper hescaped
        omega
      simp [Text.joined?, hupper]
  have hsymbol : Symbol.ofCode? c.toNat = some (.char c) := by
    rw [Symbol.ofCode?, if_neg (by omega), if_pos (by omega), Char.ofNat_toNat]
  rw [StringPart.addCode, hjoined, hsymbol]
  rfl

/-- An escape of one letter is read as the character that it stands for. -/
theorem stringBody_simpleEscape {e c : Char} (h : simpleEscape? (.char e) = some c) (he : e ≠ 'u')
    (opening : List Symbol) (part : StringPart) (rest : List Symbol) :
    stringBody opening part (.char '\x5c' :: .char e :: rest) =
      stringBody opening (part.add (.char c)) rest := by
  rw [stringBody.eq_5]
  · rw [h]
  · intro w x y z next more hu
    exact absurd (Symbol.char.inj hu) he

/-- A symbol that needs no escape is read as itself. -/
theorem stringBody_plain {s : Symbol} (hquote : s ≠ .char '\x22') (hescape : s ≠ .char '\x5c')
    (hcode : ¬ s.code < 0x20) (opening : List Symbol) (part : StringPart) (rest : List Symbol) :
    stringBody opening part (s :: rest) = stringBody opening (part.add s) rest := by
  rw [stringBody.eq_6, if_neg hcode]
  · exact hquote
  · exact fun h => absurd h hescape
  · exact fun _ _ _ _ _ _ h => absurd h hescape
  · exact fun _ _ h => absurd h hescape

/-- An escaped symbol is read as the symbol, when something follows. -/
theorem stringBody_escapeSymbol (opening : List Symbol) {part : StringPart} (h : part.IsSettled)
    (s next : Symbol) (rest : List Symbol) :
    ∃ part' : StringPart, part'.IsSettled ∧ part'.symbols = s :: part.symbols ∧
      stringBody opening part (escapeSymbol s ++ next :: rest) =
        stringBody opening part' (next :: rest) := by
  cases s with
  | half index =>
    refine ⟨part.add (.half index), part.isSettled_add _, rfl, ?_⟩
    refine stringBody_plain ?_ ?_ ?_ opening part (next :: rest)
    · intro h
      cases h
    · intro h
      cases h
    · simp only [Symbol.code]
      omega
  | char c =>
    have hsimple {e : Char} (he : simpleEscape? (.char e) = some c) (hu : e ≠ 'u') :
        ∃ part' : StringPart, part'.IsSettled ∧ part'.symbols = .char c :: part.symbols ∧
          stringBody opening part (.char '\x5c' :: .char e :: next :: rest) =
            stringBody opening part' (next :: rest) :=
      ⟨part.add (.char c), part.isSettled_add _, rfl,
        stringBody_simpleEscape he hu opening part (next :: rest)⟩
    -- seven characters have an escape of one letter, the other control characters one of a code
    simp only [escapeSymbol, escapeChar]
    split
    · next hc => subst hc; exact hsimple rfl (by decide)
    split
    · next hc => subst hc; exact hsimple rfl (by decide)
    split
    · next hc => subst hc; exact hsimple rfl (by decide)
    split
    · next hc => subst hc; exact hsimple rfl (by decide)
    split
    · next hc => subst hc; exact hsimple rfl (by decide)
    split
    · next hc => subst hc; exact hsimple rfl (by decide)
    split
    · next hc => subst hc; exact hsimple rfl (by decide)
    split
    · next hcontrol =>
      obtain ⟨w, x, y, z, hdigits, hcode⟩ := code?_hexPadded hcontrol
      refine ⟨⟨.char c :: part.symbols, some c.toNat⟩, ?_, rfl, ?_⟩
      · rintro code ⟨⟩
        exact hcontrol
      · rw [hdigits]
        show stringBody opening part (.char '\x5c' :: .char 'u' :: .char w :: .char x :: .char y ::
          .char z :: next :: rest) = _
        rw [stringBody.eq_4, hcode]
        simp only [StringPart.addCode_of_isSettled h hcontrol]
    · next hquote hescape _ _ _ _ _ hcontrol =>
      exact ⟨part.add (.char c), part.isSettled_add _, rfl,
        stringBody_plain (fun h => hquote (Symbol.char.inj h)) (fun h => hescape (Symbol.char.inj h))
          hcontrol opening part (next :: rest)⟩

/-- The reader finds the closing quote of what was written, and reads the symbols before it. -/
theorem stringBody_flatMap_escapeSymbol (opening : List Symbol) (symbols : List Symbol)
    {part : StringPart} (h : part.IsSettled) (rest : List Symbol) :
    stringBody opening part (symbols.flatMap escapeSymbol ++ .char '\x22' :: rest) =
      .ok (⟨part.symbols.reverse ++ symbols⟩, rest) := by
  induction symbols generalizing part with
  | nil => rw [List.flatMap_nil, List.nil_append, stringBody.eq_2, List.append_nil]
  | cons s symbols ih =>
    -- whatever the symbol is, something follows it: at the latest the closing quote
    obtain ⟨next, more, hmore⟩ : ∃ next more,
        symbols.flatMap escapeSymbol ++ .char '\x22' :: rest = next :: more :=
      List.exists_cons_of_ne_nil (by simp)
    obtain ⟨part', hsettled, hsymbols, hread⟩ := stringBody_escapeSymbol opening h s next more
    rw [List.flatMap_cons, List.append_assoc, hmore, hread, ← hmore, ih hsettled, hsymbols,
      List.reverse_cons, List.append_assoc]
    rfl

theorem renderText_append_inj {a b : Text} {x y : List Symbol}
    (h : renderText a ++ x = renderText b ++ y) : a = b ∧ x = y := by
  have hread (t : Text) (rest : List Symbol) :
      string [] (t.symbols.flatMap escapeSymbol ++ .char '\x22' :: rest) = .ok (t, rest) :=
    stringBody_flatMap_escapeSymbol [] t.symbols (by intro code hcode; cases hcode) rest
  simp only [renderText, List.cons_append, List.append_assoc, List.cons.injEq, true_and,
    List.nil_append] at h
  have hboth := (hread a x).symm.trans ((congrArg (string []) h).trans (hread b y))
  simpa using hboth

/-! ## Integers -/

/-- What follows does not begin with a digit. -/
def Ends (rest : List Symbol) : Prop := ∀ s ∈ rest.head?, s.satisfies Char.isDigit = false

theorem ends_nil : Ends [] := by
  intro s hs
  cases hs

theorem ends_cons {c : Char} (h : c.isDigit = false) (rest : List Symbol) :
    Ends (.char c :: rest) := by
  rintro s ⟨⟩
  exact h

theorem isDigit_of_mem_toDigits {n : Nat} {c : Char} (h : c ∈ Nat.toDigits 10 n) :
    c.isDigit = true :=
  Nat.isDigit_of_mem_toDigits (by decide) (by decide) h

/-- The digits of a number are all the digits at the front. -/
theorem digits_toDigits (n : Nat) {rest : List Symbol} (h : Ends rest) :
    digits ((Nat.toDigits 10 n).map .char ++ rest) = (Nat.toDigits 10 n, rest) := by
  have hall : ∀ s ∈ (Nat.toDigits 10 n).map Symbol.char,
      (fun s : Symbol => s.satisfies Char.isDigit) s = true := by
    intro s hs
    obtain ⟨c, hc, rfl⟩ := List.mem_map.1 hs
    exact isDigit_of_mem_toDigits hc
  have hrest : rest.takeWhile (fun s => s.satisfies Char.isDigit) = [] ∧
      rest.dropWhile (fun s => s.satisfies Char.isDigit) = rest := by
    cases rest with
    | nil => exact ⟨rfl, rfl⟩
    | cons s rest =>
      have hs := h s rfl
      simp [hs]
  have hchars : Symbol.char? ∘ Symbol.char = some := rfl
  rw [digits, List.takeWhile_append_of_pos hall, List.dropWhile_append_of_pos hall, hrest.1,
    hrest.2, List.append_nil, List.filterMap_map, hchars, List.filterMap_some]

theorem toDigits_append_inj {m n : Nat} {x y : List Symbol} (hx : Ends x) (hy : Ends y)
    (h : (Nat.toDigits 10 m).map Symbol.char ++ x = (Nat.toDigits 10 n).map Symbol.char ++ y) :
    m = n ∧ x = y := by
  have hdigits := congrArg digits h
  rw [digits_toDigits m hx, digits_toDigits n hy, Prod.mk.injEq] at hdigits
  refine ⟨?_, hdigits.2⟩
  have hvalue := congrArg (fun ds => Nat.ofDigitChars 10 ds 0) hdigits.1
  simpa only [Nat.ofDigitChars_toDigits (by decide : 1 < 10) (by decide : 10 ≤ 10)] using hvalue

/-- The digits of a number begin with a digit, and not with a minus. -/
theorem toDigits_append_ne (n : Nat) {c : Char} (hc : c.isDigit = false) (x y : List Symbol) :
    (Nat.toDigits 10 n).map Symbol.char ++ x ≠ .char c :: y := by
  obtain ⟨d, ds, hds⟩ := List.exists_cons_of_ne_nil (Nat.toDigits_ne_nil (n := n) (b := 10))
  rw [hds]
  intro h
  have hd : d.isDigit = true := isDigit_of_mem_toDigits (n := n) (by rw [hds]; simp)
  rw [List.map_cons, List.cons_append, List.cons.injEq] at h
  rw [Symbol.char.inj h.1, hc] at hd
  cases hd

theorem renderInt_append_inj {m n : Int} {x y : List Symbol} (hx : Ends x) (hy : Ends y)
    (h : (renderInt m).map Symbol.char ++ x = (renderInt n).map Symbol.char ++ y) :
    m = n ∧ x = y := by
  have hminus : Char.isDigit '-' = false := by decide
  rw [renderInt, renderInt] at h
  split at h
  · next hm =>
    split at h
    · next hn =>
      rw [List.map_cons, List.map_cons, List.cons_append, List.cons_append, List.cons.injEq] at h
      obtain ⟨hvalue, hrest⟩ := toDigits_append_inj hx hy h.2
      exact ⟨by omega, hrest⟩
    · exact absurd h.symm (toDigits_append_ne _ hminus _ _)
  · next hm =>
    split at h
    · exact absurd h (toDigits_append_ne _ hminus _ _)
    · next hn =>
      obtain ⟨hvalue, hrest⟩ := toDigits_append_inj hx hy h
      exact ⟨by omega, hrest⟩

/-! ## Values -/

mutual

/-- Whether a value holds no binary64 number, at any depth. -/
def isExact : Json → Bool
  | .null | .bool _ | .int _ | .str _ => true
  | .float _ => false
  | .arr items => itemsExact items
  | .obj members => membersExact members

/-- Whether this holds of all items. -/
def itemsExact : List Json → Bool
  | [] => true
  | item :: items => isExact item && itemsExact items

/-- Whether this holds of all members. -/
def membersExact : List (Text × Json) → Bool
  | [] => true
  | (_, value) :: members => isExact value && membersExact members

end

/-- What a value without binary64 numbers is, as far as the symbol tells with which it begins. -/
inductive Kind
  | null
  | bool (value : Bool)
  | number
  | text
  | array
  | object
  deriving DecidableEq

/-- The kind of value that begins with a symbol. -/
def Kind.ofSymbol? (s : Symbol) : Option Kind :=
  if s = .char 'n' then some .null
  else if s = .char 't' then some (.bool true)
  else if s = .char 'f' then some (.bool false)
  else if s = .char '\x22' then some .text
  else if s = .char '[' then some .array
  else if s = .char '\x7b' then some .object
  else if s = .char '-' ∨ s.satisfies Char.isDigit = true then some .number
  else none

/-- The kind of a value; a binary64 number has none. -/
def kind? : Json → Option Kind
  | .null => some .null
  | .bool value => some (.bool value)
  | .int _ => some .number
  | .float _ => none
  | .str _ => some .text
  | .arr _ => some .array
  | .obj _ => some .object

theorem Kind.ofSymbol?_digit {c : Char} (h : c.isDigit = true) :
    Kind.ofSymbol? (.char c) = some .number := by
  have hne {d : Char} (hd : d.isDigit = false) : Symbol.char c ≠ .char d := by
    intro hcd
    rw [Symbol.char.inj hcd, hd] at h
    cases h
  simp only [Kind.ofSymbol?, hne (d := 'n') (by decide), hne (d := 't') (by decide),
    hne (d := 'f') (by decide), hne (d := '\x22') (by decide), hne (d := '[') (by decide),
    hne (d := '\x7b') (by decide), if_false]
  exact if_pos (.inr h)

/-- The first symbol of a value tells its kind. -/
theorem exists_symbols_eq_cons {v : Json} (hv : v.isExact = true) :
    ∃ s rest, v.symbols = s :: rest ∧ Kind.ofSymbol? s = v.kind? := by
  cases v with
  | null => exact ⟨_, _, rfl, rfl⟩
  | bool b => cases b <;> exact ⟨_, _, rfl, rfl⟩
  | int n =>
    rw [symbols, renderInt]
    split
    · exact ⟨_, _, rfl, rfl⟩
    · obtain ⟨d, ds, hds⟩ :=
        List.exists_cons_of_ne_nil (Nat.toDigits_ne_nil (n := n.natAbs) (b := 10))
      have hd : d.isDigit = true := isDigit_of_mem_toDigits (n := n.natAbs) (by simp [hds])
      rw [hds]
      exact ⟨_, _, rfl, Kind.ofSymbol?_digit hd⟩
  | float x => cases hv
  | str t => exact ⟨_, _, rfl, rfl⟩
  | arr items => cases items <;> exact ⟨_, _, rfl, rfl⟩
  | obj members => cases members <;> exact ⟨_, _, rfl, rfl⟩

/-- Values that are written alike as far as the text goes are of one kind. -/
theorem kind?_eq {v w : Json} (hv : v.isExact = true) (hw : w.isExact = true) {x y : List Symbol}
    (h : v.symbols ++ x = w.symbols ++ y) : v.kind? = w.kind? := by
  obtain ⟨s, more, hvs, hs⟩ := exists_symbols_eq_cons hv
  obtain ⟨s', more', hws, hs'⟩ := exists_symbols_eq_cons hw
  rw [hvs, hws, List.cons_append, List.cons_append, List.cons.injEq] at h
  rw [← hs, ← hs', h.1]

/-- No value begins with a closing bracket. -/
theorem symbols_append_ne {v : Json} (hv : v.isExact = true) (x y : List Symbol) :
    v.symbols ++ x ≠ .char ']' :: y := by
  obtain ⟨s, more, hvs, hs⟩ := exists_symbols_eq_cons hv
  rw [hvs, List.cons_append]
  intro h
  rw [List.cons.injEq] at h
  rw [h.1] at hs
  cases v <;> simp [kind?, Kind.ofSymbol?, isExact, Symbol.satisfies] at hs hv

theorem ends_itemSymbols (items : List Json) (rest : List Symbol) :
    Ends (itemSymbols items ++ rest) := by
  cases items <;> exact ends_cons (by decide) _

theorem ends_memberSymbols (members : List (Text × Json)) (rest : List Symbol) :
    Ends (memberSymbols members ++ rest) := by
  cases members with
  | nil => exact ends_cons (by decide) _
  | cons member members => exact ends_cons (by decide) _

theorem symbols_arr_cons_append (v : Json) (vs : List Json) (x : List Symbol) :
    (Json.arr (v :: vs)).symbols ++ x = .char '[' :: (v.symbols ++ (itemSymbols vs ++ x)) := by
  rw [symbols, List.cons_append, List.append_assoc]

theorem itemSymbols_cons_append (v : Json) (vs : List Json) (x : List Symbol) :
    itemSymbols (v :: vs) ++ x = .char ',' :: (v.symbols ++ (itemSymbols vs ++ x)) := by
  rw [itemSymbols, List.cons_append, List.append_assoc]

theorem symbols_obj_cons_append (name : Text) (v : Json) (vs : List (Text × Json))
    (x : List Symbol) :
    (Json.obj ((name, v) :: vs)).symbols ++ x =
      .char '\x7b' :: (renderText name ++ .char ':' :: (v.symbols ++ (memberSymbols vs ++ x))) := by
  simp only [symbols, List.cons_append, List.append_assoc]

theorem memberSymbols_cons_append (name : Text) (v : Json) (vs : List (Text × Json))
    (x : List Symbol) :
    memberSymbols ((name, v) :: vs) ++ x =
      .char ',' :: (renderText name ++ .char ':' :: (v.symbols ++ (memberSymbols vs ++ x))) := by
  simp only [memberSymbols, List.cons_append, List.append_assoc]

mutual

/-- What follows a value is told apart from it, as long as it begins with no digit. -/
theorem symbols_append_inj : ∀ {v w : Json} {x y : List Symbol}, v.isExact = true →
    w.isExact = true → Ends x → Ends y → v.symbols ++ x = w.symbols ++ y → v = w ∧ x = y
  | .null, w, x, y, hv, hw, _, _, h => by
    cases w <;> cases kind?_eq hv hw h
    exact ⟨rfl, List.append_cancel_left h⟩
  | .bool b, w, x, y, hv, hw, _, _, h => by
    cases w <;> cases kind?_eq hv hw h
    exact ⟨rfl, List.append_cancel_left h⟩
  | .int m, w, x, y, hv, hw, hx, hy, h => by
    cases w <;> cases kind?_eq hv hw h
    obtain ⟨rfl, hrest⟩ := renderInt_append_inj hx hy h
    exact ⟨rfl, hrest⟩
  | .float _, _, _, _, hv, _, _, _, _ => by cases hv
  | .str t, w, x, y, hv, hw, _, _, h => by
    cases w <;> cases kind?_eq hv hw h
    obtain ⟨rfl, hrest⟩ := renderText_append_inj h
    exact ⟨rfl, hrest⟩
  | .arr [], w, x, y, hv, hw, _, _, h => by
    cases w <;> cases kind?_eq hv hw h
    next items =>
      cases items with
      | nil => exact ⟨rfl, List.append_cancel_left h⟩
      | cons item items =>
        rw [isExact, itemsExact, Bool.and_eq_true] at hw
        rw [symbols_arr_cons_append] at h
        exact absurd (List.cons.inj h).2.symm (symbols_append_ne hw.1 _ _)
  | .arr (v :: vs), w, x, y, hv, hw, _, _, h => by
    cases w <;> cases kind?_eq hv hw h
    next items =>
      cases items with
      | nil =>
        rw [isExact, itemsExact, Bool.and_eq_true] at hv
        rw [symbols_arr_cons_append] at h
        exact absurd (List.cons.inj h).2 (symbols_append_ne hv.1 _ _)
      | cons item items =>
        -- a bracket in front tells as much as the comma with which the items go on
        rw [symbols_arr_cons_append, symbols_arr_cons_append] at h
        obtain ⟨heq, hrest⟩ := itemSymbols_append_inj hv hw (x := x) (y := y) (by
          rw [itemSymbols_cons_append, itemSymbols_cons_append, (List.cons.inj h).2])
        exact ⟨congrArg _ heq, hrest⟩
  | .obj [], w, x, y, hv, hw, _, _, h => by
    cases w <;> cases kind?_eq hv hw h
    next members =>
      cases members with
      | nil => exact ⟨rfl, List.append_cancel_left h⟩
      | cons member members => cases h
  | .obj ((name, v) :: vs), w, x, y, hv, hw, _, _, h => by
    cases w <;> cases kind?_eq hv hw h
    next members =>
      cases members with
      | nil => cases h
      | cons member members =>
        rw [symbols_obj_cons_append, symbols_obj_cons_append] at h
        obtain ⟨heq, hrest⟩ := memberSymbols_append_inj hv hw (x := x) (y := y) (by
          rw [memberSymbols_cons_append, memberSymbols_cons_append, (List.cons.inj h).2])
        exact ⟨congrArg _ heq, hrest⟩

/-- The items of an array and its end are told apart from what follows. -/
theorem itemSymbols_append_inj : ∀ {vs ws : List Json} {x y : List Symbol},
    itemsExact vs = true → itemsExact ws = true →
    itemSymbols vs ++ x = itemSymbols ws ++ y → vs = ws ∧ x = y
  | [], [], _, _, _, _, h => ⟨rfl, List.append_cancel_left h⟩
  | [], _ :: _, _, _, _, _, h => by cases h
  | _ :: _, [], _, _, _, _, h => by cases h
  | v :: vs, w :: ws, x, y, hv, hw, h => by
    rw [itemsExact, Bool.and_eq_true] at hv hw
    rw [itemSymbols_cons_append, itemSymbols_cons_append] at h
    obtain ⟨rfl, hmore⟩ := symbols_append_inj hv.1 hw.1 (ends_itemSymbols vs x)
      (ends_itemSymbols ws y) (List.cons.inj h).2
    obtain ⟨rfl, hrest⟩ := itemSymbols_append_inj hv.2 hw.2 hmore
    exact ⟨rfl, hrest⟩

/-- The members of an object and its end are told apart from what follows. -/
theorem memberSymbols_append_inj : ∀ {vs ws : List (Text × Json)} {x y : List Symbol},
    membersExact vs = true → membersExact ws = true →
    memberSymbols vs ++ x = memberSymbols ws ++ y → vs = ws ∧ x = y
  | [], [], _, _, _, _, h => ⟨rfl, List.append_cancel_left h⟩
  | [], _ :: _, _, _, _, _, h => by cases h
  | _ :: _, [], _, _, _, _, h => by cases h
  | (name, v) :: vs, (name', w) :: ws, x, y, hv, hw, h => by
    rw [membersExact, Bool.and_eq_true] at hv hw
    rw [memberSymbols_cons_append, memberSymbols_cons_append] at h
    obtain ⟨rfl, hvalue⟩ := renderText_append_inj (List.cons.inj h).2
    obtain ⟨rfl, hmore⟩ := symbols_append_inj hv.1 hw.1 (ends_memberSymbols vs x)
      (ends_memberSymbols ws y) (List.cons.inj hvalue).2
    obtain ⟨rfl, hrest⟩ := memberSymbols_append_inj hv.2 hw.2 hmore
    exact ⟨rfl, hrest⟩

end

/-- Values without binary64 numbers that are written alike are equal. -/
theorem render_injective {v w : Json} (hv : v.isExact = true) (hw : w.isExact = true)
    (h : v.render = w.render) : v = w := by
  have hsymbols : v.symbols ++ [] = w.symbols ++ [] := by
    rw [List.append_nil, List.append_nil]
    exact congrArg Text.symbols h
  exact (symbols_append_inj hv hw ends_nil ends_nil hsymbols).1

end ComputeDirectory.Json
