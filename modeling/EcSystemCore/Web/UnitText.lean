import EcSystemCore.Web.JsonGrammar

/-!
# `JSON.parse` on code units

A string of the language is a list of code units, and half of a surrogate pair is one of
them; the readers of `JsonText` take characters, which such a half is not.  Here the reader takes
code units.  White space, literals and numbers are ASCII, and are read as characters; the units of
a string stand for themselves.  `readValue_fuel` says that the fuel is enough.
-/

namespace EcSystemCore.Web.UnitText

open JsonText

/-! ### Units and characters -/

/-- The character of a code unit; half of a surrogate pair is none, and reads as `NUL`. -/
def unitChar (unit : UInt16) : Char := .ofNat unit.toNat

/-- A text, unit by unit. -/
def chars (text : JsString) : List Char := text.map unitChar

/-- White space. -/
def isSpace (unit : UInt16) : Bool :=
  unit = jsChar ' ' || unit = jsChar '\t' || unit = jsChar '\r' || unit = jsChar '\n'

/-- White space is skipped. -/
def skipSpace (text : JsString) : JsString := text.dropWhile isSpace

/-! ### Strings and scalars -/

/-- The units of a string, to its closing quote. -/
def readCharacters : JsString → Option (JsString × JsString)
  | [] => none
  | unit :: text =>
    if unit = jsChar '"' then some ([], text)
    else if unit.toNat < 0x20 then none
    else if unit ≠ jsChar '\\' then do
      let (units, rest) ← readCharacters text
      return (unit :: units, rest)
    else
      match text with
      | [] => none
      | escaped :: text =>
        if escaped = jsChar 'u' then
          match text with
          | u₀ :: u₁ :: u₂ :: u₃ :: text => do
              let unit ← hexUnit? (unitChar u₀) (unitChar u₁) (unitChar u₂) (unitChar u₃)
              let (units, rest) ← readCharacters text
              return (unit :: units, rest)
          | _ => none
        else do
          let unit ← simpleEscape? (unitChar escaped)
          let (units, rest) ← readCharacters text
          return (unit :: units, rest)

/-- A string. -/
def readString : JsString → Option (JsString × JsString)
  | [] => none
  | unit :: text => if unit = jsChar '"' then readCharacters text else none

/-- A literal name, for a value. -/
def readName (name : List Char) (tree : JsonTree) (text : JsString) :
    Option (JsonTree × JsString) := do
  let _ ← readLiteral name (chars text)
  return (tree, text.drop name.length)

/-- A literal name or a number. -/
def readScalar (text : JsString) : Option (JsonTree × JsString) :=
  match (chars text).head? with
  | none => none
  | some c =>
    if c = 't' then readName "true".toList (.bool true) text
    else if c = 'f' then readName "false".toList (.bool false) text
    else if c = 'n' then readName "null".toList .null text
    else if c = '-' ∨ isDecimal c = true then do
      let (number, _) ← readNumber (chars text)
      return (.number number, text.drop number.lexeme.length)
    else none

/-! ### Values -/

mutual

/-- A value, and the rest of the text. -/
def readValue : ℕ → JsString → Option (JsonTree × JsString)
  | 0, _ => none
  | fuel + 1, text =>
    match skipSpace text with
    | [] => none
    | unit :: rest =>
      if unit = jsChar '\x7b' then
        if (skipSpace rest).head? = some (jsChar '\x7d') then
          some (.object [], (skipSpace rest).tail)
        else do
          let (members, rest) ← readMembers fuel (skipSpace rest)
          return (.object members, rest)
      else if unit = jsChar '[' then
        if (skipSpace rest).head? = some (jsChar ']') then
          some (.array [], (skipSpace rest).tail)
        else do
          let (items, rest) ← readItems fuel (skipSpace rest)
          return (.array items, rest)
      else if unit = jsChar '"' then do
        let (units, rest) ← readCharacters rest
        return (.string units, rest)
      else readScalar (unit :: rest)

/-- The members of an object, to its closing brace. -/
def readMembers : ℕ → JsString → Option (List (JsString × JsonTree) × JsString)
  | 0, _ => none
  | fuel + 1, text => do
      let (key, rest) ← readString (skipSpace text)
      if (skipSpace rest).head? ≠ some (jsChar ':') then none
      else
        let (value, rest) ← readValue fuel (skipSpace rest).tail
        if (skipSpace rest).head? = some (jsChar '\x7d') then
          some ([(key, value)], (skipSpace rest).tail)
        else if (skipSpace rest).head? = some (jsChar ',') then
          let (members, rest) ← readMembers fuel (skipSpace rest).tail
          return ((key, value) :: members, rest)
        else none

/-- The items of an array, to its closing bracket. -/
def readItems : ℕ → JsString → Option (List JsonTree × JsString)
  | 0, _ => none
  | fuel + 1, text => do
      let (value, rest) ← readValue fuel text
      if (skipSpace rest).head? = some (jsChar ']') then some ([value], (skipSpace rest).tail)
      else if (skipSpace rest).head? = some (jsChar ',') then
        let (items, rest) ← readItems fuel (skipSpace rest).tail
        return (value :: items, rest)
      else none

end

/-- The tree of a text. -/
def read (text : JsString) : Option JsonTree := do
  let (tree, rest) ← readValue (2 * text.length + 1) text
  if skipSpace rest = [] then some tree else none

/-! ### What a scalar is -/

/-- The texts of a scalar. -/
inductive Scalar : List Char → JsonTree → Prop where
  | true : Scalar "true".toList (.bool true)
  | false : Scalar "false".toList (.bool false)
  | null : Scalar "null".toList .null
  | number {number : NumberText} (h : Grammar.Number number) :
      Scalar number.lexeme (.number number)

@[simp] theorem chars_append (front rest : JsString) :
    chars (front ++ rest) = chars front ++ chars rest := List.map_append

/-- The units of the characters in front of a text. -/
theorem chars_take {text : JsString} {lexeme rest : List Char}
    (h : chars text = lexeme ++ rest) : chars (text.take lexeme.length) = lexeme := by
  rw [chars, List.map_take]
  change (chars text).take _ = _
  rw [h, List.take_left]

theorem drop_length_chars (front rest : JsString) {lexeme : List Char}
    (h : chars front = lexeme) : (front ++ rest).drop lexeme.length = rest := by
  rw [← h, chars, List.length_map, List.drop_left]

theorem readName_append {name : List Char} (tree : JsonTree) {front : JsString} (rest : JsString)
    (h : chars front = name) : readName name tree (front ++ rest) = some (tree, rest) := by
  have hread : readLiteral name (chars (front ++ rest)) = some (chars rest) :=
    readLiteral_eq_some_iff.mpr (by rw [chars_append, h])
  unfold readName
  rw [hread, drop_length_chars front rest h]
  rfl

theorem chars_of_readName {name : List Char} {tree found : JsonTree} {text rest : JsString}
    (h : readName name tree text = some (found, rest)) :
    found = tree ∧ ∃ front, text = front ++ rest ∧ chars front = name := by
  simp only [readName, Option.bind_eq_bind, Option.bind_eq_some_iff] at h
  obtain ⟨more, hread, h⟩ := h
  cases h
  exact ⟨rfl, _, (List.take_append_drop _ _).symm,
    chars_take (readLiteral_eq_some_iff.mp hread)⟩

/-- A scalar that is read stands in front of the rest. -/
theorem scalar_of_readScalar {text rest : JsString} {tree : JsonTree}
    (h : readScalar text = some (tree, rest)) :
    ∃ front, text = front ++ rest ∧ Scalar (chars front) tree := by
  unfold readScalar at h
  split at h
  · cases h
  · split_ifs at h
    · obtain ⟨rfl, front, htext, hchars⟩ := chars_of_readName h
      exact ⟨front, htext, hchars ▸ .true⟩
    · obtain ⟨rfl, front, htext, hchars⟩ := chars_of_readName h
      exact ⟨front, htext, hchars ▸ .false⟩
    · obtain ⟨rfl, front, htext, hchars⟩ := chars_of_readName h
      exact ⟨front, htext, hchars ▸ .null⟩
    · simp only [Option.bind_eq_bind, Option.bind_eq_some_iff] at h
      obtain ⟨⟨number, more⟩, hread, h⟩ := h
      cases h
      obtain ⟨hnumber, hsplit⟩ := number_of_readNumber hread
      refine ⟨_, (List.take_append_drop _ _).symm, ?_⟩
      rw [chars_take hsplit]
      exact .number hnumber

/-- A scalar is read if nothing behind it makes it longer. -/
theorem readScalar_of_scalar {front rest : JsString} {tree : JsonTree}
    (h : Scalar (chars front) tree) (hrest : Delimited (chars rest)) :
    readScalar (front ++ rest) = some (tree, rest) := by
  generalize hlexeme : chars front = lexeme at h
  have hchars : chars (front ++ rest) = lexeme ++ chars rest := by rw [chars_append, hlexeme]
  unfold readScalar
  rw [hchars]
  cases h with
  | true => exact readName_append (.bool true) rest hlexeme
  | false => exact readName_append (.bool false) rest hlexeme
  | null => exact readName_append .null rest hlexeme
  | @number number hnumber =>
    obtain ⟨c, tail, hhead, hc⟩ := number_head hnumber
    have hread := readNumber_of_number hnumber hrest
    have hletters : c ≠ 't' ∧ c ≠ 'f' ∧ c ≠ 'n' := by
      rcases hc with rfl | hc
      · decide
      · refine ⟨?_, ?_, ?_⟩ <;> rintro rfl <;> exact absurd hc (by decide)
    obtain ⟨ht, hf, hn⟩ := hletters
    have hfirst : (number.lexeme ++ chars rest).head? = some c := by rw [hhead]; rfl
    simp only [hfirst, if_neg ht, if_neg hf, if_neg hn, if_pos hc, hread]
    rw [Option.bind_eq_bind, Option.bind_some, drop_length_chars front rest hlexeme]
    rfl

/-! ### What a string is -/

/-- The units between the quotes of a string, and the units they stand for. -/
inductive Characters : JsString → JsString → Prop where
  | nil : Characters [] []
  | unescaped {unit : UInt16} {text units : JsString} (hcontrol : 0x20 ≤ unit.toNat)
      (hquote : unit ≠ jsChar '"') (hescape : unit ≠ jsChar '\\') (h : Characters text units) :
      Characters (unit :: text) (unit :: units)
  | escaped {escape unit : UInt16} {text units : JsString} (hu : escape ≠ jsChar 'u')
      (hescape : simpleEscape? (unitChar escape) = some unit) (h : Characters text units) :
      Characters (jsChar '\\' :: escape :: text) (unit :: units)
  | unicode {u₀ u₁ u₂ u₃ unit : UInt16} {text units : JsString}
      (hunit : hexUnit? (unitChar u₀) (unitChar u₁) (unitChar u₂) (unitChar u₃) = some unit)
      (h : Characters text units) :
      Characters (jsChar '\\' :: jsChar 'u' :: u₀ :: u₁ :: u₂ :: u₃ :: text) (unit :: units)

theorem characters_of_readCharacters {text rest units : JsString}
    (h : readCharacters text = some (units, rest)) :
    ∃ body, Characters body units ∧ text = body ++ jsChar '"' :: rest := by
  fun_induction readCharacters text generalizing units with
  | case1 => cases h
  | case2 text =>
    cases h
    exact ⟨[], .nil, rfl⟩
  | case3 => cases h
  | case4 unit text hquote hcontrol hescape ih =>
    simp only [Option.bind_eq_bind, Option.bind_eq_some_iff] at h
    obtain ⟨⟨_, _⟩, hread, h⟩ := h
    cases h
    obtain ⟨body, hbody, rfl⟩ := ih hread
    exact ⟨unit :: body, .unescaped (Nat.not_lt.mp hcontrol) hquote hescape hbody, rfl⟩
  | case5 => cases h
  | case6 =>
    rename_i ih
    simp only [Option.bind_eq_bind, Option.bind_eq_some_iff] at h
    obtain ⟨unit, hunit, ⟨_, _⟩, hread, h⟩ := h
    cases h
    obtain ⟨body, hbody, rfl⟩ := ih hread
    refine ⟨_, .unicode hunit hbody, ?_⟩
    simp_all
  | case7 => cases h
  | case8 =>
    rename_i hu ih
    simp only [Option.bind_eq_bind, Option.bind_eq_some_iff] at h
    obtain ⟨unit, hunit, ⟨_, _⟩, hread, h⟩ := h
    cases h
    obtain ⟨body, hbody, rfl⟩ := ih hread
    refine ⟨_, .escaped hu hunit hbody, ?_⟩
    simp_all

theorem readCharacters_of_characters {body units : JsString} (h : Characters body units)
    (rest : JsString) : readCharacters (body ++ jsChar '"' :: rest) = some (units, rest) := by
  induction h with
  | nil =>
    rw [List.nil_append, readCharacters.eq_def]
    exact if_pos rfl
  | unescaped hcontrol hquote hescape _ ih =>
    rw [List.cons_append, readCharacters.eq_def]
    simp only [if_neg hquote, if_neg (Nat.not_lt.mpr hcontrol), if_pos hescape, ih]
    rfl
  | escaped hu hescape _ ih =>
    rw [List.cons_append, List.cons_append, readCharacters.eq_def]
    simp only [hu, hescape, ih]
    rfl
  | unicode hunit _ ih =>
    simp only [List.cons_append]
    rw [readCharacters.eq_def]
    simp only [hunit, ih]
    rfl

/-! ### The fuel -/

theorem length_skipSpace_le (text : JsString) : (skipSpace text).length ≤ text.length :=
  (List.dropWhile_sublist _).length_le

theorem length_tail_skipSpace_le {text : JsString} {unit : UInt16}
    (h : (skipSpace text).head? = some unit) :
    (skipSpace text).tail.length + 1 ≤ text.length := by
  have hle := length_skipSpace_le text
  cases hskip : skipSpace text with
  | nil => simp [hskip] at h
  | cons first rest =>
    rw [hskip, List.length_cons] at hle
    simpa using hle

theorem length_readCharacters_le {text rest : JsString} {units : JsString}
    (h : readCharacters text = some (units, rest)) : rest.length ≤ text.length := by
  fun_induction readCharacters text generalizing units with
  | case1 => cases h
  | case2 text =>
    cases h
    simp
  | case3 => cases h
  | case4 unit text hquote hcontrol hescape ih =>
    simp only [Option.bind_eq_bind, Option.bind_eq_some_iff] at h
    obtain ⟨⟨_, _⟩, hread, h⟩ := h
    cases h
    exact Nat.le_succ_of_le (ih hread)
  | case5 => cases h
  | case6 =>
    rename_i ih
    simp only [Option.bind_eq_bind, Option.bind_eq_some_iff] at h
    obtain ⟨_, _, ⟨_, _⟩, hread, h⟩ := h
    cases h
    simp only [List.length_cons]
    exact Nat.le_trans (ih hread) (by omega)
  | case7 => cases h
  | case8 =>
    rename_i ih
    simp only [Option.bind_eq_bind, Option.bind_eq_some_iff] at h
    obtain ⟨_, _, ⟨_, _⟩, hread, h⟩ := h
    cases h
    simp only [List.length_cons]
    exact Nat.le_trans (ih hread) (by omega)

theorem length_readString_le {text rest : JsString} {units : JsString}
    (h : readString text = some (units, rest)) : rest.length ≤ text.length := by
  unfold readString at h
  split at h
  · cases h
  · split at h
    · exact Nat.le_succ_of_le (length_readCharacters_le h)
    · cases h

theorem length_readScalar_le {text rest : JsString} {tree : JsonTree}
    (h : readScalar text = some (tree, rest)) : rest.length ≤ text.length := by
  obtain ⟨front, rfl, -⟩ := scalar_of_readScalar h
  simp

/-- A value, members or items leave no more text than there was. -/
theorem length_rest_le (fuel : ℕ) :
    (∀ {text tree rest}, readValue fuel text = some (tree, rest) → rest.length ≤ text.length) ∧
    (∀ {text members rest}, readMembers fuel text = some (members, rest) →
      rest.length ≤ text.length) ∧
    (∀ {text items rest}, readItems fuel text = some (items, rest) →
      rest.length ≤ text.length) := by
  induction fuel with
  | zero =>
    refine ⟨fun h => ?_, fun h => ?_, fun h => ?_⟩
    · simp [readValue] at h
    · simp [readMembers] at h
    · simp [readItems] at h
  | succ fuel ih =>
    obtain ⟨ihValue, ihMembers, ihItems⟩ := ih
    refine ⟨fun {text tree rest} h => ?_, fun {text members rest} h => ?_,
      fun {text items rest} h => ?_⟩
    · have hskip := length_skipSpace_le text
      simp only [readValue] at h
      split at h
      · cases h
      case h_2 unit after hafter =>
        rw [hafter] at hskip
        have hinner := length_skipSpace_le after
        refine Nat.le_trans ?_ hskip
        split_ifs at h with hbrace hempty hbracket hempty
        all_goals try simp only [Option.bind_eq_bind, Option.bind_eq_some_iff] at h
        · cases h
          exact Nat.le_succ_of_le (Nat.le_of_succ_le (length_tail_skipSpace_le hempty))
        · obtain ⟨⟨_, _⟩, hread, h⟩ := h
          cases h
          exact Nat.le_succ_of_le (Nat.le_trans (ihMembers hread) hinner)
        · cases h
          exact Nat.le_succ_of_le (Nat.le_of_succ_le (length_tail_skipSpace_le hempty))
        · obtain ⟨⟨_, _⟩, hread, h⟩ := h
          cases h
          exact Nat.le_succ_of_le (Nat.le_trans (ihItems hread) hinner)
        · obtain ⟨⟨_, _⟩, hread, h⟩ := h
          cases h
          exact Nat.le_succ_of_le (length_readCharacters_le hread)
        · exact length_readScalar_le h
    · simp only [readMembers, Option.bind_eq_bind, Option.bind_eq_some_iff] at h
      obtain ⟨⟨key, afterKey⟩, hkey, h⟩ := h
      dsimp only at h
      split at h
      · cases h
      case isFalse hcolon =>
      simp only [Option.bind_eq_some_iff] at h
      obtain ⟨⟨value, afterValue⟩, hvalue, h⟩ := h
      dsimp only at h
      have hkeyLength := length_readString_le hkey
      have hskip := length_skipSpace_le text
      have hcolonLength := length_tail_skipSpace_le (not_not.mp hcolon)
      have hvalueLength := ihValue hvalue
      split_ifs at h with hbrace hcomma
      · cases h
        have := length_tail_skipSpace_le hbrace
        omega
      · simp only [Option.bind_eq_some_iff] at h
        obtain ⟨⟨_, _⟩, hmembers, h⟩ := h
        cases h
        have := length_tail_skipSpace_le hcomma
        have := ihMembers hmembers
        dsimp only
        omega
    · simp only [readItems, Option.bind_eq_bind, Option.bind_eq_some_iff] at h
      obtain ⟨⟨value, afterValue⟩, hvalue, h⟩ := h
      dsimp only at h
      have hvalueLength := ihValue hvalue
      split_ifs at h with hbracket hcomma
      · cases h
        have := length_tail_skipSpace_le hbracket
        omega
      · simp only [Option.bind_eq_some_iff] at h
        obtain ⟨⟨_, _⟩, hitems, h⟩ := h
        cases h
        have := length_tail_skipSpace_le hcomma
        have := ihItems hitems
        dsimp only
        omega

/-- More fuel makes no difference. -/
theorem fuel_step (fuel : ℕ) :
    (∀ text : JsString, 2 * text.length + 1 ≤ fuel →
      readValue (fuel + 1) text = readValue fuel text) ∧
    (∀ text : JsString, 2 * text.length + 2 ≤ fuel →
      readMembers (fuel + 1) text = readMembers fuel text) ∧
    (∀ text : JsString, 2 * text.length + 2 ≤ fuel →
      readItems (fuel + 1) text = readItems fuel text) := by
  induction fuel with
  | zero => exact ⟨fun _ h => by omega, fun _ h => by omega, fun _ h => by omega⟩
  | succ fuel ih =>
    obtain ⟨ihValue, ihMembers, ihItems⟩ := ih
    refine ⟨fun text h => ?_, fun text h => ?_, fun text h => ?_⟩
    · have hskip := length_skipSpace_le text
      rw [readValue, readValue.eq_2]
      cases hafter : skipSpace text with
      | nil => rfl
      | cons unit after =>
        rw [hafter, List.length_cons] at hskip
        have hinner := length_skipSpace_le after
        simp only [ihMembers (skipSpace after) (by omega), ihItems (skipSpace after) (by omega)]
    · rw [readMembers, readMembers.eq_2]
      refine Option.bind_congr fun ⟨key, afterKey⟩ hkey => ?_
      have hkeyLength := length_readString_le hkey
      have hskip := length_skipSpace_le text
      dsimp only
      split_ifs with hcolon
      · rfl
      · have hcolonLength := length_tail_skipSpace_le (not_not.mp hcolon)
        rw [ihValue _ (by omega)]
        refine Option.bind_congr fun ⟨value, afterValue⟩ hvalue => ?_
        have hvalueLength := (length_rest_le fuel).1 hvalue
        dsimp only
        split_ifs with hbrace hcomma
        · rfl
        · have := length_tail_skipSpace_le hcomma
          rw [ihMembers _ (by omega)]
        · rfl
    · rw [readItems, readItems.eq_2, ihValue text (by omega)]
      refine Option.bind_congr fun ⟨value, afterValue⟩ hvalue => ?_
      have hvalueLength := (length_rest_le fuel).1 hvalue
      dsimp only
      split_ifs with hbracket hcomma
      · rfl
      · have := length_tail_skipSpace_le hcomma
        rw [ihItems _ (by omega)]
      · rfl

/-- **The fuel is enough**: what is read of a text does not depend on it. -/
theorem readValue_fuel {fuel : ℕ} {text : JsString} (h : 2 * text.length + 1 ≤ fuel) :
    readValue fuel text = readValue (2 * text.length + 1) text := by
  induction fuel, h using Nat.le_induction with
  | base => rfl
  | succ fuel h ih => exact ((fuel_step fuel).1 text h).trans ih

end EcSystemCore.Web.UnitText
