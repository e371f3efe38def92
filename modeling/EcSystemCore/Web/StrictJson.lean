import EcSystemCore.Lib.Checks
import EcSystemCore.Web.UnitText

/-!
# `parseStrictJson`

The reader of request bodies in `server.ts`: a scanner of its own runs over the text, looks for
a second key of one name and for deep nesting, hands the strings and scalars it finds to
`JSON.parse`, and in the end the whole text.  The scanner has its own idea of where a string
and a scalar end; `strict_json_iff` says that this never shows.

A `SyntaxError` is its message.
-/

namespace EcSystemCore.Web

namespace UnitText

/-- `JSON.parse`; `none` is a `SyntaxError`. -/
def parse (text : JsString) : Option JsValue := (read text).map (·.evaluate)

end UnitText

namespace StrictJson

open UnitText

/-- `JSON.parse`, with the message of its `SyntaxError` left open. -/
def jsonParse (text : JsString) : Except JsString JsValue :=
  match parse text with
  | none => .error (js "JSON Parse error")
  | some value => .ok value

/-- The loop of `parseString`, behind the opening quote: the units before the closing quote,
and the text behind it. -/
def scanCharacters : JsString → Except JsString (JsString × JsString)
  | [] => .error (js "Unterminated JSON string")
  | unit :: text =>
    if unit = jsChar '"' then .ok ([], text)
    else if unit = jsChar '\\' then
      match text with
      | [] => .error (js "Truncated JSON escape")
      | escaped :: text =>
        if escaped = jsChar 'u' then
          match text with
          | u₀ :: u₁ :: u₂ :: u₃ :: text => do
              let (units, rest) ← scanCharacters text
              return (unit :: escaped :: u₀ :: u₁ :: u₂ :: u₃ :: units, rest)
          -- the offset is behind the end of the text
          | _ => .error (js "Unterminated JSON string")
        else do
          let (units, rest) ← scanCharacters text
          return (unit :: escaped :: units, rest)
    else if unit.toNat ≤ 0x1f then .error (js "Control character in JSON string")
    else do
      let (units, rest) ← scanCharacters text
      return (unit :: units, rest)

/-- `parseString`: the value of the string, and the text behind it. -/
def parseString : JsString → Except JsString (JsString × JsString)
  | [] => .error (js "Expected JSON string")
  | unit :: text =>
    if unit ≠ jsChar '"' then .error (js "Expected JSON string")
    else do
      let (units, rest) ← scanCharacters text
      match ← jsonParse (unit :: (units ++ [jsChar '"'])) with
      | .string value => return (value, rest)
      -- a text that starts with a quote is a string
      | _ => .error (js "JSON Parse error")

/-- The units over which a scalar goes. -/
def inScalar (unit : UInt16) : Bool :=
  unit ≠ jsChar ',' && unit ≠ jsChar ']' && unit ≠ jsChar '\x7d' && unit ≠ jsChar ' ' &&
    unit ≠ jsChar '\t' && unit ≠ jsChar '\r' && unit ≠ jsChar '\n'

mutual

/-- `parseValue`: the text behind the value. -/
def parseValue : ℕ → ℕ → JsString → Except JsString JsString
  | 0, _, _ => .error []
  | fuel + 1, depth, text =>
    if depth > 32 then .error (js "JSON nesting is too deep")
    else
      match skipSpace text with
      | [] => .error (js "Expected JSON value")
      | unit :: rest =>
        if unit = jsChar '\x7b' then
          if (skipSpace rest).head? = some (jsChar '\x7d') then .ok (skipSpace rest).tail
          else parseMembers fuel depth [] (skipSpace rest)
        else if unit = jsChar '[' then
          if (skipSpace rest).head? = some (jsChar ']') then .ok (skipSpace rest).tail
          else parseItems fuel depth (skipSpace rest)
        else if unit = jsChar '"' then do
          let (_, rest) ← parseString (unit :: rest)
          return rest
        else if (unit :: rest).takeWhile inScalar = [] then
          .error (js "Expected JSON value")
        else do
          let _ ← jsonParse ((unit :: rest).takeWhile inScalar)
          return (unit :: rest).dropWhile inScalar

/-- The loop over the members of an object, with the keys so far. -/
def parseMembers : ℕ → ℕ → List JsString → JsString → Except JsString JsString
  | 0, _, _, _ => .error []
  | fuel + 1, depth, keys, text => do
      let (key, rest) ← parseString (skipSpace text)
      if key ∈ keys then .error (js "Duplicate JSON key: " ++ key)
      else if (skipSpace rest).head? ≠ some (jsChar ':') then .error (js "Expected JSON colon")
      else
        let rest ← parseValue fuel (depth + 1) (skipSpace rest).tail
        if (skipSpace rest).head? = some (jsChar '\x7d') then .ok (skipSpace rest).tail
        else if (skipSpace rest).head? ≠ some (jsChar ',') then
          .error (js "Expected JSON object separator")
        else parseMembers fuel depth (key :: keys) (skipSpace rest).tail

/-- The loop over the items of an array. -/
def parseItems : ℕ → ℕ → JsString → Except JsString JsString
  | 0, _, _ => .error []
  | fuel + 1, depth, text => do
      let rest ← parseValue fuel (depth + 1) text
      if (skipSpace rest).head? = some (jsChar ']') then .ok (skipSpace rest).tail
      else if (skipSpace rest).head? ≠ some (jsChar ',') then
        .error (js "Expected JSON array separator")
      else parseItems fuel depth (skipSpace rest).tail

end

/-- `parseStrictJson`. -/
def parseStrictJson (text : JsString) : Except JsString JsValue := do
  let rest ← parseValue (2 * text.length + 1) 0 text
  if skipSpace rest ≠ [] then .error (js "Trailing JSON data")
  else jsonParse text

/-! ### What the scanner refuses -/

end StrictJson

namespace JsonTree

mutual

/-- No object has two members of one name. -/
def DistinctKeys : JsonTree → Prop
  | null => True
  | bool _ => True
  | number _ => True
  | string _ => True
  | array items => DistinctItems items
  | object members => (members.map Prod.fst).Nodup ∧ DistinctMembers members

/-- No object in an item has two members of one name. -/
def DistinctItems : List JsonTree → Prop
  | [] => True
  | item :: items => item.DistinctKeys ∧ DistinctItems items

/-- No object in the value of a member has two members of one name. -/
def DistinctMembers : List (JsString × JsonTree) → Prop
  | [] => True
  | (_, value) :: members => value.DistinctKeys ∧ DistinctMembers members

end

end JsonTree

namespace StrictJson

open Checks UnitText

/-! ### Strings -/

theorem jsonParse_eq_ok_iff {text : JsString} {value : JsValue} :
    jsonParse text = .ok value ↔ parse text = some value := by
  unfold jsonParse
  split
  · simp [*]
  · simp [*]

/-- The scanner finds the closing quote of a string that can be read. -/
theorem scanCharacters_of_characters {body units : JsString} (h : Characters body units)
    (rest : JsString) : scanCharacters (body ++ jsChar '"' :: rest) = .ok (body, rest) := by
  induction h with
  | nil =>
    rw [List.nil_append, scanCharacters.eq_def]
    exact if_pos rfl
  | unescaped hcontrol hquote hescape _ ih =>
    rw [List.cons_append, scanCharacters.eq_def]
    have hplain : ¬_ ≤ 0x1f := Nat.not_le.mpr hcontrol
    simp only [if_neg hquote, if_neg hescape, if_neg hplain, ih]
    rfl
  | escaped hu _ _ ih =>
    rw [List.cons_append, List.cons_append, scanCharacters.eq_def]
    simp only [hu, ih]
    rfl
  | unicode _ _ ih =>
    simp only [List.cons_append]
    rw [scanCharacters.eq_def]
    simp only [ih]
    rfl

/-- What the scanner has gone over. -/
theorem append_of_scanCharacters {text body rest : JsString}
    (h : scanCharacters text = .ok (body, rest)) : text = body ++ jsChar '"' :: rest := by
  fun_induction scanCharacters text generalizing body with
  | case1 => cases h
  | case2 text =>
    cases h
    rfl
  | case3 => cases h
  | case4 =>
    rename_i ih
    obtain ⟨⟨_, _⟩, hscan, h⟩ := bind_eq_ok_iff.mp h
    cases h
    simp [ih hscan]
  | case5 => cases h
  | case6 =>
    rename_i ih
    obtain ⟨⟨_, _⟩, hscan, h⟩ := bind_eq_ok_iff.mp h
    cases h
    simp [ih hscan]
  | case7 => cases h
  | case8 =>
    rename_i ih
    obtain ⟨⟨_, _⟩, hscan, h⟩ := bind_eq_ok_iff.mp h
    cases h
    simp [ih hscan]

/-- A text that starts with a quote. -/
theorem read_quote (text : JsString) :
    read (jsChar '"' :: text) = (readCharacters text).bind fun (units, rest) =>
      if skipSpace rest = [] then some (.string units) else none := by
  have hskip : skipSpace (jsChar '"' :: text) = jsChar '"' :: text := rfl
  simp only [UnitText.read, readValue, hskip, Option.bind_eq_bind]
  rw [if_neg (by decide), if_neg (by decide), if_pos trivial, Option.bind_assoc]
  rfl

theorem parseString_eq_ok_iff {text key rest : JsString} :
    parseString text = .ok (key, rest) ↔ readString text = some (key, rest) := by
  cases text with
  | nil => simp [parseString, readString]
  | cons unit text =>
    by_cases hquote : unit = jsChar '"'
    · subst hquote
      simp only [parseString, readString, ne_eq, not_true_eq_false, if_false, if_true]
      constructor
      · intro h
        obtain ⟨⟨body, after⟩, hscan, h⟩ := bind_eq_ok_iff.mp h
        obtain ⟨value, hvalue, h⟩ := bind_eq_ok_iff.mp h
        cases value with
        | string value =>
          cases h
          rw [jsonParse_eq_ok_iff, parse, read_quote, Option.map_eq_some_iff] at hvalue
          obtain ⟨tree, htree, hvalue⟩ := hvalue
          obtain ⟨⟨units, left⟩, hread, htree⟩ := Option.bind_eq_some_iff.mp htree
          dsimp only at htree
          split_ifs at htree with hleft
          cases htree
          cases hvalue
          -- the scanner and the reader stop at the same quote
          obtain ⟨found, hfound, hbody⟩ := characters_of_readCharacters hread
          have htext : text = found ++ jsChar '"' :: (left ++ after) := by
            rw [append_of_scanCharacters hscan, List.append_cons, hbody]
            simp
          rw [htext, scanCharacters_of_characters hfound] at hscan
          obtain ⟨rfl, hafter⟩ := Prod.mk.inj (Except.ok.inj hscan)
          rw [htext, readCharacters_of_characters hfound, hafter]
        | _ => cases h
      · intro h
        obtain ⟨body, hbody, rfl⟩ := characters_of_readCharacters h
        have hread : readCharacters (body ++ [jsChar '"']) = some (key, []) :=
          readCharacters_of_characters hbody []
        have hparse : jsonParse (jsChar '"' :: (body ++ [jsChar '"'])) = .ok (.string key) := by
          rw [jsonParse_eq_ok_iff, parse, read_quote, hread]
          rfl
        rw [scanCharacters_of_characters hbody]
        change (jsonParse (jsChar '"' :: (body ++ [jsChar '"'])) >>= _) = _
        rw [hparse]
        rfl
    · simp [parseString, readString, hquote]

/-! ### Scalars -/

/-- The text does not go on with a unit of a scalar. -/
def Closed (rest : JsString) : Prop := ∀ unit, rest.head? = some unit → inScalar unit = false

theorem inScalar_eq_false_iff {unit : UInt16} :
    inScalar unit = false ↔ unit ∈ [',', ']', '\x7d', ' ', '\t', '\r', '\n'].map jsChar := by
  simp only [inScalar, Bool.and_eq_false_iff, decide_eq_false_iff_not, not_not, List.map_cons,
    List.map_nil, List.mem_cons, List.not_mem_nil, or_false, ne_eq]
  tauto

theorem inScalar_of_isSpace {unit : UInt16} (h : UnitText.isSpace unit = true) :
    inScalar unit = false := by
  rw [inScalar_eq_false_iff]
  simp only [UnitText.isSpace, Bool.or_eq_true, decide_eq_true_eq] at h
  rcases h with ((rfl | rfl) | rfl) | rfl <;> decide

/-- The characters that end a scalar. -/
theorem unitChar_of_not_inScalar {unit : UInt16} (h : inScalar unit = false) :
    unitChar unit ∈ [',', ']', '\x7d', ' ', '\t', '\r', '\n'] := by
  obtain ⟨c, hc, rfl⟩ := List.mem_map.mp (inScalar_eq_false_iff.mp h)
  simp only [List.mem_cons, List.not_mem_nil, or_false] at hc
  rcases hc with rfl | rfl | rfl | rfl | rfl | rfl | rfl <;> decide

theorem Closed.delimited {rest : JsString} (h : Closed rest) : JsonText.Delimited (chars rest) := by
  intro c hc
  rw [chars, List.head?_map, Option.map_eq_some_iff] at hc
  obtain ⟨unit, hunit, rfl⟩ := hc
  have hmem := unitChar_of_not_inScalar (h unit hunit)
  simp only [List.mem_cons, List.not_mem_nil, or_false] at hmem
  generalize unitChar unit = c at hmem
  rcases hmem with rfl | rfl | rfl | rfl | rfl | rfl | rfl <;> decide

/-- No character of a scalar ends it. -/
theorem not_mem_of_scalar {lexeme : List Char} {tree : JsonTree} (h : Scalar lexeme tree)
    {c : Char} (hc : c ∈ lexeme) : c ∉ [',', ']', '\x7d', ' ', '\t', '\r', '\n'] := by
  intro hmem
  simp only [List.mem_cons, List.not_mem_nil, or_false] at hmem
  cases h with
  | true | false | null =>
    rcases hmem with rfl | rfl | rfl | rfl | rfl | rfl | rfl <;> exact absurd hc (by decide)
  | number hnumber =>
    have hlexeme := JsonText.mem_lexeme hnumber hc
    rcases hmem with rfl | rfl | rfl | rfl | rfl | rfl | rfl <;> exact absurd hlexeme (by decide)

theorem Scalar.ne_nil {lexeme : List Char} {tree : JsonTree} (h : Scalar lexeme tree) :
    lexeme ≠ [] := by
  cases h with
  | true | false | null => decide
  | number hnumber =>
    obtain ⟨c, rest, hhead, -⟩ := JsonText.number_head hnumber
    rw [hhead]
    exact List.cons_ne_nil _ _

/-- The scanner goes over a scalar and stops behind it. -/
theorem span_of_scalar {front rest : JsString} {tree : JsonTree} (h : Scalar (chars front) tree)
    (hrest : Closed rest) :
    (front ++ rest).takeWhile inScalar = front ∧ (front ++ rest).dropWhile inScalar = rest := by
  have hfront : ∀ unit ∈ front, inScalar unit = true := by
    intro unit hunit
    by_contra hout
    exact not_mem_of_scalar h (List.mem_map_of_mem hunit)
      (unitChar_of_not_inScalar (by simpa using hout))
  rw [List.takeWhile_append_of_pos hfront, List.dropWhile_append_of_pos hfront]
  cases rest with
  | nil => simp
  | cons unit rest =>
    have hunit := hrest unit rfl
    simp [hunit]

/-- The text of a value that is not put in brackets, braces or quotes. -/
def Bare (unit : UInt16) : Prop :=
  unit ≠ jsChar '\x7b' ∧ unit ≠ jsChar '[' ∧ unit ≠ jsChar '"' ∧ UnitText.isSpace unit = false

/-- A text that starts with a bare value. -/
theorem read_bare {unit : UInt16} (h : Bare unit) (text : JsString) :
    UnitText.read (unit :: text) = (readScalar (unit :: text)).bind fun (tree, rest) =>
      if skipSpace rest = [] then some tree else none := by
  obtain ⟨hbrace, hbracket, hquote, hspace⟩ := h
  have hskip : skipSpace (unit :: text) = unit :: text :=
    List.dropWhile_cons_of_neg (by simpa using hspace)
  simp only [UnitText.read, readValue, hskip, Option.bind_eq_bind, if_neg hbrace, if_neg hbracket,
    if_neg hquote]

/-- **Scalars.**  The text up to the next delimiter is a JSON text exactly if a scalar stands
there and the delimiter is right behind it. -/
theorem scan_scalar_iff {unit : UInt16} (hbare : Bare unit) {text rest : JsString} :
    ((unit :: text).takeWhile inScalar ≠ [] ∧
      (∃ value, parse ((unit :: text).takeWhile inScalar) = some value) ∧
        (unit :: text).dropWhile inScalar = rest) ↔
      ∃ tree, readScalar (unit :: text) = some (tree, rest) ∧ Closed rest := by
  constructor
  · rintro ⟨hne, ⟨value, hvalue⟩, hrest⟩
    have hclosed : Closed rest := by
      intro other hother
      have hhead := List.head?_dropWhile_not inScalar (unit :: text)
      rw [hrest, hother] at hhead
      exact hhead
    have hunit : inScalar unit = true := by
      by_contra hout
      exact hne (List.takeWhile_cons_of_neg hout)
    have hsplit := List.takeWhile_append_dropWhile (p := inScalar) (l := unit :: text)
    rw [hrest] at hsplit
    -- what `JSON.parse` leaves of the text has no white space in it
    rw [parse, Option.map_eq_some_iff] at hvalue
    obtain ⟨tree, htree, -⟩ := hvalue
    have hinside : ∀ other ∈ (unit :: text).takeWhile inScalar, inScalar other = true :=
      fun other hother => List.mem_takeWhile_imp hother
    rw [List.takeWhile_cons_of_pos hunit] at htree hsplit hinside
    rw [read_bare hbare] at htree
    obtain ⟨⟨found, left⟩, hread, htree⟩ := Option.bind_eq_some_iff.mp htree
    dsimp only at htree
    split_ifs at htree with hleft
    obtain ⟨front, hfront, hscalar⟩ := scalar_of_readScalar hread
    have hempty : left = [] := by
      cases left with
      | nil => rfl
      | cons other left =>
        have hother : inScalar other = true := hinside other (by rw [hfront]; simp)
        have hspace : UnitText.isSpace other = false := by
          by_contra hspace
          rw [inScalar_of_isSpace (by simpa using hspace)] at hother
          cases hother
        rw [skipSpace, List.dropWhile_cons_of_neg (by simpa using hspace)] at hleft
        cases hleft
    subst hempty
    rw [List.append_nil] at hfront
    refine ⟨found, ?_, hclosed⟩
    rw [← hsplit, hfront]
    exact readScalar_of_scalar hscalar hclosed.delimited
  · rintro ⟨tree, hread, hclosed⟩
    obtain ⟨front, htext, hscalar⟩ := scalar_of_readScalar hread
    obtain ⟨htake, hdrop⟩ := span_of_scalar hscalar hclosed
    rw [htext, htake, hdrop]
    have hne : front ≠ [] := by
      rintro rfl
      exact Scalar.ne_nil hscalar rfl
    refine ⟨hne, ⟨tree.evaluate, ?_⟩, rfl⟩
    obtain ⟨first, tail, rfl⟩ := List.exists_cons_of_ne_nil hne
    obtain rfl : first = unit := by
      simpa using (congrArg List.head? htext).symm
    have hself := @readScalar_of_scalar _ [] _ hscalar JsonText.delimited_nil
    rw [List.append_nil] at hself
    rw [parse, read_bare hbare, hself]
    rfl

/-! ### Values -/

/-- What follows a value is not taken for a part of it. -/
def Ends (tree : JsonTree) (rest : JsString) : Prop :=
  match tree with
  | .null | .bool _ | .number _ => Closed rest
  | .string _ | .array _ | .object _ => True

theorem ends_of_readScalar {text rest : JsString} {tree : JsonTree}
    (h : readScalar text = some (tree, rest)) :
    (Ends tree rest ↔ Closed rest) ∧ tree.DistinctKeys ∧ tree.nesting = 0 := by
  obtain ⟨front, -, hscalar⟩ := scalar_of_readScalar h
  generalize chars front = lexeme at hscalar
  cases hscalar with
  | true | false | null | number => exact ⟨Iff.rfl, trivial, rfl⟩

theorem Closed.ends {rest : JsString} (h : Closed rest) (tree : JsonTree) : Ends tree rest := by
  cases tree <;> first | exact h | trivial

/-- A delimiter behind white space ends a scalar. -/
theorem closed_of_head? {rest : JsString}
    (h : ∀ unit, (skipSpace rest).head? = some unit → inScalar unit = false) : Closed rest := by
  intro unit hunit
  cases rest with
  | nil => cases hunit
  | cons first rest =>
    cases hunit
    by_cases hspace : UnitText.isSpace unit = true
    · exact inScalar_of_isSpace hspace
    · refine h unit ?_
      rw [skipSpace, List.dropWhile_cons_of_neg hspace]
      rfl

theorem closed_of_close {rest : JsString} {unit : UInt16}
    (h : (skipSpace rest).head? = some unit) (hunit : inScalar unit = false) : Closed rest :=
  closed_of_head? fun other hother => by
    obtain rfl := Option.some.inj (h.symm.trans hother)
    exact hunit

/-- What the scanner accepts, at some fuel, in terms of what can be read there. -/
structure Agrees (fuel : ℕ) : Prop where
  value : ∀ depth text rest, parseValue fuel depth text = .ok rest ↔
    ∃ tree, readValue fuel text = some (tree, rest) ∧ Ends tree rest ∧ tree.DistinctKeys ∧
      depth + tree.nesting ≤ 32
  members : ∀ depth keys text rest, parseMembers fuel depth keys text = .ok rest ↔
    ∃ members, readMembers fuel text = some (members, rest) ∧
      (members.map Prod.fst).Nodup ∧ (∀ key ∈ members.map Prod.fst, key ∉ keys) ∧
        JsonTree.DistinctMembers members ∧ depth + JsonTree.nestingMembers members ≤ 32
  items : ∀ depth text rest, parseItems fuel depth text = .ok rest ↔
    ∃ items, readItems fuel text = some (items, rest) ∧ JsonTree.DistinctItems items ∧
      depth + JsonTree.nestingItems items ≤ 32

theorem Agrees.succ_items {fuel : ℕ} (h : Agrees fuel) (depth : ℕ) (text rest : JsString) :
    parseItems (fuel + 1) depth text = .ok rest ↔
      ∃ items, readItems (fuel + 1) text = some (items, rest) ∧ JsonTree.DistinctItems items ∧
        depth + JsonTree.nestingItems items ≤ 32 := by
  simp only [parseItems, readItems, bind_eq_ok_iff, h.value]
  constructor
  · rintro ⟨after, ⟨tree, hread, hends, hdistinct, hnesting⟩, hclose⟩
    simp only [hread, Option.bind_eq_bind, Option.bind_some]
    split_ifs at hclose ⊢ with hbracket hcomma
    · cases hclose
      refine ⟨[tree], rfl, ⟨hdistinct, trivial⟩, ?_⟩
      simp only [JsonTree.nestingItems]
      omega
    · obtain ⟨items, hitems, hrest, hlimit⟩ := (h.items _ _ _).mp hclose
      refine ⟨tree :: items, ?_, ⟨hdistinct, hrest⟩, ?_⟩
      · rw [hitems]
        rfl
      · simp only [JsonTree.nestingItems]
        omega
  · rintro ⟨items, hread, hdistinct, hnesting⟩
    obtain ⟨⟨tree, after⟩, hvalue, hclose⟩ := Option.bind_eq_some_iff.mp hread
    dsimp only at hclose
    refine ⟨after, ?_⟩
    split_ifs at hclose ⊢ with hbracket hcomma
    · cases hclose
      simp only [JsonTree.nestingItems] at hnesting
      exact ⟨⟨tree, hvalue, (closed_of_close hbracket (by decide)).ends tree, hdistinct.1,
        by omega⟩, rfl⟩
    · obtain ⟨⟨others, left⟩, hothers, hclose⟩ := Option.bind_eq_some_iff.mp hclose
      cases hclose
      simp only [JsonTree.nestingItems] at hnesting
      have hclosed := closed_of_close (not_not.mp hcomma) (by decide)
      exact ⟨⟨tree, hvalue, hclosed.ends tree, hdistinct.1, by omega⟩,
        (h.items _ _ _).mpr ⟨others, hothers, hdistinct.2, by omega⟩⟩

theorem Agrees.succ_members {fuel : ℕ} (h : Agrees fuel) (depth : ℕ) (keys : List JsString)
    (text rest : JsString) :
    parseMembers (fuel + 1) depth keys text = .ok rest ↔
      ∃ members, readMembers (fuel + 1) text = some (members, rest) ∧
        (members.map Prod.fst).Nodup ∧ (∀ key ∈ members.map Prod.fst, key ∉ keys) ∧
          JsonTree.DistinctMembers members ∧ depth + JsonTree.nestingMembers members ≤ 32 := by
  simp only [parseMembers, readMembers, bind_eq_ok_iff, Prod.exists, parseString_eq_ok_iff]
  constructor
  · rintro ⟨key, afterKey, hkey, hscan⟩
    by_cases hfresh : key ∈ keys
    · rw [if_pos hfresh] at hscan
      cases hscan
    rw [if_neg hfresh] at hscan
    simp only [hkey, Option.bind_eq_bind, Option.bind_some]
    split_ifs at hscan ⊢ with hcolon
    simp only [bind_eq_ok_iff, h.value] at hscan
    obtain ⟨after, ⟨tree, hread, hends, hdistinct, hnesting⟩, hclose⟩ := hscan
    simp only [hread, Option.bind_some]
    split_ifs at hclose ⊢ with hbrace hcomma
    · cases hclose
      refine ⟨[(key, tree)], rfl, by simp, by simpa using hfresh, ⟨hdistinct, trivial⟩, ?_⟩
      simp only [JsonTree.nestingMembers]
      omega
    · obtain ⟨members, hmembers, hnodup, hnew, hrest, hlimit⟩ := (h.members _ _ _ _).mp hclose
      refine ⟨(key, tree) :: members, ?_, ?_, ?_, ⟨hdistinct, hrest⟩, ?_⟩
      · rw [hmembers]
        rfl
      · exact List.nodup_cons.mpr ⟨fun hmem => hnew key hmem List.mem_cons_self, hnodup⟩
      · intro other hother
        obtain rfl | hother := List.mem_cons.mp hother
        · exact hfresh
        · exact fun hold => hnew other hother (List.mem_cons_of_mem _ hold)
      · simp only [JsonTree.nestingMembers]
        omega
  · rintro ⟨members, hread, hnodup, hnew, hdistinct, hnesting⟩
    obtain ⟨⟨key, afterKey⟩, hkey, hread⟩ := Option.bind_eq_some_iff.mp hread
    dsimp only at hread
    refine ⟨key, afterKey, hkey, ?_⟩
    split_ifs at hread with hcolon
    obtain ⟨⟨tree, after⟩, hvalue, hclose⟩ := Option.bind_eq_some_iff.mp hread
    dsimp only at hclose
    split_ifs at hclose with hbrace hcomma
    · cases hclose
      simp only [JsonTree.nestingMembers] at hnesting
      rw [if_neg (hnew key List.mem_cons_self), if_neg hcolon, bind_eq_ok_iff]
      refine ⟨after, (h.value _ _ _).mpr ⟨tree, hvalue,
        (closed_of_close hbrace (by decide)).ends tree, hdistinct.1, by omega⟩, if_pos hbrace⟩
    · obtain ⟨⟨others, left⟩, hothers, hclose⟩ := Option.bind_eq_some_iff.mp hclose
      cases hclose
      simp only [JsonTree.nestingMembers] at hnesting
      rw [List.map_cons, List.nodup_cons] at hnodup
      rw [if_neg (hnew key List.mem_cons_self), if_neg hcolon, bind_eq_ok_iff]
      refine ⟨after, (h.value _ _ _).mpr ⟨tree, hvalue,
        (closed_of_close hcomma (by decide)).ends tree, hdistinct.1, by omega⟩, ?_⟩
      rw [if_neg hbrace, if_neg (not_not.mpr hcomma)]
      refine (h.members _ _ _ _).mpr ⟨others, hothers, hnodup.2, ?_, hdistinct.2, by omega⟩
      intro other hother hold
      obtain rfl | hold := List.mem_cons.mp hold
      · exact hnodup.1 hother
      · exact hnew other (List.mem_cons_of_mem _ hother) hold

theorem Agrees.succ_value {fuel : ℕ} (h : Agrees fuel) (depth : ℕ) (text rest : JsString) :
    parseValue (fuel + 1) depth text = .ok rest ↔
      ∃ tree, readValue (fuel + 1) text = some (tree, rest) ∧ Ends tree rest ∧
        tree.DistinctKeys ∧ depth + tree.nesting ≤ 32 := by
  simp only [parseValue, readValue]
  by_cases hdepth : depth > 32
  · rw [if_pos hdepth]
    constructor
    · intro h
      cases h
    · rintro ⟨tree, -, -, -, hnesting⟩
      omega
  rw [if_neg hdepth]
  cases hskip : skipSpace text with
  | nil => simp
  | cons unit after =>
    have hspace : UnitText.isSpace unit = false := by
      have hhead := List.head?_dropWhile_not UnitText.isSpace text
      rw [show text.dropWhile UnitText.isSpace = unit :: after from hskip] at hhead
      exact hhead
    dsimp only
    by_cases hbrace : unit = jsChar '\x7b'
    · simp only [if_pos hbrace]
      split_ifs with hempty
      · constructor
        · intro hok
          cases hok
          exact ⟨.object [], rfl, trivial, ⟨List.nodup_nil, trivial⟩, Nat.not_lt.mp hdepth⟩
        · rintro ⟨tree, hread, -⟩
          cases hread
          rfl
      · rw [h.members]
        constructor
        · rintro ⟨members, hread, hnodup, -, hdistinct, hnesting⟩
          exact ⟨.object members, by rw [hread]; rfl, trivial, ⟨hnodup, hdistinct⟩, hnesting⟩
        · rintro ⟨tree, hread, -, hdistinct, hnesting⟩
          obtain ⟨⟨members, left⟩, hmembers, hread⟩ := Option.bind_eq_some_iff.mp hread
          cases hread
          exact ⟨members, hmembers, hdistinct.1, by simp, hdistinct.2, hnesting⟩
    by_cases hbracket : unit = jsChar '['
    · simp only [if_neg hbrace, if_pos hbracket]
      split_ifs with hempty
      · constructor
        · intro hok
          cases hok
          exact ⟨.array [], rfl, trivial, trivial, Nat.not_lt.mp hdepth⟩
        · rintro ⟨tree, hread, -⟩
          cases hread
          rfl
      · rw [h.items]
        constructor
        · rintro ⟨items, hread, hdistinct, hnesting⟩
          exact ⟨.array items, by rw [hread]; rfl, trivial, hdistinct, hnesting⟩
        · rintro ⟨tree, hread, -, hdistinct, hnesting⟩
          obtain ⟨⟨items, left⟩, hitems, hread⟩ := Option.bind_eq_some_iff.mp hread
          cases hread
          exact ⟨items, hitems, hdistinct, hnesting⟩
    by_cases hquote : unit = jsChar '"'
    · simp only [if_neg hbrace, if_neg hbracket, if_pos hquote, bind_eq_ok_iff, Prod.exists,
        parseString_eq_ok_iff, readString]
      constructor
      · rintro ⟨units, left, hread, hok⟩
        cases hok
        exact ⟨.string units, by rw [hread]; rfl, trivial, trivial, Nat.not_lt.mp hdepth⟩
      · rintro ⟨tree, hread, -⟩
        obtain ⟨⟨units, left⟩, hunits, hread⟩ := Option.bind_eq_some_iff.mp hread
        cases hread
        exact ⟨units, _, hunits, rfl⟩
    simp only [if_neg hbrace, if_neg hbracket, if_neg hquote]
    have hscalar := @scan_scalar_iff unit ⟨hbrace, hbracket, hquote, hspace⟩ after rest
    constructor
    · intro hok
      split_ifs at hok with hrun
      obtain ⟨value, hvalue, hok⟩ := bind_eq_ok_iff.mp hok
      obtain ⟨tree, hread, hclosed⟩ := hscalar.mp
        ⟨hrun, ⟨value, jsonParse_eq_ok_iff.mp hvalue⟩, Except.ok.inj hok⟩
      obtain ⟨hends, hdistinct, hnesting⟩ := ends_of_readScalar hread
      exact ⟨tree, hread, hends.mpr hclosed, hdistinct, by omega⟩
    · rintro ⟨tree, hread, hends, -, -⟩
      obtain ⟨hrun, ⟨value, hvalue⟩, hrest⟩ := hscalar.mpr
        ⟨tree, hread, (ends_of_readScalar hread).1.mp hends⟩
      rw [if_neg hrun, bind_eq_ok_iff]
      exact ⟨value, jsonParse_eq_ok_iff.mpr hvalue, congrArg Except.ok hrest⟩

/-- **The scanner and the reader** agree at every fuel. -/
theorem agrees (fuel : ℕ) : Agrees fuel := by
  induction fuel with
  | zero =>
    refine ⟨fun depth text rest => ?_, fun depth keys text rest => ?_,
      fun depth text rest => ?_⟩
    · simp [parseValue, readValue]
    · simp [parseMembers, readMembers]
    · simp [parseItems, readItems]
  | succ fuel ih => exact ⟨ih.succ_value, ih.succ_members, ih.succ_items⟩

/-- The fuel is enough for the scanner too. -/
theorem parseValue_fuel {fuel : ℕ} {text : JsString} (h : 2 * text.length + 1 ≤ fuel)
    (depth : ℕ) (rest : JsString) :
    parseValue fuel depth text = .ok rest ↔
      parseValue (2 * text.length + 1) depth text = .ok rest := by
  rw [(agrees _).value, (agrees _).value, readValue_fuel h]

/-- **`parseStrictJson` is a strict `JSON.parse`.**  It returns a value exactly if `JSON.parse`
does, no object of the text has two keys that are equal after unescaping, and no value is
enclosed in more than 32 arrays or objects; and it is the same value. -/
theorem strict_json_iff (text : JsString) (value : JsValue) :
    parseStrictJson text = .ok value ↔
      parse text = some value ∧ ∃ tree, UnitText.read text = some tree ∧ tree.DistinctKeys ∧
        tree.nesting ≤ 32 := by
  simp only [parseStrictJson, bind_eq_ok_iff, (agrees _).value, Nat.zero_add]
  constructor
  · rintro ⟨rest, ⟨tree, hread, -, hdistinct, hnesting⟩, hok⟩
    split_ifs at hok with hrest
    refine ⟨jsonParse_eq_ok_iff.mp hok, tree, ?_, hdistinct, hnesting⟩
    simp only [UnitText.read, hread, Option.bind_eq_bind, Option.bind_some]
    exact if_pos (not_not.mp hrest)
  · rintro ⟨hparse, tree, hread, hdistinct, hnesting⟩
    obtain ⟨⟨found, rest⟩, hvalue, hread⟩ := Option.bind_eq_some_iff.mp hread
    dsimp only at hread
    split_ifs at hread with hrest
    cases hread
    refine ⟨rest, ⟨tree, hvalue, (closed_of_head? ?_).ends tree, hdistinct, hnesting⟩, ?_⟩
    · simp [hrest]
    · rw [if_neg (not_not.mpr hrest)]
      exact jsonParse_eq_ok_iff.mpr hparse

end StrictJson

end EcSystemCore.Web
