import EcSystemCore.Web.JsonText

/-!
# The numbers of JSON

The grammar of numbers in RFC 8259, independent of any reader.  Its numbers are exactly what
`JsonText.readNumber` reads (`number_of_readNumber`, `readNumber_of_number`).
-/

namespace EcSystemCore.Web

namespace Grammar

/-- Decimal digits. -/
def Digits (text : List Char) : Prop := ∀ c ∈ text, '0' ≤ c ∧ c ≤ '9'

/-- A number: an optional minus sign, digits without a zero in front of others, an optional
fraction and an optional exponent. -/
structure Number (number : NumberText) : Prop where
  minus : number.minus = [] ∨ number.minus = ['-']
  whole : number.whole = ['0'] ∨
    number.whole ≠ [] ∧ number.whole.head? ≠ some '0' ∧ Digits number.whole
  fraction : number.point = [] ∧ number.fraction = [] ∨
    number.point = ['.'] ∧ number.fraction ≠ [] ∧ Digits number.fraction
  exponent : number.letter = [] ∧ number.sign = [] ∧ number.digits = [] ∨
    (number.letter = ['e'] ∨ number.letter = ['E']) ∧
      (number.sign = [] ∨ number.sign = ['+'] ∨ number.sign = ['-']) ∧
      number.digits ≠ [] ∧ Digits number.digits

end Grammar

namespace JsonText

open Grammar

theorem isDecimal_iff {c : Char} : isDecimal c = true ↔ '0' ≤ c ∧ c ≤ '9' := by
  simp [isDecimal]

theorem readLiteral_eq_some_iff {literal text rest : List Char} :
    readLiteral literal text = some rest ↔ text = literal ++ rest := by
  fun_induction readLiteral literal text with
  | case1 text => simp [eq_comm]
  | case2 => simp
  | case3 expected literal text ih => simpa using ih
  | case4 expected literal c text hne => simp [hne]

/-! ### Numbers -/

/-- The text behind a number: nothing that would make it longer. -/
def Delimited (rest : List Char) : Prop :=
  ∀ c, rest.head? = some c → isDecimal c = false ∧ c ≠ '.' ∧ c ≠ 'e' ∧ c ≠ 'E'

theorem readDigits_append {digits rest : List Char} (hne : digits ≠ []) (hdigits : Digits digits)
    (hrest : ∀ c, rest.head? = some c → isDecimal c = false) :
    readDigits (digits ++ rest) = some (digits, rest) := by
  have hall : ∀ c ∈ digits, isDecimal c = true := fun c hc => isDecimal_iff.mpr (hdigits c hc)
  have hhead : (digits ++ rest).head?.any isDecimal = true := by
    cases digits with
    | nil => exact absurd rfl hne
    | cons c digits => simpa using hall c List.mem_cons_self
  rw [readDigits, if_pos hhead, List.takeWhile_append_of_pos hall, List.dropWhile_append_of_pos hall]
  cases rest with
  | nil => simp
  | cons c rest =>
    have hc : ¬isDecimal c = true := by simpa using hrest c rfl
    rw [List.takeWhile_cons_of_neg hc, List.dropWhile_cons_of_neg hc, List.append_nil]

theorem readDigits_sound {text digits rest : List Char}
    (h : readDigits text = some (digits, rest)) :
    text = digits ++ rest ∧ digits ≠ [] ∧ Digits digits := by
  obtain ⟨hne, hdigits⟩ := isDecimal_of_readDigits h
  unfold readDigits at h
  split at h
  · cases h
    exact ⟨List.takeWhile_append_dropWhile.symm, hne, fun c hc => isDecimal_iff.mp (hdigits c hc)⟩
  · cases h

theorem readMinus_sound (text : List Char) :
    text = (readMinus text).1 ++ (readMinus text).2 ∧
      ((readMinus text).1 = [] ∨ (readMinus text).1 = ['-']) := by
  unfold readMinus
  split
  · simp
  · split_ifs with hc
    · simp [hc]
    · simp

theorem readWhole_sound {text whole rest : List Char} (h : readWhole text = some (whole, rest)) :
    text = whole ++ rest ∧
      (whole = ['0'] ∨ whole ≠ [] ∧ whole.head? ≠ some '0' ∧ Digits whole) := by
  unfold readWhole at h
  split at h
  · cases h
  case h_2 c after =>
    split_ifs at h with hzero
    · cases h
      exact ⟨by rw [hzero]; rfl, .inl rfl⟩
    · obtain ⟨htext, hne, hdigits⟩ := readDigits_sound h
      refine ⟨htext, .inr ⟨hne, fun hhead => hzero ?_, hdigits⟩⟩
      cases whole with
      | nil => exact absurd rfl hne
      | cons d whole =>
        rw [List.cons_append, List.cons.injEq] at htext
        rw [htext.1]
        simpa using hhead

theorem readFraction_sound {text point fraction rest : List Char}
    (h : readFraction text = some ((point, fraction), rest)) :
    text = point ++ fraction ++ rest ∧
      (point = [] ∧ fraction = [] ∨ point = ['.'] ∧ fraction ≠ [] ∧ Digits fraction) := by
  unfold readFraction at h
  split at h
  · cases h
    simp
  · split_ifs at h with hpoint
    · simp only [Option.bind_eq_bind, Option.bind_eq_some_iff] at h
      obtain ⟨⟨_, _⟩, hdigits, h⟩ := h
      cases h
      obtain ⟨rfl, hne, hall⟩ := readDigits_sound hdigits
      exact ⟨by simp [hpoint], .inr ⟨rfl, hne, hall⟩⟩
    · cases h
      simp

theorem readSign_sound (text : List Char) :
    text = (readSign text).1 ++ (readSign text).2 ∧
      ((readSign text).1 = [] ∨ (readSign text).1 = ['+'] ∨ (readSign text).1 = ['-']) := by
  unfold readSign
  split
  · simp
  · split_ifs with hc
    · rcases hc with rfl | rfl <;> simp
    · simp

theorem readExponent_sound {text letter sign digits rest : List Char}
    (h : readExponent text = some ((letter, sign, digits), rest)) :
    text = letter ++ sign ++ digits ++ rest ∧
      (letter = [] ∧ sign = [] ∧ digits = [] ∨
        (letter = ['e'] ∨ letter = ['E']) ∧ (sign = [] ∨ sign = ['+'] ∨ sign = ['-']) ∧
          digits ≠ [] ∧ Digits digits) := by
  unfold readExponent at h
  split at h
  · cases h
    simp
  case h_2 c after =>
    split_ifs at h with hletter
    · simp only [Option.bind_eq_bind, Option.bind_eq_some_iff] at h
      obtain ⟨⟨_, _⟩, hdigits, h⟩ := h
      cases h
      obtain ⟨hafter, hne, hall⟩ := readDigits_sound hdigits
      obtain ⟨hsplit, hsign⟩ := readSign_sound after
      refine ⟨?_, .inr ⟨?_, hsign, hne, hall⟩⟩
      · rw [List.append_assoc, ← hafter, List.append_assoc, ← hsplit]
        rfl
      · rcases hletter with rfl | rfl
        · exact .inl rfl
        · exact .inr rfl
    · cases h
      simp

theorem number_of_readNumber {text rest : List Char} {number : NumberText}
    (h : readNumber text = some (number, rest)) :
    Number number ∧ text = number.lexeme ++ rest := by
  simp only [readNumber, Option.bind_eq_bind, Option.bind_eq_some_iff] at h
  obtain ⟨⟨whole, afterWhole⟩, hwhole, ⟨⟨point, fraction⟩, afterFraction⟩, hfraction,
    ⟨⟨letter, sign, digits⟩, afterExponent⟩, hexponent, h⟩ := h
  cases h
  dsimp only at hfraction hexponent
  obtain ⟨hminus, hminusShape⟩ := readMinus_sound text
  obtain ⟨hwholeText, hwholeShape⟩ := readWhole_sound hwhole
  obtain ⟨hfractionText, hfractionShape⟩ := readFraction_sound hfraction
  obtain ⟨hexponentText, hexponentShape⟩ := readExponent_sound hexponent
  refine ⟨⟨hminusShape, hwholeShape, hfractionShape, hexponentShape⟩, ?_⟩
  conv_lhs => rw [hminus, hwholeText, hfractionText, hexponentText]
  simp [NumberText.lexeme, List.append_assoc]

theorem readNumber_of_number {number : NumberText} (h : Number number) {rest : List Char}
    (hrest : Delimited rest) : readNumber (number.lexeme ++ rest) = some (number, rest) := by
  obtain ⟨minus, whole, point, fraction, letter, sign, digits⟩ := number
  obtain ⟨hminus, hwhole, hfraction, hexponent⟩ := h
  dsimp only at hminus hwhole hfraction hexponent
  -- from the right to the left: what stands behind each part
  have hexponentRead : readExponent (letter ++ (sign ++ (digits ++ rest))) =
      some ((letter, sign, digits), rest) := by
    rcases hexponent with ⟨rfl, rfl, rfl⟩ | ⟨hletter, hsign, hne, hdigits⟩
    · cases rest with
      | nil => rfl
      | cons c rest =>
        have hc := hrest c rfl
        simp [readExponent, hc.2.2.1, hc.2.2.2]
    · have hread := readDigits_append hne hdigits fun c hc => (hrest c hc).1
      have hsignRead : readSign (sign ++ (digits ++ rest)) = (sign, digits ++ rest) := by
        rcases hsign with rfl | rfl | rfl
        · cases digits with
          | nil => exact absurd rfl hne
          | cons d digits =>
            have hd := hdigits d List.mem_cons_self
            have hplus : ¬(d = '+' ∨ d = '-') := by
              rintro (rfl | rfl) <;> exact absurd hd (by decide)
            simp [readSign, hplus]
        · rfl
        · rfl
      rcases hletter with rfl | rfl <;> simp [readExponent, hsignRead, hread]
  have hbehind : ∀ c, (letter ++ (sign ++ (digits ++ rest))).head? = some c →
      isDecimal c = false ∧ c ≠ '.' := by
    intro c hc
    rcases hexponent with ⟨rfl, rfl, rfl⟩ | ⟨rfl | rfl, -⟩
    · exact ⟨(hrest c hc).1, (hrest c hc).2.1⟩
    all_goals
      obtain rfl := Option.some.inj hc
      decide
  have hfractionRead : readFraction (point ++ (fraction ++ (letter ++ (sign ++ (digits ++ rest))))) =
      some ((point, fraction), letter ++ (sign ++ (digits ++ rest))) := by
    rcases hfraction with ⟨rfl, rfl⟩ | ⟨rfl, hne, hdigits⟩
    · rw [List.nil_append, List.nil_append]
      cases hhead : letter ++ (sign ++ (digits ++ rest)) with
      | nil => rfl
      | cons c text =>
        have hc : c ≠ '.' := (hbehind c (by rw [hhead]; rfl)).2
        simp [readFraction, hc]
    · have hread := readDigits_append hne hdigits fun c hc => (hbehind c hc).1
      simp [readFraction, hread]
  have hbehind' : ∀ c, (point ++ (fraction ++ (letter ++ (sign ++ (digits ++ rest))))).head? =
      some c → isDecimal c = false := by
    intro c hc
    rcases hfraction with ⟨rfl, rfl⟩ | ⟨rfl, -⟩
    · exact (hbehind c hc).1
    · obtain rfl := Option.some.inj hc
      decide
  have hwholeRead : readWhole (whole ++ (point ++ (fraction ++ (letter ++ (sign ++
      (digits ++ rest)))))) =
      some (whole, point ++ (fraction ++ (letter ++ (sign ++ (digits ++ rest))))) := by
    rcases hwhole with rfl | ⟨hne, hzero, hdigits⟩
    · have hnone : (point ++ (fraction ++ (letter ++ (sign ++ (digits ++ rest))))).head?.any
          isDecimal = false := by
        cases hhead : (point ++ (fraction ++ (letter ++ (sign ++ (digits ++ rest))))).head? with
        | none => rfl
        | some c => exact hbehind' c hhead
      rw [List.singleton_append, readWhole, if_pos rfl, hnone]
      rfl
    · have hread := readDigits_append hne hdigits hbehind'
      cases whole with
      | nil => exact absurd rfl hne
      | cons d whole =>
        have hd : d ≠ '0' := fun hd => hzero (by rw [hd]; rfl)
        rw [List.cons_append] at hread ⊢
        rw [readWhole, if_neg hd, hread]
  have hminusRead : ∀ text, text = whole ++ (point ++ (fraction ++ (letter ++ (sign ++
      (digits ++ rest))))) → readMinus (minus ++ text) = (minus, text) := by
    rintro text rfl
    rcases hminus with rfl | rfl
    · cases whole with
      | nil => rcases hwhole with h | h <;> simp at h
      | cons d whole =>
        have hd : d ≠ '-' := by
          rintro rfl
          rcases hwhole with h | ⟨-, -, h⟩
          · simp at h
          · exact absurd (h '-' List.mem_cons_self) (by decide)
        simp [readMinus, hd]
    · rfl
  simp only [NumberText.lexeme, List.append_assoc]
  rw [readNumber, hminusRead _ rfl, hwholeRead]
  simp only [Option.bind_eq_bind, Option.bind_some, hfractionRead, hexponentRead]
  rfl

theorem delimited_nil : Delimited [] := fun _ h => by cases h

/-- A number starts with a minus sign or a digit. -/
theorem number_head {number : NumberText} (h : Number number) :
    ∃ c rest, number.lexeme = c :: rest ∧ (c = '-' ∨ isDecimal c = true) := by
  obtain ⟨minus, whole, point, fraction, letter, sign, digits⟩ := number
  obtain ⟨hminus, hwhole, -, -⟩ := h
  dsimp only at hminus hwhole
  rcases hminus with rfl | rfl
  · cases whole with
    | nil => rcases hwhole with h | h <;> simp at h
    | cons d whole =>
      refine ⟨d, _, rfl, .inr ?_⟩
      rcases hwhole with h | ⟨-, -, h⟩
      · obtain rfl : d = '0' := by simpa using congrArg List.head? h
        rfl
      · exact isDecimal_iff.mpr (h d List.mem_cons_self)
  · exact ⟨'-', _, rfl, .inl rfl⟩

/-- The characters of a number. -/
theorem mem_lexeme {number : NumberText} (h : Number number) {c : Char}
    (hc : c ∈ number.lexeme) : isDecimal c = true ∨ c ∈ ['-', '+', '.', 'e', 'E'] := by
  obtain ⟨minus, whole, point, fraction, letter, sign, digits⟩ := number
  obtain ⟨hminus, hwhole, hfraction, hexponent⟩ := h
  dsimp only at hminus hwhole hfraction hexponent
  have hdigit : ∀ {text : List Char}, Digits text → c ∈ text →
      isDecimal c = true := fun hdigits hmem => isDecimal_iff.mpr (hdigits c hmem)
  simp only [NumberText.lexeme, List.mem_append] at hc
  rcases hc with (((((hc | hc) | hc) | hc) | hc) | hc) | hc
  · rcases hminus with rfl | rfl <;> simp_all
  · rcases hwhole with rfl | ⟨-, -, hdigits⟩
    · obtain rfl : c = '0' := by simpa using hc
      exact .inl rfl
    · exact .inl (hdigit hdigits hc)
  · rcases hfraction with ⟨rfl, -⟩ | ⟨rfl, -, -⟩ <;> simp_all
  · rcases hfraction with ⟨-, rfl⟩ | ⟨-, -, hdigits⟩
    · simp at hc
    · exact .inl (hdigit hdigits hc)
  · rcases hexponent with ⟨rfl, -, -⟩ | ⟨rfl | rfl, -, -, -⟩ <;> simp_all
  · rcases hexponent with ⟨-, rfl, -⟩ | ⟨-, rfl | rfl | rfl, -, -⟩ <;> simp_all
  · rcases hexponent with ⟨-, -, rfl⟩ | ⟨-, -, -, hdigits⟩
    · simp at hc
    · exact .inl (hdigit hdigits hc)

end JsonText

end EcSystemCore.Web
