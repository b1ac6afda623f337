import SearchPhrase.Json.Printer
import SearchPhrase.Json.Token
import SearchPhrase.Text.Numeral

/-!
# Tokens of printed text

What the printer writes for a string, a number or a mark is read as one token.
-/

namespace SearchPhrase
namespace Json

/-! ## Strings -/

theorem body?_unicodeEscape {a b c d : Char} {code : Nat} (digits : hex4? a b c d = some code)
    (rest : Text) :
    body? ('\\' :: 'u' :: a :: b :: c :: d :: rest) = (body? rest).map (Body.push code 6) := by
  rw [body?, digits]

theorem body?_shortEscape {c : Char} {code : Nat} (short : shortEscape? c = some code)
    (rest : Text) : body? ('\\' :: c :: rest) = (body? rest).map (Body.push code 2) := by
  rw [body?, short]
  rintro a b c d tail rfl
  simp [shortEscape?] at short

theorem body?_plain {c : Char} (printable : ¬c.toNat < 32) (notQuote : c ≠ '"')
    (notBackslash : c ≠ '\\') (rest : Text) :
    body? (c :: rest) = (body? rest).map (Body.push c.toNat 1) := by
  rw [body?, if_neg (by simp [printable, notBackslash])]
  · exact notQuote
  · rintro a b c d tail rfl
    exact absurd rfl notBackslash
  · rintro d tail rfl
    exact absurd rfl notBackslash

theorem hex4?_control {code : Nat} (control : code < 32) :
    hex4? '0' '0' (Nat.digitChar (code / 16)) (Nat.digitChar (code % 16)) = some code := by
  simp only [hex4?, show Hex.value? '0' = some 0 from rfl,
    Hex.value?_digitChar _ (show code / 16 < 16 by omega),
    Hex.value?_digitChar _ (show code % 16 < 16 by omega), Option.bind_eq_bind, Option.bind_some]
  congr 1
  omega

/-- The escape of a character is read as its code. -/
theorem body?_escapeChar_append (c : Char) (rest : Text) :
    body? (escapeChar c ++ rest) = (body? rest).map (Body.push c.toNat (escapeChar c).length) := by
  unfold escapeChar
  split
  · next quote => subst quote; exact body?_shortEscape rfl rest
  split
  · next backslash => subst backslash; exact body?_shortEscape rfl rest
  split
  · next code => rw [code]; exact body?_shortEscape rfl rest
  split
  · next code => rw [code]; exact body?_shortEscape rfl rest
  split
  · next code => rw [code]; exact body?_shortEscape rfl rest
  split
  · next code => rw [code]; exact body?_shortEscape rfl rest
  split
  · next code => rw [code]; exact body?_shortEscape rfl rest
  split
  · next control => exact body?_unicodeEscape (hex4?_control control) rest
  · next notQuote notBackslash _ _ _ _ _ printable =>
      exact body?_plain printable notQuote notBackslash rest

theorem body?_quote (text rest : Text) :
    body? (text.flatMap escapeChar ++ '"' :: rest) =
      some ⟨text.map Char.toNat, (text.flatMap escapeChar).length + 1⟩ := by
  induction text with
  | nil => rfl
  | cons c text ih =>
      rw [List.flatMap_cons, List.append_assoc, body?_escapeChar_append, ih]
      simp only [Option.map_some, Body.push, List.map_cons, List.length_append]
      congr 2
      omega

/-- The code of a character is no half of a surrogate pair. -/
theorem surrogate_toNat (c : Char) :
    isHighSurrogate c.toNat = false ∧ isLowSurrogate c.toNat = false := by
  have valid := c.valid
  rw [UInt32.isValidChar, Nat.isValidChar, show c.val.toNat = c.toNat from rfl] at valid
  simp only [isHighSurrogate, isLowSurrogate, Bool.and_eq_false_iff, decide_eq_false_iff_not]
  omega

/-- The codes of characters make up the text. -/
theorem textOfCodes?_map_toNat (text : Text) : textOfCodes? (text.map Char.toNat) = some text := by
  induction text with
  | nil => rfl
  | cons c text ih =>
      obtain ⟨notHigh, notLow⟩ := surrogate_toNat c
      cases text with
      | nil => simp [textOfCodes?, notHigh, notLow]
      | cons d text =>
          rw [List.map_cons] at ih
          rw [List.map_cons, List.map_cons, textOfCodes?, ih]
          simp [notHigh, notLow]

/-- A written string is one token. -/
theorem token?_quote_append (text rest : Text) :
    token? (quote text ++ rest) = some (.string (some text), (quote text).length) := by
  rw [quote, List.cons_append, List.append_assoc, List.singleton_append, token?, body?_quote]
  simp [textOfCodes?_map_toNat]

/-! ## Numbers -/

/-- A number that comes right before the text does not go on in it. -/
def EndsNumber (rest : Text) : Prop :=
  ∀ c ∈ rest.head?, c.isDigit = false ∧ c ≠ '.' ∧ c ≠ 'e' ∧ c ≠ 'E'

theorem endsNumber_nil : EndsNumber [] := by
  simp [EndsNumber]

theorem endsNumber_cons {c : Char} (other : c.isDigit = false ∧ c ≠ '.' ∧ c ≠ 'e' ∧ c ≠ 'E')
    (rest : Text) : EndsNumber (c :: rest) := by
  intro d same
  obtain rfl : c = d := by simpa using same
  exact other

theorem endsNumber_comma (rest : Text) : EndsNumber (',' :: rest) :=
  endsNumber_cons (by decide) rest

theorem endsNumber_closeArray (rest : Text) : EndsNumber (']' :: rest) :=
  endsNumber_cons (by decide) rest

theorem endsNumber_closeObject (rest : Text) : EndsNumber ('}' :: rest) :=
  endsNumber_cons (by decide) rest

theorem takeWhile_isDigit_of_endsNumber {rest : Text} (ends : EndsNumber rest) :
    rest.takeWhile Char.isDigit = [] := by
  cases rest with
  | nil => rfl
  | cons c rest => simp [(ends c rfl).1]

theorem digits?_numeral_append (n : Nat) {rest : Text} (ends : EndsNumber rest) :
    digits? (Text.numeral n ++ rest) = some (Text.numeral n) := by
  have digits : (Text.numeral n ++ rest).takeWhile Char.isDigit = Text.numeral n := by
    rw [List.takeWhile_append_of_pos fun _ => Text.isDigit_of_mem_numeral,
      takeWhile_isDigit_of_endsNumber ends, List.append_nil]
  simp [digits?, digits, Text.numeral_ne_nil]

theorem head?_numeral_append (n : Nat) (rest : Text) :
    (Text.numeral n ++ rest).head? = (Text.numeral n).head? := by
  cases digits : Text.numeral n with
  | nil => exact absurd digits (Text.numeral_ne_nil n)
  | cons c tail => rfl

/-- Only the numeral of zero begins with a zero. -/
theorem head?_numeral (n : Nat) : (Text.numeral n).head? = some '0' → Text.numeral n = ['0'] := by
  induction n using Nat.strongRecOn with
  | ind n ih =>
      rw [Text.numeral, Nat.toDigits_eq_if (by decide)]
      split
      · next small =>
          simp
      · next large =>
          intro head
          have := ih (n / 10) (by omega)
          rw [← Text.numeral, head?_numeral_append] at head
          have single := this head
          have := congrArg Text.natural? single
          rw [Text.natural?_numeral] at this
          simp [Text.natural?] at this
          have h0 : Nat.ofDigitChars 10 ['0'] 0 = 0 := rfl
          omega

theorem number?_numeral_append (n : Nat) {rest : Text} (ends : EndsNumber rest) :
    number? (Text.numeral n ++ rest) = some (Text.numeral n) := by
  have unsigned : (Text.numeral n ++ rest).head? ≠ some '-' := by
    rw [head?_numeral_append]
    intro minus
    exact absurd (Text.isDigit_of_mem_numeral (List.mem_of_head? minus)) (by decide)
  have whole : wholePart? (Text.numeral n ++ rest) = some (Text.numeral n) := by
    rw [wholePart?, digits?_numeral_append n ends]
    simp only [Option.bind_eq_bind, Option.bind_some]
    rw [if_neg fun zero => zero.2 (head?_numeral n zero.1)]
  have fraction : fractionPart? rest = some [] := by
    unfold fractionPart?
    split
    · exact absurd rfl (ends _ rfl).2.1
    · rfl
  have exponent : exponentPart? rest = some [] := by
    unfold exponentPart?
    split
    · rfl
    · next mark tail => rw [if_neg (by have := ends mark rfl; simp [this])]
  rw [number?, if_neg unsigned]
  simp [whole, fraction, exponent]

theorem token?_of_isDigit {c : Char} (digit : c.isDigit = true) (rest : Text) :
    token? (c :: rest) =
      (number? (c :: rest)).map fun literal => (.number literal, literal.length) := by
  unfold token?
  split <;> first | rfl | simp_all

theorem token?_numeral_append (n : Nat) {rest : Text} (ends : EndsNumber rest) :
    token? (Text.numeral n ++ rest) = some (.number (Text.numeral n), (Text.numeral n).length) := by
  cases literal : Text.numeral n with
  | nil => exact absurd literal (Text.numeral_ne_nil n)
  | cons c tail =>
      have digit : c.isDigit = true := Text.isDigit_of_mem_numeral (n := n) (by simp [literal])
      rw [List.cons_append, token?_of_isDigit digit, ← List.cons_append, ← literal,
        number?_numeral_append n ends]
      rfl

/-! ## Tokens of a text -/

theorem tokensAfter_eq_tokens_drop (skip : Nat) (text : Text) :
    tokensAfter skip text = tokens (text.drop skip) := by
  induction skip generalizing text with
  | zero => rfl
  | succ skip ih =>
      cases text with
      | nil => rfl
      | cons c rest => rw [tokensAfter, ih, List.drop_succ_cons]

theorem tokens_blank {c : Char} (blank : isBlank c = true) (rest : Text) :
    tokens (c :: rest) = tokens rest := by
  rw [tokens, tokensAfter, if_pos blank, tokens]

/-- A text that begins with a token continues with the tokens of what follows. -/
theorem tokens_append {lexeme rest : Text} {token : Token} {c : Char}
    (first : lexeme.head? = some c) (solid : isBlank c = false)
    (whole : token? (lexeme ++ rest) = some (token, lexeme.length)) :
    tokens (lexeme ++ rest) = token :: tokens rest := by
  cases lexeme with
  | nil => simp at first
  | cons d tail =>
      obtain rfl : d = c := by simpa using first
      rw [List.cons_append] at whole ⊢
      rw [tokens, tokensAfter, if_neg (by simp [solid]), whole]
      simp only [List.length_cons, Nat.add_sub_cancel, tokensAfter_eq_tokens_drop, List.drop_left]

theorem tokens_quote_append (text rest : Text) :
    tokens (quote text ++ rest) = .string (some text) :: tokens rest :=
  tokens_append rfl (by decide) (token?_quote_append text rest)

theorem tokens_numeral_append (n : Nat) {rest : Text} (ends : EndsNumber rest) :
    tokens (Text.numeral n ++ rest) = .number (Text.numeral n) :: tokens rest := by
  cases digits : Text.numeral n with
  | nil => exact absurd digits (Text.numeral_ne_nil n)
  | cons c tail =>
      have digit : c.isDigit = true := Text.isDigit_of_mem_numeral (n := n) (by simp [digits])
      rw [← digits]
      refine tokens_append (c := c) (by rw [digits]; rfl) ?_ (token?_numeral_append n ends)
      cases blank : isBlank c
      · rfl
      · simp [isBlank] at blank
        rcases blank with ((rfl | rfl) | rfl) | rfl <;> exact absurd digit (by decide)

@[simp] theorem tokens_openArray (rest : Text) :
    tokens ('[' :: rest) = .openArray :: tokens rest := rfl

@[simp] theorem tokens_closeArray (rest : Text) :
    tokens (']' :: rest) = .closeArray :: tokens rest := rfl

@[simp] theorem tokens_openObject (rest : Text) :
    tokens ('{' :: rest) = .openObject :: tokens rest := rfl

@[simp] theorem tokens_closeObject (rest : Text) :
    tokens ('}' :: rest) = .closeObject :: tokens rest := rfl

@[simp] theorem tokens_colon (rest : Text) :
    tokens (':' :: rest) = .colon :: tokens rest := rfl

@[simp] theorem tokens_comma (rest : Text) :
    tokens (',' :: rest) = .comma :: tokens rest := rfl

@[simp] theorem tokens_space (rest : Text) :
    tokens (' ' :: rest) = tokens rest := rfl

end Json
end SearchPhrase
