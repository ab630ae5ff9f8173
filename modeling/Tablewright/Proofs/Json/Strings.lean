import Tablewright.Json.Parser
import Tablewright.Json.Printer

namespace Tablewright.Json.Parser

/-!
# Strings that are read back

Every character of a string is written as itself or as an escape, and read as
the same character again.
-/

section Steps

variable (rest : List Char)

/-- A one-letter escape stands for a character. -/
theorem stringBody?_escape
    {letter character : Char}
    (notUnit : letter ≠ 'u')
    (escape : simpleEscape? letter = some character) :
    stringBody? ('\\' :: letter :: rest) =
      (stringBody? rest).map
        fun (text, rest) => (character :: text, rest) := by
  rw [stringBody?]
  · rw [escape]
  · rintro _ _ _ _ _ rfl
    exact (notUnit rfl).elim

/-- The escape of a code unit below the surrogates stands for the character
of that code. -/
theorem stringBody?_unit
    {first second third fourth : Char}
    {unit : Nat}
    (isUnit : codeUnit? first second third fourth = some unit)
    (basic : unit < 0xd800) :
    stringBody?
        ('\\' :: 'u' :: first :: second :: third :: fourth :: rest) =
      (stringBody? rest).map
        fun (text, rest) => (Char.ofNat unit :: text, rest) := by
  rw [stringBody?]
  simp [isUnit, basic]

/-- Any other character stands for itself. -/
theorem stringBody?_plain
    {character : Char}
    (notQuote : character ≠ '"')
    (notBackslash : character ≠ '\\')
    (printable : ¬ character < ' ') :
    stringBody? (character :: rest) =
      (stringBody? rest).map
        fun (text, rest) => (character :: text, rest) := by
  rw [stringBody?]
  · simp [printable, notBackslash]
  · exact notQuote
  · intros
    contradiction
  · intros
    contradiction

end Steps

/-- The hexadecimal digits of a control character are read back. -/
theorem codeUnit?_hexadecimalDigit :
    ∀ code < 32,
      codeUnit? '0' '0' (hexadecimalDigit (code / 16))
          (hexadecimalDigit (code % 16)) =
        some code := by
  decide

/-- A written character is read back. -/
theorem stringBody?_writeCharacter
    (character : Char)
    (rest : List Char) :
    stringBody? (writeCharacter character ++ rest) =
      (stringBody? rest).map
        fun (text, rest) => (character :: text, rest) := by
  unfold writeCharacter
  split
  · exact stringBody?_escape rest (by decide) rfl
  · exact stringBody?_escape rest (by decide) rfl
  · exact stringBody?_escape rest (by decide) rfl
  · exact stringBody?_escape rest (by decide) rfl
  · exact stringBody?_escape rest (by decide) rfl
  · exact stringBody?_escape rest (by decide) rfl
  · exact stringBody?_escape rest (by decide) rfl
  · rename_i notQuote notBackslash _ _ _ _ _
    split
    · rename_i control
      have below : character.toNat < 32 := control
      have isUnit := codeUnit?_hexadecimalDigit _ below
      have read := stringBody?_unit rest isUnit (by omega)
      rw [Char.ofNat_toNat] at read
      exact read
    · rename_i printable
      exact stringBody?_plain rest notQuote notBackslash printable

/-- A written string is read back up to its closing quotation mark. -/
theorem stringBody?_flatMap_writeCharacter
    (text rest : List Char) :
    stringBody? (text.flatMap writeCharacter ++ '"' :: rest) =
      some (text, rest) := by
  induction text with
  | nil =>
      rw [List.flatMap_nil, List.nil_append, stringBody?]
  | cons first others inductionHypothesis =>
      rw [List.flatMap_cons, List.append_assoc,
        stringBody?_writeCharacter, inductionHypothesis]
      rfl

end Tablewright.Json.Parser
