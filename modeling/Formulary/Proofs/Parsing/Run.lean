import Formulary.Parsing.Parser

/-!
# A parse token by token

A parse is a loop of turns, and a turn is a loop of tokens.  It makes no
difference where a turn ends: `readLevels_of_token` and `readLevels_of_end`
say what the whole loop does at the next token and at the end of a level.
-/

namespace Formulary.FormulaText

variable (text : FormulaText)

/-- A turn by its first token. -/
theorem turn_eq
    (reader : Reader) :
    text.turn reader =
      match text.nextCharacter? reader.level with
      | none => .ok (reader, false)
      | some character =>
          match text.readToken reader character with
          | .error fault => .error fault
          | .ok (reached, true) => .ok (reached, true)
          | .ok (reached, false) => text.turn reached := by
  rw [turn]
  split
  · rename_i found
    simp only [found]
  · rename_i character found
    split
    · rename_i read
      simp only [found, read]
    · rename_i read
      simp only [found, read]
    · rename_i read
      simp only [found, read]

/-- The loop by its first turn. -/
theorem readLevels_eq
    (progress : Progress) :
    text.readLevels progress =
      match text.takeTurn progress with
      | .error fault => .error fault
      | .ok (.finished levels) => .ok levels
      | .ok (.continuing reached) => text.readLevels reached := by
  rw [readLevels]
  split
  · rename_i taken
    simp only [taken]
  · rename_i taken
    simp only [taken]
  · rename_i taken
    simp only [taken]

/-- The loop reads the next token of a level and goes on. -/
theorem readLevels_of_token
    {reader : Reader}
    {character : Char}
    (found : text.nextCharacter? reader.level = some character)
    (finished : List FinishedLevel) :
    text.readLevels ⟨reader, finished⟩ =
      match text.readToken reader character with
      | .error fault => .error fault
      | .ok (reached, _) => text.readLevels ⟨reached, finished⟩ := by
  have turned := text.turn_eq reader
  simp only [found] at turned
  rw [readLevels_eq, takeTurn, turned]
  cases text.readToken reader character with
  | error fault => rfl
  | ok result =>
      rcases result with ⟨reached, moved⟩
      cases moved with
      | true => rfl
      | false =>
          simp only
          rw [text.readLevels_eq ⟨reached, finished⟩, takeTurn]

/-- At the end of a level the loop goes on from the complete chain. -/
theorem readLevels_of_end
    {reader : Reader}
    (ended : text.nextCharacter? reader.level = none)
    (finished : List FinishedLevel) :
    text.readLevels ⟨reader, finished⟩ =
      match text.completeChain reader.level with
      | .error fault => .error fault
      | .ok chain =>
          match finishChain reader chain finished with
          | .continuing reached => text.readLevels reached
          | .finished levels => .ok levels := by
  have turned := text.turn_eq reader
  simp only [ended] at turned
  rw [readLevels_eq, takeTurn, turned]
  cases completed : text.completeChain reader.level with
  | error fault => simp only [completed]
  | ok chain =>
      simp only [completed]
      cases finishChain reader chain finished with
      | continuing reached => rfl
      | finished levels => rfl

end Formulary.FormulaText

namespace Formulary.Formula

variable {formula : String}

/-- A text that is not empty is read, and its levels are assembled. -/
theorem parse_eq_map
    (precedence : Precedence)
    (parameters : List String)
    (nonempty : formula ≠ "") :
    let text := FormulaText.ofString precedence parameters formula
    parse precedence parameters formula =
      (text.readLevels text.start).map (assemble text.characters.size) := by
  simp only
  rw [parse, if_neg (by rwa [String.isEmpty_iff])]
  simp only
  cases
      (FormulaText.ofString precedence parameters formula).readLevels
        (FormulaText.ofString precedence parameters formula).start with
  | error fault => rfl
  | ok levels => rfl

/-- The errors of a text that is not empty are those of reading it. -/
theorem parse_eq_error_iff_readLevels
    (precedence : Precedence)
    (parameters : List String)
    (nonempty : formula ≠ "")
    (fault : ParseError) :
    let text := FormulaText.ofString precedence parameters formula
    parse precedence parameters formula = .error fault ↔
      text.readLevels text.start = .error fault := by
  simp only
  rw [parse_eq_map precedence parameters nonempty]
  cases
      (FormulaText.ofString precedence parameters formula).readLevels
        (FormulaText.ofString precedence parameters formula).start with
  | error first =>
      simp only [Except.map]
      rw [Except.error.injEq, Except.error.injEq]
  | ok levels => exact ⟨nofun, nofun⟩

end Formulary.Formula
