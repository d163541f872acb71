import Formulary.Proofs.Parsing.Grouping
import Formulary.Proofs.Parsing.Slice

/-!
# Reading along a syntax tree

Where a level holds the text of a syntax tree, the reader comes to the end of
it with the site that the tree stands for, and puts off the groups of the
tree.  `readLevels_operand` and `readLevels_expression` say so for the parts
of a level, and `readLevels_passage` for a whole one.
-/

namespace Formulary

/-! ## Syntax trees in their places -/

/-- A syntax tree with its place in a text. -/
structure Passage where
  span : Span
  expression : Expression

/-- The span between the brackets of a group that begins at a position. -/
def groupSpan (position : Nat) (body : Expression) : Span :=
  ⟨position + 1, position + 1 + (Expression.text body).length⟩

/-- The operand as it stands in a chain being read, from a position on. -/
def Operand.slot
    (parameters : List String)
    (position : Nat) :
    Operand Word → Operand Slot
  | .atom word => .atom (.atom (word.atom parameters))
  | .group body => .atom (.unread (groupSpan position body))

/-- The group that the operand is, if it is one, with its place. -/
def Operand.passages (position : Nat) : Operand Word → List Passage
  | .atom _ => []
  | .group body => [⟨groupSpan position body, body⟩]

namespace Expression

/-- The site behind a syntax tree that is read from a position on. -/
def siteAt
    (precedence : Precedence)
    (parameters : List String)
    (start : Nat) :
    Expression → Site Slot
  | .single operand => ⟨.single (operand.slot parameters start), []⟩
  | .link before operator operand =>
      (siteAt precedence parameters start before).extend precedence operator
        (operand.slot parameters (start + (text before).length + 1))

/-- The groups of a syntax tree that stands at a position, those inside of groups left out. -/
def passages (start : Nat) : Expression → List Passage
  | .single operand => operand.passages start
  | .link before _ operand =>
      passages start before ++
        operand.passages (start + (text before).length + 1)

end Expression

/-- The nest of a chain whose last token was an operand. -/
def Site.nest {α : Type} (site : Site α) : Nest α :=
  ⟨.complete site.chain, site.outers⟩

/-- The level that is finished when the text of a passage has been read. -/
def Passage.finish
    (precedence : Precedence)
    (parameters : List String)
    (passage : Passage) :
    FinishedLevel :=
  ⟨passage.span,
    (passage.expression.siteAt precedence parameters passage.span.start).close⟩

/-! ## Where words end -/

/-- The text does not begin with a word character. -/
def StopsWord (rest : List Char) : Prop :=
  ∀ character, rest.head? = some character →
    isWordCharacter character = false

/-- The first character behind a word extends neither names nor numerals. -/
theorem StopsWord.kinds
    {rest : List Char}
    (stops : StopsWord rest)
    {character : Char}
    (head : rest.head? = some character) :
    character.isAlpha = false ∧ character.isDigit = false ∧
      (character.isDigit || character == '.') = false := by
  have other := stops character head
  simp only [isWordCharacter, Bool.or_eq_false_iff] at other
  simp only [other, Bool.or_false, and_self]

theorem stopsWord_nil : StopsWord [] := by
  intro character head
  simp at head

theorem stopsWord_symbol
    (operator : Operator)
    (rest : List Char) :
    StopsWord (operator.symbol :: rest) := by
  intro character head
  rw [List.head?_cons, Option.some.injEq] at head
  rw [← head]
  exact operator.isWordCharacter_symbol

/-- The longest row of accepted characters is the front, if what follows is not accepted. -/
theorem takeWhile_append_of_head?
    {accept : Char → Bool}
    {front rest : List Char}
    (accepted : ∀ character ∈ front, accept character = true)
    (stops : ∀ character, rest.head? = some character →
      accept character = false) :
    (front ++ rest).takeWhile accept = front := by
  rw [List.takeWhile_append_of_pos accepted]
  cases rest with
  | nil => simp
  | cons character rest =>
      have rejected := stops character List.head?_cons
      rw [List.takeWhile_cons_of_neg (by rw [rejected]; exact Bool.false_ne_true),
        List.append_nil]

theorem dropWhile_append_of_head?
    {accept : Char → Bool}
    {front rest : List Char}
    (accepted : ∀ character ∈ front, accept character = true)
    (stops : ∀ character, rest.head? = some character →
      accept character = false) :
    (front ++ rest).dropWhile accept = rest := by
  rw [List.dropWhile_append_of_pos accepted]
  cases rest with
  | nil => rfl
  | cons character rest =>
      have rejected := stops character List.head?_cons
      rw [List.dropWhile_cons_of_neg (by rw [rejected]; exact Bool.false_ne_true)]

/-- A name in the parameters is found at its first place. -/
theorem idxOf?_of_mem
    {name : String}
    {parameters : List String}
    (member : name ∈ parameters) :
    parameters.idxOf? name = some (parameters.idxOf name) := by
  induction parameters with
  | nil => simp at member
  | cons parameter parameters hypothesis =>
      rw [List.idxOf?_cons, List.idxOf_cons]
      by_cases same : parameter = name
      · simp [same]
      · have later : name ∈ parameters := by
          rcases List.mem_cons.1 member with equal | later
          · exact absurd equal.symm same
          · exact later
        have differ : (parameter == name) = false := beq_false_of_ne same
        simp [differ, hypothesis later]

namespace FormulaText

variable {text : FormulaText} {span : Span} {position : Nat}
variable {nest : Nest Slot} {deferred : List Span}
variable {finished : List FinishedLevel}

/-! ## Tokens of a level -/

/-- An operand that the draft has room for is added to it. -/
theorem readOperand_of_addOperand?
    {reader : Reader}
    {operand : Operand Slot}
    {draft : Draft Slot}
    (added : reader.level.nest.draft.addOperand? operand = some draft)
    (stop : Nat) :
    text.readOperand reader operand stop = .ok (reader.advance draft stop) := by
  simp only [readOperand, added]

/-- The loop reads the numeral or the name ahead. -/
theorem readLevels_word
    {word : Word}
    {rest : List Char}
    (ahead : text.slice position span.stop = word.text ++ rest)
    (stops : StopsWord rest)
    (known : Operand.Known text.parameters (.atom word))
    {draft : Draft Slot}
    (added :
      nest.draft.addOperand? (.atom (.atom (word.atom text.parameters))) =
        some draft) :
    text.readLevels ⟨⟨⟨span, position, nest⟩, deferred⟩, finished⟩ =
      text.readLevels
        ⟨⟨⟨span, position + word.text.length, ⟨draft, nest.outers⟩⟩, deferred⟩,
          finished⟩ := by
  have head := text.nextCharacter?_eq ⟨span, position, nest⟩
  rw [left, ahead] at head
  cases word with
  | numeral word shape =>
      cases shape with
      | @intro first others digit accepted =>
          have ahead :
              text.left (Reader.level ⟨⟨span, position, nest⟩, deferred⟩) =
                first :: (others ++ rest) :=
            ahead
          have run :
              (others ++ rest).takeWhile (fun character =>
                character.isDigit || character == '.') = others :=
            takeWhile_append_of_head? accepted fun character head =>
              (stops.kinds head).2.2
          rw [text.readLevels_of_token head, readToken, if_pos digit,
            readNumeral_eq ahead]
          simp only [run]
          rw [readOperand_of_addOperand? added]
          rfl
  | name word shape =>
      cases shape with
      | @intro first letters digits letter others final =>
          have ahead :
              text.left (Reader.level ⟨⟨span, position, nest⟩, deferred⟩) =
                first :: (letters ++ (digits ++ rest)) := by
            rw [← List.append_assoc]
            exact ahead
          have stopsLetters :
              ∀ character, (digits ++ rest).head? = some character →
                character.isAlpha = false := by
            intro character head
            cases digits with
            | nil => exact (stops.kinds head).1
            | cons digit digits =>
                rw [List.cons_append, List.head?_cons, Option.some.injEq] at head
                rw [← head]
                exact isAlpha_of_isDigit (final digit List.mem_cons_self)
          have runDigits :
              (digits ++ rest).takeWhile Char.isDigit = digits :=
            takeWhile_append_of_head? final fun character head =>
              (stops.kinds head).2.1
          have member : String.ofList (first :: (letters ++ digits)) ∈ text.parameters :=
            (Operand.known_name _ _ _).1 known
          rw [text.readLevels_of_token head, readToken, isDigit_of_isAlpha letter,
            if_neg Bool.false_ne_true, if_pos letter, readName_eq ahead]
          simp only [takeWhile_append_of_head? others stopsLetters,
            dropWhile_append_of_head? others stopsLetters, runDigits,
            idxOf?_of_mem member]
          rw [readOperand_of_addOperand? added]
          rfl

/-- The loop reads the operator ahead. -/
theorem readLevels_operator
    {operator : Operator}
    {rest : List Char}
    {site : Site Slot}
    (ahead : text.slice position span.stop = operator.symbol :: rest) :
    text.readLevels ⟨⟨⟨span, position, site.nest⟩, deferred⟩, finished⟩ =
      text.readLevels
        ⟨⟨⟨span, position + 1,
          (attach text.precedence operator site).nest operator⟩, deferred⟩,
          finished⟩ := by
  have head := text.nextCharacter?_eq ⟨span, position, site.nest⟩
  rw [left, ahead] at head
  have plain :
      operator.symbol.isDigit = false ∧ operator.symbol.isAlpha = false ∧
        operator.symbol ≠ '(' ∧ operator.symbol ≠ ')' := by
    cases operator <;> decide
  rw [text.readLevels_of_token head, readToken, plain.1, plain.2.1,
    if_neg Bool.false_ne_true, if_neg Bool.false_ne_true, if_neg plain.2.2.1,
    if_neg plain.2.2.2, Operator.ofChar?_symbol]
  rfl

/-- The bracket in front of a syntax tree is paired with the one behind it. -/
theorem closing_of_group
    {stop : Nat}
    {body : Expression}
    {rest : List Char}
    (ahead :
      text.slice position stop = '(' :: (body.text ++ ')' :: rest)) :
    (text.closings[position]?).join =
      some (position + 1 + body.text.length) := by
  have room := text.length_slice_le position stop
  rw [ahead, List.length_cons, List.length_append, List.length_cons] at room
  have before : position + 1 ≤ stop := by omega
  have counted := closing_eq ahead
  rw [drop_formula before, slice_succ ahead, List.append_assoc,
    List.cons_append, closingDistance_expression, Option.map_some] at counted
  exact counted

/-- The loop passes over the group ahead and puts it off. -/
theorem readLevels_group
    {body : Expression}
    {rest : List Char}
    (ahead :
      text.slice position span.stop = Operand.text (.group body) ++ rest)
    {draft : Draft Slot}
    (added :
      nest.draft.addOperand? (.atom (.unread (groupSpan position body))) =
        some draft) :
    text.readLevels ⟨⟨⟨span, position, nest⟩, deferred⟩, finished⟩ =
      text.readLevels
        ⟨⟨⟨span, position + (Operand.text (.group body)).length,
          ⟨draft, nest.outers⟩⟩, groupSpan position body :: deferred⟩,
          finished⟩ := by
  have head := text.nextCharacter?_eq ⟨span, position, nest⟩
  rw [Operand.text_group, List.cons_append, List.append_assoc,
    List.singleton_append] at ahead
  rw [left, ahead] at head
  have room := text.length_slice_le position span.stop
  rw [ahead, List.length_cons, List.length_append, List.length_cons] at room
  have closing := closing_of_group ahead
  have filled : 0 < body.text.length :=
    List.length_pos_iff.2 body.text_ne_nil
  have token :
      text.readToken ⟨⟨span, position, nest⟩, deferred⟩ '(' =
        (text.readGroup ⟨⟨span, position, nest⟩, deferred⟩).map (·, false) :=
    rfl
  rw [text.readLevels_of_token head, token, readGroup]
  simp only [closing]
  rw [if_neg (by omega), if_neg (by omega),
    readOperand_of_addOperand? added, Operand.text_group, List.length_cons,
    List.length_append, List.length_singleton]
  simp only [Except.map, Reader.advance, groupSpan]
  congr 4
  omega

/-- The spans of passages, the last one in front. -/
def spansOf (passages : List Passage) : List Span :=
  (passages.map Passage.span).reverse

theorem spansOf_append
    (front back : List Passage) :
    spansOf (front ++ back) = spansOf back ++ spansOf front := by
  rw [spansOf, List.map_append, List.reverse_append]
  rfl

/-- The loop reads the operand ahead, and puts it off if it is a group. -/
theorem readLevels_operand
    {operand : Operand Word}
    {rest : List Char}
    (ahead : text.slice position span.stop = operand.text ++ rest)
    (stops : StopsWord rest)
    (known : operand.Known text.parameters)
    {draft : Draft Slot}
    (added :
      nest.draft.addOperand? (operand.slot text.parameters position) =
        some draft) :
    text.readLevels ⟨⟨⟨span, position, nest⟩, deferred⟩, finished⟩ =
      text.readLevels
        ⟨⟨⟨span, position + operand.text.length, ⟨draft, nest.outers⟩⟩,
          spansOf (operand.passages position) ++ deferred⟩,
          finished⟩ := by
  cases operand with
  | atom word =>
      rw [Operand.text_atom] at ahead ⊢
      exact readLevels_word ahead stops known added
  | group body => exact readLevels_group ahead added

/-- The loop comes to the end of the syntax tree ahead. -/
theorem readLevels_expression
    (expression : Expression)
    {rest : List Char}
    (ahead : text.slice position span.stop = expression.text ++ rest)
    (stops : StopsWord rest)
    (known : expression.Known text.parameters) :
    text.readLevels ⟨⟨⟨span, position, ⟨.empty, []⟩⟩, deferred⟩, finished⟩ =
      text.readLevels
        ⟨⟨⟨span, position + expression.text.length,
          (expression.siteAt text.precedence text.parameters position).nest⟩,
          spansOf (expression.passages position) ++ deferred⟩,
          finished⟩ := by
  match expression with
  | .single operand =>
      rw [Expression.text_single] at ahead ⊢
      exact
        readLevels_operand ahead stops
          ((Expression.known_single _ _).1 known) rfl
  | .link before operator operand =>
      rcases
          (Expression.known_link _ _ _ _).1 known with
        ⟨knownBefore, knownOperand⟩
      rw [Expression.text_link, List.append_assoc, List.cons_append] at ahead
      have aheadOperator := text.slice_add ahead
      have aheadOperand := slice_succ aheadOperator
      have ends :
          position + (Expression.text before).length + 1 + operand.text.length =
            position + (Expression.text (.link before operator operand)).length := by
        rw [Expression.text_link, List.length_append, List.length_cons]
        omega
      rw [readLevels_expression before ahead (stopsWord_symbol operator _)
          knownBefore,
        readLevels_operator aheadOperator,
        readLevels_operand aheadOperand stops knownOperand rfl,
        Expression.passages, spansOf_append, List.append_assoc, ends]
      rfl

/-- Go on with the groups put off, if there are any. -/
def readDeferred
    (text : FormulaText)
    (deferred : List Span)
    (finished : List FinishedLevel) :
    Except ParseError (List FinishedLevel) :=
  match deferred with
  | [] => .ok finished
  | next :: deferred => text.readLevels ⟨⟨Level.begin next, deferred⟩, finished⟩

/-- At the end of a level the chain at hand is closed into the outer ones, and the level is finished. -/
theorem readLevels_close
    (chain : Sketch)
    (outers : List (Outer Slot))
    (ended : text.slice position span.stop = []) :
    text.readLevels
        ⟨⟨⟨span, position, Site.nest ⟨chain, outers⟩⟩, deferred⟩, finished⟩ =
      text.readDeferred deferred
        (⟨span, Site.close ⟨chain, outers⟩⟩ :: finished) := by
  have none :
      text.nextCharacter? ⟨span, position, Site.nest ⟨chain, outers⟩⟩ = none := by
    rw [nextCharacter?_eq, left, ended, List.head?_nil]
  rw [text.readLevels_of_end none]
  cases outers with
  | nil =>
      cases deferred with
      | nil => rfl
      | cons next deferred => rfl
  | cons outer outers => exact readLevels_close (outer.close chain) outers ended

/-- The loop finishes the level of a passage and goes on with its groups. -/
theorem readLevels_passage
    (passage : Passage)
    (filled :
      text.slice passage.span.start passage.span.stop = passage.expression.text)
    (known : passage.expression.Known text.parameters) :
    text.readLevels ⟨⟨Level.begin passage.span, deferred⟩, finished⟩ =
      text.readDeferred
        (spansOf (passage.expression.passages passage.span.start) ++ deferred)
        (passage.finish text.precedence text.parameters :: finished) := by
  rw [← List.append_nil passage.expression.text] at filled
  rw [Level.begin,
    readLevels_expression passage.expression filled stopsWord_nil known]
  exact readLevels_close _ _ (text.slice_add filled)

end FormulaText

end Formulary
