import Formulary.Proofs.Formula.Evaluation
import Formulary.Proofs.Parsing.Attachment

/-!
# Exponents are not regrouped

No operator binds tighter than the power, so the operand on the right of a
power is never raised into a group, in neither precedence mode.  What is an
exponent in the text is one in the formula: `Chain.PowersOf.arrange` carries a
property of the exponents of a flat chain over to the grouped one.
-/

namespace Formulary

section

variable {α : Type} {property : α → Prop}

variable (property) in
/-- Every power of the site has an atom with the property on its right side, and no outer chain waits behind a power. -/
structure Site.PowersOf (site : Site α) : Prop where
  chain : site.chain.PowersOf property
  outers :
    ∀ outer ∈ site.outers,
      outer.chain.PowersOf property ∧ outer.operator ≠ .power

/-- Closing a chain into the next outer one keeps the exponents. -/
theorem Site.PowersOf.closeNext
    {chain : Chain α}
    {outer : Outer α}
    {outers : List (Outer α)}
    (powers : Site.PowersOf property ⟨chain, outer :: outers⟩) :
    Site.PowersOf property ⟨outer.close chain, outers⟩ := by
  rcases powers.outers outer List.mem_cons_self with ⟨outerPowers, noPower⟩
  constructor
  · exact ⟨outerPowers, powers.chain, fun isPower => absurd isPower noPower⟩
  · intro other member
    exact powers.outers other (List.mem_cons_of_mem _ member)

/-- No operator is tighter than the power. -/
theorem Operator.ne_power_of_lt
    {looser tighter : Operator}
    (below : looser.priority < tighter.priority) :
    looser ≠ .power := by
  rintro rfl
  cases tighter <;> exact absurd below (by decide)

/-- Raising the last operand keeps the exponents. -/
theorem Site.PowersOf.raise
    {before : Chain α}
    {previous operator : Operator}
    {operand : Operand α}
    {outers : List (Outer α)}
    (tighter : previous.priority < operator.priority)
    (powers :
      Site.PowersOf property ⟨.link before previous operand, outers⟩) :
    Site.PowersOf property ⟨.single operand, ⟨before, previous⟩ :: outers⟩ := by
  rcases powers.chain with ⟨beforePowers, operandPowers, _⟩
  constructor
  · exact operandPowers
  · intro outer member
    rcases List.mem_cons.1 member with rfl | further
    · exact ⟨beforePowers, Operator.ne_power_of_lt tighter⟩
    · exact powers.outers outer further

theorem Site.PowersOf.extend
    {site : Site α}
    {operand : Operand α}
    {operator : Operator}
    (powers : site.PowersOf property)
    (precedence : Precedence)
    (operandPowers : operand.PowersOf property)
    (exponent :
      operator = .power → ∃ value, operand = .atom value ∧ property value) :
    (site.extend precedence operator operand).PowersOf property := by
  have attached :=
    (attach_attaches precedence operator site).keeps
      Site.PowersOf.closeNext Site.PowersOf.raise powers
  exact ⟨⟨attached.chain, operandPowers, exponent⟩, attached.outers⟩

theorem Site.PowersOf.close
    {site : Site α}
    (powers : site.PowersOf property) :
    site.close.PowersOf property :=
  (Site.close_keeps Site.PowersOf.closeNext powers).chain

end

section

variable {α β : Type} {property : α → Prop} {image : β → Prop}
variable {meaning : α → β}

mutual

/-- The site of a chain has the meanings of its exponents as exponents. -/
theorem Chain.PowersOf.site
    (carries : ∀ value, property value → image (meaning value))
    (precedence : Precedence) :
    {chain : Chain α} →
    chain.PowersOf property →
    (chain.site precedence meaning).PowersOf image
  | .single operand, powers => by
      rw [Chain.site]
      exact ⟨Operand.PowersOf.arrange carries precedence powers, nofun⟩
  | .link before operator operand, ⟨beforePowers, operandPowers, exponent⟩ => by
      rw [Chain.site]
      apply (Chain.PowersOf.site carries precedence beforePowers).extend precedence
      · exact Operand.PowersOf.arrange carries precedence operandPowers
      · intro isPower
        rcases exponent isPower with ⟨value, rfl, holds⟩
        exact
          ⟨meaning value, by rw [Operand.arrange], carries value holds⟩

/-- An arranged operand has the meanings of its exponents as exponents. -/
theorem Operand.PowersOf.arrange
    (carries : ∀ value, property value → image (meaning value))
    (precedence : Precedence) :
    {operand : Operand α} →
    operand.PowersOf property →
    (operand.arrange precedence meaning).PowersOf image
  | .atom value, _ => by
      rw [Operand.arrange]
      trivial
  | .group body, powers => by
      have bodyPowers : body.PowersOf property := powers
      rw [Operand.arrange]
      exact (Chain.PowersOf.site carries precedence bodyPowers).close

end

/-- A grouped chain has the meanings of the exponents of the flat one as exponents. -/
theorem Chain.PowersOf.arrange
    (carries : ∀ value, property value → image (meaning value))
    (precedence : Precedence)
    {chain : Chain α}
    (powers : chain.PowersOf property) :
    (chain.arrange precedence meaning).PowersOf image :=
  (Chain.PowersOf.site carries precedence powers).close

end

end Formulary
