import GoStub.Syntax.Automaton
import GoStub.Syntax.Phrase

/-! Derivations: how a stretch of a source is made up of phrases. Of several derivations of one
stretch, one is preferred. -/

namespace GoStub.Syntax

/-- A token or a phrase with its parts. `gap` is the number of characters between it and the token
before; a comment is an extra part, which counts for nothing. -/
structure Derivation where
  symbol : Nat
  parts : List Derivation
  weight : Int
  gap : Nat
  stretch : Stretch
  isExtra : Bool
  phrase : Phrase

namespace Derivation

def ofToken (gap : Nat) (t : Token) : Derivation where
  symbol := t.code
  parts := []
  weight := 0
  gap := gap
  stretch := t.stretch
  isExtra := t.code == TokenKind.commentCode
  phrase := .leaf ⟨kindOf t.code, t.stretch⟩

/-- The stretch of some parts. Without any, it is empty and stands at `p`. -/
def stretchOf (p : Place) (parts : List Derivation) : Stretch :=
  match parts.head?, parts.getLast? with
  | some first, some last => first.stretch.upTo last.stretch
  | _, _ => ⟨p, p⟩

/-- The phrase that a completion makes of some parts, which begin at `p`. -/
def ofParts (c : Completion) (p : Place) (parts : List Derivation) : Derivation :=
  let stretch := stretchOf p parts
  { symbol := c.category.code
    parts := parts
    weight := parts.foldl (fun n part => n + part.weight) c.weight
    gap := (parts.head?.map (·.gap)).getD 0
    stretch := stretch
    isExtra := false
    phrase := .make c.category stretch ((parts.filter (!·.isExtra)).map (·.phrase)) }

/-- Whether two derivations are of one kind, as far as can be seen from the outside. -/
def resembles (a b : Derivation) : Bool :=
  a.symbol == b.symbol && a.gap == b.gap && a.stretch.length == b.stretch.length &&
    a.parts.length == b.parts.length && a.isExtra == b.isExtra

mutual

/-- Compares derivations: first the symbols, then the numbers of parts, then part by part. -/
def order : Derivation → Derivation → Ordering
  | ⟨symbol, parts, _, _, _, _, _⟩, other =>
    (compare symbol other.symbol).then
      ((compare parts.length other.parts.length).then (orderAll parts other.parts))

def orderAll : List Derivation → List Derivation → Ordering
  | a :: as, b :: bs => (order a b).then (orderAll as bs)
  | _, _ => .eq

end

/-- Whether a derivation is preferred to another one of the same stretch: it weighs more, or weighs
the same and comes before the other in the order. -/
def isPreferredTo (b a : Derivation) : Bool :=
  decide (a.weight < b.weight) || (!decide (b.weight < a.weight) && order a b == .gt)

end Derivation

end GoStub.Syntax
