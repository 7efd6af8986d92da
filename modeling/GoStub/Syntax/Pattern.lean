/-! Regular patterns of characters. A pattern is matched character by character: `after c p` matches
what is left of the texts of `p` that start with `c`. -/

namespace GoStub.Syntax

inductive Pattern
  | nothing
  | empty
  | one (allowed : Char → Bool)
  | seq (first second : Pattern)
  | either (left right : Pattern)
  | many (body : Pattern)

namespace Pattern

/-- Whether the empty text matches. -/
def matchesEmpty : Pattern → Bool
  | nothing => false
  | empty => true
  | one _ => false
  | seq first second => first.matchesEmpty && second.matchesEmpty
  | either left right => left.matchesEmpty || right.matchesEmpty
  | many _ => true

/-- A sequence, where nothing stays nothing and the empty text adds nothing. -/
def andThen : Pattern → Pattern → Pattern
  | nothing, _ => nothing
  | empty, second => second
  | first, second => seq first second

/-- A choice, of which nothing is no part. -/
def orElse : Pattern → Pattern → Pattern
  | nothing, right => right
  | left, nothing => left
  | left, right => either left right

/-- What remains to be matched after a character. -/
def after (c : Char) : Pattern → Pattern
  | nothing => nothing
  | empty => nothing
  | one allowed => if allowed c then empty else nothing
  | seq first second =>
    let passed := (first.after c).andThen second
    if first.matchesEmpty then passed.orElse (second.after c) else passed
  | either left right => (left.after c).orElse (right.after c)
  | many body => (body.after c).andThen (many body)

/-- Follows a text; `best` is the length of the longest match so far, `n` the number of characters
passed. -/
def longestFrom (n : Nat) (best : Option Nat) : Pattern → List Char → Option Nat
  | p, [] => if p.matchesEmpty then some n else best
  | p, c :: cs =>
    let best := if p.matchesEmpty then some n else best
    match p.after c with
    | nothing => best
    | next => longestFrom (n + 1) best next cs

/-- The length of the longest match at the start of a text. -/
def longest? (p : Pattern) (cs : List Char) : Option Nat :=
  longestFrom 0 none p cs

def sequence (ps : List Pattern) : Pattern :=
  ps.foldr seq empty

def choice (ps : List Pattern) : Pattern :=
  ps.foldr either nothing

def optional (p : Pattern) : Pattern :=
  either p empty

def oneOrMore (p : Pattern) : Pattern :=
  seq p (many p)

/-- One of the characters of a text. -/
def oneOf (text : String) : Pattern :=
  one text.toList.contains

/-- One character that is not in a text, nor NUL, which is never part of something longer. -/
def noneOf (text : String) : Pattern :=
  one fun c => c != '\x00' && !text.toList.contains c

end Pattern

end GoStub.Syntax
