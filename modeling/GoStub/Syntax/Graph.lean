import GoStub.Syntax.Derivation

/-! The graph of all that was read so far. A vertex is a state of the automaton at a place of the
source, and its links lead back over the derivations it was reached by, so that readings with a
common beginning or a common end share it. -/

namespace GoStub.Syntax

/-- A step back to an earlier vertex, over a derivation. -/
structure Link where
  below : Nat
  derivation : Derivation

/-- A state at a place. The weight is that of the weightiest way here. -/
structure Vertex where
  state : Nat
  place : Place
  weight : Int
  links : List Link

instance : Inhabited Vertex := ⟨⟨0, default, 0, []⟩⟩

/-- The vertices in the order they were made. -/
abbrev Graph := Array Vertex

namespace Graph

def vertex (g : Graph) (v : Nat) : Vertex :=
  g.getD v default

/-- Whether two vertices are the same state at the same place. -/
def agree (g : Graph) (v w : Nat) : Bool :=
  (g.vertex v).state == (g.vertex w).state &&
    (g.vertex v).place.offset == (g.vertex w).place.offset

/-- A new vertex on top of another. -/
def push (g : Graph) (below state : Nat) (d : Derivation) : Graph × Nat :=
  let top := g.size
  let vertex := ⟨state, d.stretch.stop, (g.vertex below).weight + d.weight, [⟨below, d⟩]⟩
  (Array.push g vertex, top)

/-- The largest number of links of a vertex. -/
def maxLinks : Nat := 8

def setVertex (g : Graph) (v : Nat) (vertex : Vertex) : Graph :=
  g.setIfInBounds v vertex

/-- The weight of a vertex that is reached over a link. -/
def weightOver (g : Graph) (link : Link) : Int :=
  (g.vertex link.below).weight + link.derivation.weight

/-- Raises the weight of a vertex to at least this. -/
def raise (g : Graph) (v : Nat) (weight : Int) : Graph :=
  let vertex := g.vertex v
  if vertex.weight < weight then g.setVertex v { vertex with weight := weight } else g

/-- The position of the link that leads the same way as another one. -/
def sameWay? (g : Graph) (v : Nat) (link : Link) : Option Nat :=
  (g.vertex v).links.findIdx? fun old =>
    old.derivation.resembles link.derivation &&
      (old.below == link.below || g.agree old.below link.below)

/-- Replaces a link by another one that weighs more. -/
def outweigh (g : Graph) (v i : Nat) (old link : Link) : Graph :=
  if old.derivation.weight < link.derivation.weight then
    let vertex := g.vertex v
    g.setVertex v
      { vertex with links := vertex.links.set i link, weight := g.weightOver link }
  else g

/-- Adds one more way to a vertex. Where a link leads the same way, the weightier derivation is kept
or the vertices below are joined, at most `fuel` steps down. -/
def link : Nat → Graph → Nat → Link → Graph
  | 0, g, _, _ => g
  | fuel + 1, g, v, new =>
    if new.below = v then g
    else
      match g.sameWay? v new with
      | some i =>
        match (g.vertex v).links[i]? with
        | some old =>
          if old.below = new.below then g.outweigh v i old new
          else
            let joined := (g.vertex new.below).links.foldl (fun g l => link fuel g old.below l) g
            joined.raise v (joined.weightOver new)
        | none => g
      | none =>
        let vertex := g.vertex v
        if vertex.links.length = maxLinks then g
        else
          let weight := g.weightOver new
          (g.setVertex v { vertex with links := vertex.links ++ [new] }).raise v weight

/-- Adds to a vertex all ways that lead to another. -/
def join (g : Graph) (v w : Nat) : Graph :=
  (g.vertex w).links.foldl (fun g l => link (g.size + 1) g v l) g

/-- A way back from a vertex: where it has come to, the derivations passed, first ones first, and
how many are still to be passed. -/
structure Way where
  vertex : Nat
  parts : List Derivation
  rest : Nat

/-- The largest number of ways that are followed at once. -/
def maxWays : Nat := 64

def Way.over (w : Way) (l : Link) : Way :=
  ⟨l.below, l.derivation :: w.parts, if l.derivation.isExtra then w.rest else w.rest - 1⟩

/-- Takes every way one step on. A way that forks goes on over the first link, and its other
branches come last as long as there is room; ways that are complete are set aside. -/
def stepWays (g : Graph) : (todo kept added complete : List Way) → List Way × List Way
  | [], kept, added, complete => (kept.reverse ++ added, complete)
  | w :: todo, kept, added, complete =>
    if w.rest = 0 then stepWays g todo kept added (complete ++ [w])
    else
      match (g.vertex w.vertex).links with
      | [] => stepWays g todo kept added complete
      | first :: others =>
        let room := maxWays - (kept.length + todo.length + 1 + added.length)
        let branches := (others.take room).map w.over
        stepWays g todo (w.over first :: kept) (added ++ branches) complete

/-- Follows ways until all are complete, at most `fuel` steps. -/
def followWays (g : Graph) : Nat → (ways complete : List Way) → List Way
  | 0, _, complete => complete
  | _ + 1, [], complete => complete
  | fuel + 1, ways, complete =>
    let (ways, complete) := stepWays g ways [] [] complete
    followWays g fuel ways complete

/-- All ways back from a vertex over so many derivations, extra ones not counted. -/
def waysBack (g : Graph) (v count : Nat) : List Way :=
  followWays g (g.size + 2) [⟨v, [], count⟩] []

end Graph

end GoStub.Syntax
