import GoStub.Syntax.Graph

/-! Reading a source. Where it can be read in several ways, all of them are followed side by side
until they meet again or one of them fails; when two meet, the preferred derivation is kept. -/

namespace GoStub.Syntax

inductive Status
  | active
  | paused
  | finished
  deriving DecidableEq

/-- A reading, by the vertex it has come to. -/
structure Reading where
  vertex : Nat
  status : Status

/-- The readings of a source, and what the finished ones have found. -/
structure Readings where
  graph : Graph
  heads : List Reading
  result : Option Derivation

namespace Readings

/-- The number of readings that go on to the next token. -/
def maxHeads : Nat := 6

/-- How many more there may be before one is given up. -/
def spareHeads : Nat := 4

def head (r : Readings) (i : Nat) : Reading :=
  r.heads.getD i ⟨0, .finished⟩

def vertexAt (r : Readings) (i : Nat) : Vertex :=
  r.graph.vertex (r.head i).vertex

/-- Whether two readings meet. -/
def meet (g : Graph) (a b : Reading) : Bool :=
  a.status == .active && b.status == .active && g.agree a.vertex b.vertex

/-- Adds a reading, unless it meets one that is there already, other than the one at `i`. -/
def add : Readings → Nat → Reading → Readings
  | ⟨graph, heads, result⟩, i, new =>
    match heads.zipIdx.find? (fun (old, j) => j != i && meet graph old new) with
    | some (old, _) => ⟨graph.join old.vertex new.vertex, heads, result⟩
    | none => ⟨graph, heads ++ [new], result⟩

/-- Ways back to one vertex, by the parts they pass. -/
structure Group where
  vertex : Nat
  alternatives : List (List Derivation)

/-- Puts a way to the others that lead to the same vertex. -/
def insertWay (groups : List Group) (w : Graph.Way) : List Group :=
  if groups.any (·.vertex == w.vertex) then
    groups.map fun g =>
      if g.vertex == w.vertex then { g with alternatives := g.alternatives ++ [w.parts] } else g
  else groups ++ [⟨w.vertex, [w.parts]⟩]

/-- A phrase and the extra parts that come after it. -/
structure Candidate where
  derivation : Derivation
  extras : List Derivation

def candidate (c : Completion) (p : Place) (parts : List Derivation) : Candidate :=
  let trailing := (parts.reverse.takeWhile (·.isExtra)).length
  let own := parts.take (parts.length - trailing)
  ⟨.ofParts c p own, parts.drop own.length⟩

def Candidate.choose (a b : Candidate) : Candidate :=
  if b.derivation.isPreferredTo a.derivation then b else a

/-- The best of the phrases that a completion makes of alternative parts. -/
def bestCandidate? (c : Completion) (p : Place) : List (List Derivation) → Option Candidate
  | [] => none
  | first :: rest =>
    some (rest.foldl (fun best parts => best.choose (candidate c p parts)) (candidate c p first))

/-- Pushes derivations one after the other, all of them with the same state. -/
def pushAll (g : Graph) (v state : Nat) : List Derivation → Graph × Nat
  | [] => (g, v)
  | d :: ds =>
    let (g, v) := g.push v state d
    pushAll g v state ds

/-- Completes a phrase of the reading at `i`, back to one vertex. -/
def completeAt : Readings → Nat → Completion → Group → Readings
  | ⟨graph, heads, result⟩, i, c, group =>
    let below := graph.vertex group.vertex
    match bestCandidate? c below.place group.alternatives,
        Automaton.after? below.state c.category with
    | some best, some state =>
      let (graph, top) := pushAll graph group.vertex state (best.derivation :: best.extras)
      add ⟨graph, heads, result⟩ i ⟨top, .active⟩
    | _, _ => ⟨graph, heads, result⟩

/-- Completes a phrase of the reading at `i`: a new reading for each vertex it can begin at, as long
as there are not too many. -/
def complete (r : Readings) (i : Nat) (c : Completion) : Readings :=
  let limit := maxHeads + spareHeads + r.heads.countP (·.status == .finished)
  let groups := (r.graph.waysBack (r.head i).vertex c.size).foldl insertWay []
  groups.foldl
    (fun r group => if limit < r.heads.length then r else r.completeAt i c group) r

def setHead (r : Readings) (i : Nat) (head : Reading) : Readings :=
  { r with heads := r.heads.set i head }

def setStatus (r : Readings) (i : Nat) (status : Status) : Readings :=
  r.setHead i { r.head i with status := status }

/-- Passes a token and goes to a state. -/
def pass (r : Readings) (i : Nat) (token : Derivation) (state : Nat) : Readings :=
  let below := (r.head i).vertex
  match r with
  | ⟨graph, heads, result⟩ =>
    let (graph, top) := graph.push below state token
    ⟨graph, heads.set i ⟨top, .active⟩, result⟩

/-- The phrases on top of a vertex, below extra parts. -/
def topPhrases (g : Graph) : Nat → Nat → List Derivation
  | 0, _ => []
  | fuel + 1, v =>
    (g.vertex v).links.flatMap fun l =>
      if l.derivation.isExtra then topPhrases g fuel l.below else [l.derivation]

/-- Ends the reading at `i` and keeps its phrase, if that is preferred to what was found before. -/
def accept (r : Readings) (i : Nat) : Readings :=
  let choose (old : Option Derivation) (new : Derivation) : Option Derivation :=
    match old with
    | some old => some (if new.isPreferredTo old then new else old)
    | none => some new
  let found := topPhrases r.graph (r.graph.size + 1) (r.head i).vertex
  { r with result := found.foldl choose r.result }.setStatus i .finished

/-- What came of some moves: the token was dealt with, a phrase was completed, by the first of the
readings from some position on, or nothing could be done. -/
inductive Outcome
  | settled
  | completed (position : Nat)
  | stuck

/-- Makes moves one after the other, until one of them deals with the token. -/
def tryMoves (i : Nat) (token : Derivation) :
    Readings → Outcome → List Move → Readings × Outcome
  | r, outcome, [] => (r, outcome)
  | r, _, .shift state :: _ => (r.pass i token state, .settled)
  | r, _, .accept :: _ => (r.accept i, .settled)
  | r, outcome, .reduce c :: rest =>
    let next := r.complete i c
    if r.heads.length < next.heads.length then
      tryMoves i token next (.completed r.heads.length) rest
    else tryMoves i token next outcome rest

/-- Puts the reading at `k` in the place of the one at `i`. -/
def replace (r : Readings) (i k : Nat) : Readings :=
  { r with heads := (r.heads.set i (r.head k)).eraseIdx k }

/-- Deals with a token in the reading at `i`, in at most `fuel` steps. A reserved word that leads
nowhere is taken for a name; a reading that cannot go on is paused. -/
def proceed (i : Nat) (gap : Nat) : Nat → Readings → Token → Readings
  | 0, r, _ => r
  | fuel + 1, r, token =>
    let state := (r.vertexAt i).state
    let derivation := Derivation.ofToken gap token
    if token.code = TokenKind.commentCode then r.pass i derivation state
    else
      match tryMoves i derivation r .stuck (Automaton.moves state token.code) with
      | (r, .settled) => r
      | (r, .completed k) => proceed i gap fuel (r.replace i k) token
      | (r, .stuck) =>
        if token.isReserved && token.code != TokenKind.nameCode &&
            !(Automaton.moves state TokenKind.nameCode).isEmpty then
          proceed i gap fuel r { token with code := TokenKind.nameCode }
        else r.setStatus i .paused

/-- Deals with the next token of the reading at `i`. -/
def advance (fuel : Nat) (r : Readings) (i : Nat) : Readings :=
  let vertex := r.vertexAt i
  match nextToken? (Automaton.expected vertex.state) vertex.place with
  | some token =>
    let gap := token.stretch.start.offset - vertex.place.offset
    proceed i gap fuel r token
  | none => r.setStatus i .paused

/-- Advances the reading at `i` until it is ahead of the others, or as far as they are; `reached` is
how far that is. -/
def catchUp (fuel i : Nat) : Nat → Readings → Nat → Readings × Nat
  | 0, r, reached => (r, reached)
  | n + 1, r, reached =>
    if (r.head i).status == .active then
      let r := r.advance fuel i
      let offset := (r.vertexAt i).place.offset
      if reached < offset || (i != 0 && offset == reached) then (r, offset)
      else catchUp fuel i n r reached
    else (r, reached)

/-- Advances all readings from the one at `i` on. -/
def advanceFrom (fuel : Nat) : Nat → Nat → Readings → Nat → Readings × Nat
  | 0, _, r, reached => (r, reached)
  | n + 1, i, r, reached =>
    if i < r.heads.length then
      let (r, reached) := catchUp fuel i fuel r reached
      advanceFrom fuel n (i + 1) r reached
    else (r, reached)

/-- What readings are compared by. -/
structure Standing where
  isPaused : Bool
  weight : Int

def standing (g : Graph) (h : Reading) : Standing :=
  ⟨h.status == .paused, (g.vertex h.vertex).weight⟩

/-- Puts a reading in its place among others, the weightier ones first. It is given up if it is
paused and another one is not, and joined to one it meets; `own` is how it stood at first. -/
def place (own : Standing) : Graph → (before after : List Reading) → Reading →
    Graph × List Reading
  | g, before, [], h => (g, before.reverse ++ [h])
  | g, before, other :: after, h =>
    let theirs := standing g other
    if !theirs.isPaused && own.isPaused then (g, before.reverse ++ other :: after)
    else if theirs.isPaused && !own.isPaused then place own g before after h
    else if meet g other h then (g.join other.vertex h.vertex, before.reverse ++ other :: after)
    else if theirs.weight < own.weight then place own g (h :: before) after other
    else place own g (other :: before) after h

/-- Orders the readings, joins those that meet, and keeps the first few that can go on. -/
def condense : Readings → Readings
  | ⟨graph, heads, result⟩ =>
    let (graph, heads) := (heads.filter (·.status != .finished)).foldl
      (fun (g, placed) h => place (standing g h) g [] placed h) (graph, [])
    ⟨graph, (heads.take maxHeads).filter (·.status == .active), result⟩

/-- Goes on, round by round, until no reading is left. -/
def run (fuel : Nat) : Nat → Readings → Nat → Option Derivation
  | 0, r, _ => r.result
  | n + 1, r, reached =>
    if r.heads.isEmpty then r.result
    else
      let (r, reached) := advanceFrom fuel fuel 0 r reached
      run fuel n r.condense reached

def start (p : Place) : Readings :=
  ⟨#[⟨Automaton.start, p, 0, []⟩], [⟨0, .active⟩], none⟩

end Readings

/-- The derivation of a source, if it has one. A byte order mark at its start is passed over. -/
def derive? (cs : List Char) : Option Derivation :=
  let cs := (Text.dropPrefix? [Char.ofNat 0xFEFF] cs).getD cs
  let fuel := 16 * (cs.length + 16)
  Readings.run fuel fuel (.start ⟨1, 0, cs⟩) 0

/-- The source file a derivation is of. What is no Go source has no items. -/
def SourceFile.ofDerivation? (d : Option Derivation) : SourceFile :=
  match d with
  | some ⟨_, _, _, _, _, _, .file file⟩ => file
  | _ => ⟨[]⟩

/-- Reads a source file. What a source says is never found out by unfolding this. -/
@[irreducible]
def SourceFile.read (source : String) : SourceFile :=
  .ofDerivation? (derive? source.toList)

end GoStub.Syntax
