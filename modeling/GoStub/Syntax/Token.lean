import GoStub.Syntax.Literal
import GoStub.Syntax.Stretch
import GoStub.Text.Basic
import GoStub.Text.IdentifierContinue
import GoStub.Text.IdentifierStart

/-! The tokens of a Go source. What a text starts with depends on the kinds of token that can stand
there: a line end is a token or a blank, a reserved word may be a plain name, and inside a string
everything is text. -/

namespace GoStub.Syntax

inductive TokenKind
  | finish
  | name
  | newline
  | nul
  | mark (text : String)
  | word (text : String)
  | rawText
  | plainText
  | closingQuote
  | escape
  | int
  | float
  | imaginary
  | rune
  | comment
  deriving DecidableEq

namespace TokenKind

/-- All kinds of token. The place of a kind in this list is its code. -/
def all : List TokenKind :=
  [.finish, .name, .newline, .mark ";", .nul, .word "package", .word "import", .mark ".",
    .word "_", .mark "(", .mark ")", .word "const", .mark ",", .mark "=", .word "var",
    .word "func", .mark "[", .mark "]", .mark "...", .word "type", .mark "*", .word "struct",
    .mark "~", .mark "\x7b", .mark "\x7d", .word "interface", .mark "|", .word "map", .word "chan",
    .mark "<-", .mark ":=", .mark "++", .mark "--", .mark "*=", .mark "/=", .mark "%=",
    .mark "<<=", .mark ">>=", .mark "&=", .mark "&^=", .mark "+=", .mark "-=", .mark "|=",
    .mark "^=", .mark ":", .word "fallthrough", .word "break", .word "continue", .word "goto",
    .word "return", .word "go", .word "defer", .word "if", .word "else", .word "for",
    .word "range", .word "switch", .word "case", .word "default", .word "select", .word "new",
    .word "make", .mark "+", .mark "-", .mark "!", .mark "^", .mark "&", .mark "/", .mark "%",
    .mark "<<", .mark ">>", .mark "&^", .mark "==", .mark "!=", .mark "<", .mark "<=", .mark ">",
    .mark ">=", .mark "&&", .mark "||", .mark "\x60", .rawText, .mark "\"", .plainText,
    .closingQuote, .escape, .int, .float, .imaginary, .rune, .word "nil", .word "true",
    .word "false", .word "iota", .comment]

def finishCode : Nat := 0

def nameCode : Nat := 1

def newlineCode : Nat := 2

def nulCode : Nat := 4

def commentCode : Nat := 94

/-- The number of codes. -/
def count : Nat := 95

end TokenKind

/-- The length of a token of this kind at the start of a text. Names, words and the end of the
source are told apart otherwise. -/
def TokenKind.length? : TokenKind → List Char → Option Nat
  | newline, cs => if cs.head? == some '\n' then some 1 else none
  | nul, cs => if cs.head? == some '\x00' then some 1 else none
  | mark text, cs => if Text.startsWith text.toList cs then some text.length else none
  | rawText, cs => (Pattern.many (Pattern.noneOf "\x60")).longest? cs
  | plainText, cs => (Pattern.oneOrMore (Pattern.noneOf "\"\n\\")).longest? cs
  | closingQuote, cs => if cs.head? == some '"' then some 1 else none
  | escape, cs => Pattern.escape.longest? cs
  | int, cs => Pattern.int.longest? cs
  | float, cs => Pattern.float.longest? cs
  | imaginary, cs => Pattern.imaginary.longest? cs
  | rune, cs => Pattern.rune.longest? cs
  | comment, cs => Pattern.comment.longest? cs
  | _, _ => none

/-- The kind with a code. -/
def kindOf (code : Nat) : TokenKind :=
  TokenKind.all.getD code .finish

/-- The reserved words with their codes. -/
def reservedWords : List (String × Nat) :=
  TokenKind.all.zipIdx.filterMap fun
    | (.word text, code) => some (text, code)
    | _ => none

def startsName (c : Char) : Bool :=
  if c.toNat < 128 then c.isAlpha || c == '_' else Text.identifierStart.contains c

def continuesName (c : Char) : Bool :=
  if c.toNat < 128 then c.isAlphanum || c == '_' else Text.identifierContinue.contains c

/-- White space between tokens. -/
def isGap (c : Char) : Bool :=
  let n := c.toNat
  (9 ≤ n && n ≤ 13) || n == 32

/-- A token; a reserved word may stand for a plain name. -/
structure Token where
  code : Nat
  stretch : Stretch
  isReserved : Bool

/-- Whether only text is looked for. -/
def isInString (expected : List Nat) : Bool :=
  expected.any fun code =>
    match kindOf code with
    | .rawText => true
    | .closingQuote => true
    | _ => false

/-- The place of the next token: after the white space, unless a string goes on. -/
def tokenStart (expected : List Nat) (p : Place) : Place :=
  if isInString expected then p
  else
    let breaks := expected.contains TokenKind.newlineCode
    p.advance (p.rest.takeWhile fun c => isGap c && !(breaks && c == '\n')).length

/-- The longer of two candidates, the first one if they are alike. -/
def longer (best : Option (Nat × Nat)) (code : Nat) (length : Option Nat) : Option (Nat × Nat) :=
  match best, length with
  | some (c, n), some m => if n < m then some (code, m) else some (c, n)
  | none, some m => some (code, m)
  | best, none => best

/-- The longest token of an expected kind, or a comment, with its length. -/
def longestToken? (expected : List Nat) (cs : List Char) : Option (Nat × Nat) :=
  let found := expected.foldl (fun best code => longer best code ((kindOf code).length? cs)) none
  if isInString expected then found
  else longer found TokenKind.commentCode (TokenKind.comment.length? cs)

/-- A word: reserved if that is expected, otherwise a name. -/
def wordToken (expected : List Nat) (p : Place) : Token :=
  let word := p.rest.takeWhile continuesName
  let stretch := ⟨p, p.advance word.length⟩
  match reservedWords.lookup (String.ofList word) with
  | some code => ⟨if expected.contains code then code else TokenKind.nameCode, stretch, true⟩
  | none => ⟨TokenKind.nameCode, stretch, false⟩

/-- The next token where these kinds are expected. The end of the source may stand for a NUL. -/
def nextToken? (expected : List Nat) (p : Place) : Option Token :=
  let start := tokenStart expected p
  match start.rest with
  | [] =>
    let atEnd := [TokenKind.finishCode, TokenKind.nulCode].find? expected.contains
    atEnd.map fun code => ⟨code, ⟨start, start⟩, false⟩
  | c :: _ =>
    if startsName c && !isInString expected then some (wordToken expected start)
    else
      (longestToken? expected start.rest).map fun (code, length) =>
        ⟨code, ⟨start, start.advance length⟩, false⟩

end GoStub.Syntax
