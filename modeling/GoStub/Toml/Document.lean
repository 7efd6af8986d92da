import GoStub.Toml.Scalar

/-! Reading TOML documents. -/

namespace GoStub.Toml

open Reader

def comment : Reader Unit := do
  char '#'
  let _ ← takeWhile isPrintable

/-- Passes to the next line, over a comment. -/
def lineRest : Reader Unit := do
  gap
  let _ ← attempt comment
  match ← peek? with
  | none => pure ()
  | some _ => lineEnd

/-- White space, line ends and comments. -/
def filling : Reader Unit := do
  let _ ← many ((do let _ ← one isGap) <|> lineEnd <|> comment)

def isBare (c : Char) : Bool :=
  c.isAlphanum || c == '-' || c == '_'

def keyPart : Reader String :=
  basicText <|> literalText <|> do
    let first ← one isBare
    let rest ← takeWhile isBare
    return String.ofList (first :: rest)

/-- The number of keys and brackets that may be nested, plus one. -/
def nesting : Nat :=
  80

def key : Reader Key := do
  let parts ← sepBy (gap *> keyPart <* gap) (char '.')
  check (parts.length < nesting)
  return ⟨parts.dropLast, parts.getLast?.getD ""⟩

/-- A key and its value, for values read by `value`. -/
def pair (value : Reader Value) : Reader (Key × Value) := do
  let k ← key
  char '='
  gap
  return (k, ← value)

def items (value : Reader Value) : Reader (List Value) := do
  let first ← filling *> value <* filling
  let rest ← many (char ',' *> filling *> value <* filling)
  let _ ← attempt (char ',' *> filling)
  return first :: rest

def array (value : Reader Value) : Reader Value := do
  char '['
  let found ← attempt (items value)
  filling
  char ']'
  return .array (found.getD [])

def inlineTable (value : Reader Value) : Reader Value := do
  char '\x7b'
  let pairs ← attempt (sepBy (pair value <* gap) (char ','))
  gap
  char '\x7d'
  match Value.inlineTable? (pairs.getD []) with
  | some table => return table
  | none => failure

def atom : Reader Value :=
  (Value.text <$> text) <|>
  (do word ['t', 'r', 'u', 'e']; return .boolean true) <|>
  (do word ['f', 'a', 'l', 's', 'e']; return .boolean false) <|>
  (do scalar; return .scalar)

/-- A value with brackets nested at most `n` deep. -/
def value : Nat → Reader Value
  | 0 => atom
  | n + 1 => atom <|> array (value n) <|> inlineTable (value n)

/-- A line with something on it. -/
def expression : Reader Expression :=
  (do
    word ['[', '[']
    let k ← key
    word [']', ']']
    lineRest
    return .tables k) <|>
  (do
    char '['
    let k ← key
    char ']'
    lineRest
    return .table k) <|>
  (do
    let (k, v) ← pair (value (nesting - 1))
    lineRest
    return .pair k v)

/-- White space, then an empty line, a comment or an expression. -/
def line : Reader (List Expression) := do
  gap
  (do lineEnd; return []) <|>
  (do comment; lineRest; return []) <|>
  ((fun e => [e]) <$> expression)

def expressions : Reader (List Expression) := do
  let _ ← attempt (char '\ufeff')
  let lines ← many line
  gap
  match ← peek? with
  | none => return lines.flatten
  | some _ => failure

/-- The entries of a document. -/
def read? (content : String) : Option Entries :=
  match expressions.run content.toList with
  | some (found, _) => Entries.ofExpressions [] [] found
  | none => none

end GoStub.Toml
