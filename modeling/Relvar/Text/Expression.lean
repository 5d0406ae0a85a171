/-
Texts that are expressions: operands with operators between them, where an
operand is a name, a number, a quoted text or what stands between brackets, and
may be called, subscripted or asked for an attribute. A text is cut into tokens,
and a stack of the brackets that are open judges them one after another.
-/
import Relvar.Text.CodeRanges
import Relvar.Text.Word

set_option autoImplicit false

namespace Relvar.Text.Expression

/-! ## Tokens -/

/-- A token. A number is not kept, because nothing depends on it. -/
inductive Token
  | name (s : String)
  | number
  | quoted (s : String)
  | mark (s : String)
  deriving DecidableEq

/-- The marks, longer ones before those that they start with. -/
def marks : List String :=
  ["...", "**", "//", "<<", ">>", "<=", ">=", "==", "!=", "+", "-", "*", "/", "%", "@", "&", "|",
    "^", "<", ">", "~", "(", ")", "[", "]", "\x7b", "\x7d", ",", ":", ".", "="]

/-- Whether a name may start with a character. -/
def startsName (c : Char) : Bool :=
  c = '_' || c.isAlpha || (127 < c.toNat && isWord c && !isDigit c)

/-- The words that may stand in front of a quote. -/
def quotePrefixes : List String :=
  ["r", "b", "u", "f", "br", "rb", "fr", "rf"]

/-- Quoted text up to its quote, and what follows it. -/
def takeQuoted (quote : Char) : List Char → Option (List Char × List Char)
  | [] => none
  | '\n' :: _ => none
  | '\\' :: c :: s => (takeQuoted quote s).map fun p => ('\\' :: c :: p.1, p.2)
  | c :: s => if c = quote then some ([], s)
    else (takeQuoted quote s).map fun p => (c :: p.1, p.2)

/-- Whether each low line of a number stands between two digits. -/
def evenLines : List Char → Bool
  | '_' :: s => s.head?.any Char.isAlphanum && evenLines s
  | _ :: s => evenLines s
  | [] => true

/-- Whether characters that start with a digit or a point are a number. -/
def isNumber (s : List Char) : Bool :=
  let digits := s.filter (· != '_')
  let whole := digits.takeWhile Char.isDigit
  let rest := digits.drop whole.length
  let scale := fun t : List Char => match t with
    | e :: t =>
      let t := if t.head?.any fun c => c = '+' || c = '-' then t.drop 1 else t
      (e = 'e' || e = 'E') && !t.isEmpty && t.all Char.isDigit
    | [] => true
  let leadingZero := whole.head? = some '0' && !whole.all (· = '0')
  evenLines s &&
    match rest with
    | [] => !leadingZero
    | ['j'] | ['J'] => true
    | '.' :: t => scale (t.dropWhile Char.isDigit)
    | c :: t => scale rest || (whole = ['0'] && !t.isEmpty && match c.toLower with
        | 'x' => t.all fun d => d.isDigit || ('a' ≤ d.toLower && d.toLower ≤ 'f')
        | 'o' => t.all fun d => '0' ≤ d && d ≤ '7'
        | 'b' => t.all fun d => d = '0' || d = '1'
        | _ => false)

/-- Whether a character may stand in a number. -/
def isNumeric (c : Char) : Bool := c.isAlphanum || c = '_' || c = '.'

/-- The characters of a number that a text starts with. A sign may follow the mark
of a scale. -/
def takeNumber (s : List Char) : List Char :=
  let n := s.takeWhile isNumeric
  match s.drop n.length with
  | c :: rest =>
    let marked := n.getLast?.any fun e => e = 'e' || e = 'E'
    if marked && (c = '+' || c = '-') && n.all (fun d => d.toLower != 'x') then
      n ++ c :: rest.takeWhile isNumeric
    else n
  | [] => n

/-- A first token and what follows it. -/
def next (s : List Char) : Option (Token × List Char) :=
  match s with
  | [] => none
  | c :: rest =>
    if c.isDigit || (c = '.' && rest.head?.any Char.isDigit) then
      let n := takeNumber s
      if isNumber n then some (.number, s.drop n.length) else none
    else if startsName c then
      let n := s.takeWhile isWord
      let after := s.drop n.length
      let isPrefix := quotePrefixes.contains (String.ofList (n.map Char.toLower))
      match after with
      | '\'' :: t | '"' :: t =>
        if isPrefix then
          (takeQuoted (after.headD ' ') t).map fun p => (.quoted (String.ofList p.1), p.2)
        else some (.name (String.ofList n), after)
      | _ => some (.name (String.ofList n), after)
    else if c = '\'' || c = '"' then
      (takeQuoted c rest).map fun p => (.quoted (String.ofList p.1), p.2)
    else match marks.find? fun m => m.toList.isPrefixOf s with
      | some m => some (.mark m, s.drop m.length)
      | none => none

/-- How the brackets of a text change with a token: they say whether a line may
end. -/
def depthAfter (depth : Nat) : Token → Nat
  | .mark m =>
    if ["(", "[", "\x7b"].contains m then depth + 1
    else if [")", "]", "\x7d"].contains m then depth - 1
    else depth
  | _ => depth

/-- The tokens of a text inside some brackets. Blanks and remarks are passed over,
and a line ends only inside brackets, after a backslash or where nothing follows.
The fuel is at least the length of the text. -/
def scan : Nat → Nat → List Char → Option (List Token)
  | 0, _, _ => none
  | _, _, [] => some []
  | fuel + 1, depth, c :: s =>
    if c = ' ' || c = '\t' || c = '\x0c' then scan fuel depth s
    else if c = '\\' && s.head? = some '\n' then scan fuel depth (s.drop 1)
    else if c = '#' then scan fuel depth (s.dropWhile (· != '\n'))
    else if c = '\n' || c = '\r' then
      if depth = 0 then (scan fuel depth s).filter List.isEmpty else scan fuel depth s
    else match next (c :: s) with
      | some (t, rest) => (scan fuel (depthAfter depth t) rest).map (t :: ·)
      | none => none

/-- The tokens of a text. Blank lines may come first, but no other blanks. -/
def tokens? (s : List Char) : Option (List Token) :=
  let body := s.dropWhile fun c => c = '\n' || c = '\r'
  if body.head?.any fun c => c = ' ' || c = '\t' then none
  else scan (body.length + 1) 0 body

/-! ## Judging -/

/-- What is open: a bracket of some sort, or a choice that waits for its other
side. -/
inductive Opened
  | group
  | call
  | display
  | subscript
  | entries
  | choice
  deriving DecidableEq

/-- Where a token stands: first inside what is open, after a comma, after an
operator, after a colon, after a point, after a denial that waits for its
operator, or after an operand that ends with a token. -/
inductive Position
  | first
  | element
  | operand
  | slice
  | attribute
  | denied
  | after (last : Token)

/-- The words that are no names. -/
def reserved : List String :=
  ["as", "assert", "async", "await", "break", "class", "continue", "def", "del", "elif", "except",
    "finally", "for", "from", "global", "import", "lambda", "nonlocal", "pass", "raise", "return",
    "try", "while", "with", "yield", "and", "or", "in", "is", "not", "if", "else"]

/-- The operators that stand between operands, words among them. -/
def binary : List String :=
  ["**", "//", "<<", ">>", "<=", ">=", "==", "!=", "+", "-", "*", "/", "%", "@", "&", "|", "^",
    "<", ">", "and", "or", "in", "is"]

/-- The operators that stand in front of an operand. -/
def unary : List String := ["+", "-", "~", "not"]

/-- The word or mark of a token. -/
def Token.word : Token → String
  | .name s | .mark s => s
  | .number | .quoted _ => ""

/-- Whether a token is an operand by itself. -/
def Token.isOperand : Token → Bool
  | .name s => !reserved.contains s
  | .number | .quoted _ => true
  | .mark m => m = "..."

/-- The mark that closes what is open. -/
def Opened.closing : Opened → String
  | .group | .call => ")"
  | .display | .subscript => "]"
  | .entries => "\x7d"
  | .choice => ""

/-- What a token makes of the position and of what is open, where an operand may
begin. -/
def beginOperand (p : Position) (t : Token) (stack : List Opened) :
    Option (Position × List Opened) :=
  let starred := (p matches .first) || (p matches .element)
  if t.isOperand then some (.after t, stack)
  else if unary.contains t.word then some (.operand, stack)
  else if t.word = "(" then some (.first, .group :: stack)
  else if t.word = "[" then some (.first, .display :: stack)
  else if t.word = "\x7b" then some (.first, .entries :: stack)
  else if starred && t.word = "*" then some (.operand, stack)
  else if starred && t.word = "**" && !stack.isEmpty then some (.operand, stack)
  else none

/-- What remains open when a bracket closes. -/
def close (t : Token) : List Opened → Option (Position × List Opened)
  | o :: rest => if t.word = o.closing && t.word != "" then some (.after t, rest) else none
  | [] => none

/-- What a colon makes of the position. -/
def colon : List Opened → Option (Position × List Opened)
  | .subscript :: rest => some (.slice, .subscript :: rest)
  | _ => none

/-- What a token makes of the position after an operand and of what is open. -/
def continueOperand (last t : Token) (stack : List Opened) : Option (Position × List Opened) :=
  match t.word, stack with
  | ".", _ => some (.attribute, stack)
  | "(", _ => some (.first, .call :: stack)
  | "[", _ => some (.first, .subscript :: stack)
  | "not", _ => some (.denied, stack)
  | "if", _ => some (.operand, .choice :: stack)
  | "else", .choice :: rest => some (.operand, rest)
  | "=", .call :: _ => if last matches .name _ then some (.operand, stack) else none
  | ":", .entries :: _ => some (.operand, stack)
  | ":", _ => colon stack
  | ",", .choice :: _ => none
  | ",", _ => some (.element, stack)
  | word, _ =>
    if binary.contains word then some (.operand, stack)
    else match last, t with
      | .quoted _, .quoted _ => some (.after t, stack)
      | _, _ => close t stack

/-- What a token makes of the position and of what is open. -/
def step (t : Token) : Position × List Opened → Option (Position × List Opened)
  | (.after last, o) => continueOperand last t o
  | (.attribute, o) => match t with
    | .name s => if reserved.contains s then none else some (.after t, o)
    | _ => none
  | (.denied, o) => if t.word = "in" then some (.operand, o) else none
  | (.operand, o) => beginOperand .operand t o
  | (.first, o) =>
    (beginOperand .first t o).or
      (if o.head? = some .subscript then (if t.word = ":" then colon o else none) else close t o)
  | (.element, o) =>
    (beginOperand .element t o).or (if t.word = ":" then colon o else close t o)
  | (.slice, o) =>
    (beginOperand .slice t o).or
      (if t.word = ":" then colon o
        else if t.word = "," then some (.element, o)
        else close t o)

/-- What tokens make of the position and of what is open. -/
def run : List Token → Position × List Opened → Option (Position × List Opened)
  | [], state => some state
  | t :: ts, state => (step t state).bind (run ts)

/-- Whether tokens are an expression: at their end nothing is open, and nothing is
waited for. -/
def accepts (ts : List Token) : Bool :=
  match run ts (.first, []) with
  | some (.after _, []) | some (.element, []) => true
  | _ => false

/-- The tokens of a text that is an expression. -/
def ofText? (s : String) : Option (List Token) := (tokens? s.toList).filter accepts

end Relvar.Text.Expression
