import SourceOutline.Decimal.Integer
import SourceOutline.Text.Newline

/-!
Values written out: numbers, texts and octets in quotes, named constants, and tuples, sets and dictionaries
of them. Only whether a text is such a value is asked, not which one; the names of characters are not known
here, so a text that needs one is taken for none. No list is read, for a tag holds no brackets.
-/
namespace SourceOutline.Markup.Literal

/-- What a value is good for as a part of another one. -/
inductive Kind where
  /-- A number without a sign; a huge one is too large for a floating point number. -/
  | real (huge : Bool)
  | imaginary
  /-- A number with a sign. -/
  | signed (huge : Bool)
  | constant
  /-- A value that is no key: a set, a dictionary, or a tuple with one of them. -/
  | changeable
deriving DecidableEq, Repr

inductive Token where
  | number (kind : Kind)
  | quoted (octets : Bool)
  | name (chars : List Char)
  | dots
  | mark (c : Char)
  | lineEnd
deriving DecidableEq, Repr

/-- Whether a character may stand in a name or is taken for one that may. -/
def isNameChar (c : Char) : Bool := c.isAlphanum || c == '_' || 0x80 ≤ c.toNat

/-- Digits with an underscore in front of each at most, and what follows them. -/
def digitRun (isDigit : Char → Bool) : List Char → List Char × List Char
  | '_' :: c :: rest =>
    if isDigit c then
      let (digits, rest) := digitRun isDigit rest
      (c :: digits, rest)
    else ([], '_' :: c :: rest)
  | c :: rest =>
    if isDigit c then
      let (digits, rest) := digitRun isDigit rest
      (c :: digits, rest)
    else ([], c :: rest)
  | [] => ([], [])

/-- The least whole number that is rounded to no floating point number. -/
def hugeNumber : Nat := Nat.pow 2 1024 - Nat.pow 2 970

/-- A whole number in base ten: it has no nought in front and not too many digits, or is nought. -/
def decimal? (digits : List Char) : Option Kind :=
  if digits.all (· == '0') then some (.real false)
  else if digits.head? = some '0' ∨ Decimal.mostDigits < digits.length then none
  else some (.real (hugeNumber ≤ Decimal.digitsValue 10 digits))

/-- What follows the exponent at the start of a text; without digits there is none. -/
def skipExponent (text : List Char) : List Char :=
  match text with
  | e :: rest =>
    let digits :=
      match rest with
      | '+' :: digits | '-' :: digits => digits
      | _ => rest
    if (e == 'e' || e == 'E') && (digits.head?.any Char.isDigit) then (digitRun Char.isDigit digits).2
    else text
  | [] => []

/-- The number at the start of a text, and what follows it. -/
def number? (text : List Char) : Option (Kind × List Char) := do
  let (kind, rest) ←
    match text with
    | '0' :: mark :: rest =>
      let base := if mark = 'x' ∨ mark = 'X' then 16 else if mark = 'o' ∨ mark = 'O' then 8
        else if mark = 'b' ∨ mark = 'B' then 2 else 10
      if base = 10 then decimalNumber? text
      else
        let (digits, rest) := digitRun (Decimal.isDigitIn base) rest
        if digits.isEmpty then none
        else some (.real (hugeNumber ≤ Decimal.digitsValue base digits), rest)
    | _ => decimalNumber? text
  if rest.head?.any isNameChar then none else pure (kind, rest)
where
  /-- A number in base ten, with a fraction and an exponent if there are any. -/
  decimalNumber? (text : List Char) : Option (Kind × List Char) :=
    let (digits, rest) := digitRun Char.isDigit text
    let fractionEnd :=
      match rest with
      | '.' :: fraction =>
        if fraction.head?.any Char.isDigit then (digitRun Char.isDigit fraction).2 else fraction
      | _ => rest
    match skipExponent fractionEnd with
    | 'j' :: more | 'J' :: more => some (.imaginary, more)
    | more =>
      if more.length < rest.length then some (.real false, more)
      else (decimal? digits).map fun kind => (kind, more)

/-- The text up to the closing quotes, and what follows them. A backslash keeps the next character from
being a quote; only between three quotes a line may end. -/
def quotedBody? (quote : Char) (triple : Bool) : List Char → Option (List Char × List Char)
  | '\\' :: c :: rest => (quotedBody? quote triple rest).map fun (body, rest) => ('\\' :: c :: body, rest)
  | c :: rest =>
    if c = quote ∧ (triple = false ∨ rest.take 2 = [quote, quote]) then
      some ([], if triple then rest.drop 2 else rest)
    else if c = '\n' ∧ triple = false then none
    else (quotedBody? quote triple rest).map fun (body, rest) => (c :: body, rest)
  | [] => none

def isHexDigit (c : Char) : Bool := Decimal.isDigitIn 16 c

/-- Whether what stands behind the backslashes of a quoted text can be read. -/
def escapesOk (octets : Bool) : List Char → Bool
  | '\\' :: c :: rest =>
    let width := if c = 'x' then 2 else if octets then 0 else if c = 'u' then 4 else if c = 'U' then 8 else 0
    let code := rest.take width
    code.length == width && code.all isHexDigit && Decimal.digitsValue 16 code < 0x110000 &&
      (octets || c != 'N') && escapesOk octets rest
  | _ :: rest => escapesOk octets rest
  | [] => true

/-- The quoted text at the start of a text whose marks in front have been read, and what follows it. -/
def quoted? (marks text : List Char) : Option (Token × List Char) := do
  let octets := marks.any (· == 'b')
  let raw := marks.any (· == 'r')
  if !([[], ['r'], ['u'], ['b'], ['b', 'r'], ['r', 'b']] : List (List Char)).contains marks then none
  else
    let (body, rest) ←
      match text with
      | q :: q' :: rest =>
        if q' = q then if rest.head? = some q then quotedBody? q true rest.tail else pure ([], rest)
        else quotedBody? q false (q' :: rest)
      | _ => none
    if (!octets || body.all (·.toNat < 0x80)) && (raw || escapesOk octets body) then
      pure (.quoted octets, rest)
    else none

/-- The token at the start of a text that starts with none of the marks of one character. -/
def longToken? (text : List Char) : Option (Token × List Char) :=
  let name := text.takeWhile isNameChar
  let rest := text.drop name.length
  match text with
  | '.' :: '.' :: '.' :: rest => some (.dots, rest)
  | '.' :: c :: _ => if c.isDigit then (number? text).map fun (kind, rest) => (.number kind, rest) else none
  | c :: _ =>
    if c.isDigit then (number? text).map fun (kind, rest) => (.number kind, rest)
    else if rest.head?.any fun q => q == '\'' || q == '"' then quoted? (name.map Char.toLower) rest
    else if name.isEmpty then none
    else some (.name name, rest)
  | [] => none

/-- The tokens of a text, at some depth of brackets; within brackets the ends of lines do not count. -/
def tokens? : Nat → Nat → List Char → Option (List Token)
  | 0, _, _ => none
  | _, _, [] => some []
  | fuel + 1, depth, c :: rest =>
    if [' ', '\t', '\x0c'].contains c then tokens? fuel depth rest
    else if c = '#' then tokens? fuel depth (rest.dropWhile (· != '\n'))
    else if c = '\n' then
      (tokens? fuel depth rest).map fun more => if depth = 0 then .lineEnd :: more else more
    else if c = '\\' then
      match rest with
      | '\n' :: next :: rest => tokens? fuel depth (next :: rest)
      | _ => none
    else if c = '(' ∨ c = '{' then
      if depth < 200 then (tokens? fuel (depth + 1) rest).map (.mark c :: ·) else none
    else if c = ')' ∨ c = '}' then (tokens? fuel (depth - 1) rest).map (.mark c :: ·)
    else if [',', ':', '+', '-'].contains c then (tokens? fuel depth rest).map (.mark c :: ·)
    else do
      let (token, after) ← longToken? (c :: rest)
      (tokens? fuel depth after).map (token :: ·)

/-- A text from its first line that is neither blank nor a comment; that line has no margin. -/
def dropBlankLines? : Nat → List Char → Option (List Char)
  | 0, _ => none
  | fuel + 1, text =>
    let margin := text.takeWhile [' ', '\t', '\x0c'].contains
    let hasMargin := margin.getLast?.any (· != '\x0c')
    match text.drop margin.length with
    | '\n' :: rest => dropBlankLines? fuel rest
    | '#' :: rest => dropBlankLines? fuel ((rest.dropWhile (· != '\n')).drop 1)
    | '\\' :: '\n' :: rest => if hasMargin then none else dropBlankLines? fuel rest
    | rest => if hasMargin then none else some rest

/-- The quoted texts at the start are one; all of them are texts, or all are octets. -/
def skipQuoted? (octets : Bool) : List Token → Option (List Token)
  | .quoted octets' :: rest => if octets' = octets then skipQuoted? octets rest else none
  | rest => some rest

/-- The kind of a tuple or of a set with members of these kinds. -/
def tupleKind (kinds : List Kind) : Kind := if kinds.contains .changeable then .changeable else .constant

mutual

/-- The value at the start of some tokens that stands by itself, without a sign. -/
def atom? : Nat → List Token → Option (Kind × List Token)
  | 0, _ => none
  | fuel + 1, tokens =>
    match tokens with
    | .number kind :: rest => some (kind, rest)
    | .quoted octets :: rest => (skipQuoted? octets rest).map fun rest => (.constant, rest)
    | .dots :: rest => some (.constant, rest)
    | .name ['s', 'e', 't'] :: .mark '(' :: .mark ')' :: rest => some (.changeable, rest)
    | .name name :: rest =>
      if ["True", "False", "None"].any (·.toList == name) then some (.constant, rest) else none
    | .mark '(' :: rest =>
      match items? fuel false rest with
      | some ([kind], false, .mark ')' :: rest) => some (kind, rest)
      | some (kinds, _, .mark ')' :: rest) => some (tupleKind kinds, rest)
      | _ => none
    | .mark '{' :: .mark '}' :: rest => some (.changeable, rest)
    | .mark '{' :: rest => do
      let (kind, rest) ← value? fuel rest
      let (kinds, _, rest) ←
        match rest with
        | .mark ':' :: rest => do
          let (_, rest) ← value? fuel rest
          more? fuel true rest
        | _ => more? fuel false rest
      match rest with
      | .mark '}' :: rest => if (kind :: kinds).contains .changeable then none else pure (.changeable, rest)
      | _ => none
    | _ => none

/-- The value at the start of some tokens: one that stands by itself, perhaps with a sign, or a complex
number, which is a real and an imaginary one. -/
def value? : Nat → List Token → Option (Kind × List Token)
  | 0, _ => none
  | fuel + 1, tokens => do
    let (kind, rest) ←
      match tokens with
      | .mark '+' :: rest | .mark '-' :: rest => do
        match ← atom? fuel rest with
        | (.real huge, rest) => pure (.signed huge, rest)
        | (.imaginary, rest) => pure (.constant, rest)
        | _ => none
      | _ => atom? fuel tokens
    match rest with
    | .mark '+' :: rest | .mark '-' :: rest =>
      match kind, ← atom? fuel rest with
      | .real false, (.imaginary, rest) | .signed false, (.imaginary, rest) =>
        if rest.head? = some (.mark '+') ∨ rest.head? = some (.mark '-') then none
        else pure (.constant, rest)
      | _, _ => none
    | _ => pure (kind, rest)

/-- The kinds of values with commas between them, or of keys with their values, whether there is a comma
behind the first one, and what follows. -/
def items? : Nat → Bool → List Token → Option (List Kind × Bool × List Token)
  | 0, _, _ => none
  | fuel + 1, keyed, tokens =>
    if tokens.head?.all fun token => [.mark ')', .mark '}', .lineEnd].contains token then
      some ([], false, tokens)
    else do
      let (kind, rest) ← value? fuel tokens
      let rest ←
        if keyed then
          match rest with
          | .mark ':' :: rest => (value? fuel rest).map Prod.snd
          | _ => none
        else pure rest
      let (kinds, comma, rest) ← more? fuel keyed rest
      pure (kind :: kinds, comma, rest)

/-- What stands behind the first of some values or keys. -/
def more? : Nat → Bool → List Token → Option (List Kind × Bool × List Token)
  | 0, _, _ => none
  | fuel + 1, keyed, .mark ',' :: rest =>
    (items? fuel keyed rest).map fun (kinds, _, rest) => (kinds, true, rest)
  | _, _, tokens => some ([], false, tokens)

end

end Literal

/-- Whether a text is a value written out, or several with commas between them. -/
def isLiteral (text : List Char) : Bool :=
  let text := Text.unifyBreaks (text.dropWhile fun c => c == ' ' || c == '\t')
  let tokens := do
    if text.contains '\x00' then none
    else Literal.tokens? (text.length + 1) 0 (← Literal.dropBlankLines? (text.length + 1) text)
  match tokens with
  | none => false
  | some tokens =>
    match Literal.items? (4 * tokens.length + 8) false tokens with
    | some (_ :: _, _, rest) => rest.all (· == .lineEnd)
    | _ => false

end SourceOutline.Markup
