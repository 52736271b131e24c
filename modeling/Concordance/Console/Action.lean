import Concordance.Numeral.Hex
import Concordance.Numeral.Integer
import Concordance.Text.Blank
import Concordance.Text.Pieces
import Concordance.Text.Printable

/-! Actions of tags, as in `@press=show(1)`: the name of a handler and its arguments, or arguments
alone. Arguments are literals: numbers, quoted texts, constants, and tuples, sets and maps of them.
A bracket cannot stand in a tag, so there are no lists. -/

namespace Concordance.Console.Action

inductive Token
  | number (imaginary : Bool)
  | text (ofBytes : Bool)
  | constant
  | set
  | sign
  | mark (c : Char)
  deriving DecidableEq, Repr

/-- More digits after one; a single `_` may stand before each. -/
def moreDigits (isDigit : Char → Bool) : List Char → List Char × List Char
  | [] => ([], [])
  | '_' :: c :: cs =>
    if isDigit c then let (ds, rest) := moreDigits isDigit cs; (c :: ds, rest)
    else ([], '_' :: c :: cs)
  | c :: cs =>
    if isDigit c then let (ds, rest) := moreDigits isDigit cs; (c :: ds, rest)
    else ([], c :: cs)

def digits (isDigit : Char → Bool) (cs : List Char) : List Char × List Char :=
  if cs.head?.any isDigit then moreDigits isDigit cs else ([], cs)

def isWordChar (c : Char) : Bool := c.isAlphanum || c == '_' || 0x80 ≤ c.toNat

def endsNumber (cs : List Char) : Bool := !cs.head?.any isWordChar

/-- Whole numbers do not start with a zero unless they are zero. -/
def isWhole (ds : List Char) : Bool :=
  ds.length ≤ Numeral.maxDigits && (ds.head? != some '0' || ds.all (· == '0'))

def exponent? : List Char → Option (Bool × List Char)
  | e :: cs =>
    if e.toLower = 'e' then
      let unsigned := match cs with
        | '+' :: cs => cs
        | '-' :: cs => cs
        | cs => cs
      match digits Char.isDigit unsigned with
      | ([], _) => none
      | (_, rest) => some (true, rest)
    else some (false, e :: cs)
  | [] => some (false, [])

/-- A number with a fraction or an exponent or neither; a `j` makes it imaginary. -/
def decimal? (cs : List Char) : Option (Token × List Char) := do
  let (whole, r) := digits Char.isDigit cs
  let (fraction, r) := match r with
    | '.' :: r => let (ds, r) := digits Char.isDigit r; (some ds, r)
    | r => (none, r)
  if whole.isEmpty && (fraction.getD []).isEmpty then none
  else
    let (scaled, r) ← exponent? r
    let (imaginary, r) := match r with
      | 'j' :: r => (true, r)
      | 'J' :: r => (true, r)
      | r => (false, r)
    if endsNumber r && (fraction.isSome || scaled || imaginary || isWhole whole) then
      some (.number imaginary, r)
    else none

def radixDigit? (c : Char) : Option (Char → Bool) :=
  match c.toLower with
  | 'x' => some fun c => (Numeral.hexValue? c).isSome
  | 'o' => some fun c => '0' ≤ c && c ≤ '7'
  | 'b' => some fun c => c == '0' || c == '1'
  | _ => none

def number? : List Char → Option (Token × List Char)
  | '0' :: c :: cs =>
    match radixDigit? c with
    | some isDigit =>
      match moreDigits isDigit cs with
      | ([], _) => none
      | (_, rest) => if endsNumber rest then some (.number false, rest) else none
    | none => decimal? ('0' :: c :: cs)
  | cs => decimal? cs

/-- What stands up to a closing quote, and what follows it. A long text has three quotes at either
end and may hold line ends. -/
def body? (long : Bool) (quote : Char) : List Char → Option (List Char × List Char)
  | [] => none
  | '\\' :: c :: cs => (body? long quote cs).map fun (body, rest) => ('\\' :: c :: body, rest)
  | c :: cs =>
    if c = quote && !long then some ([], cs)
    else if c = quote && [quote, quote].isPrefixOf cs then some ([], cs.drop 2)
    else if c = '\n' && !long then none
    else (body? long quote cs).map fun (body, rest) => (c :: body, rest)

def startsWithHex (count : Nat) (cs : List Char) : Bool :=
  let ds := cs.take count
  ds.length == count && (Numeral.ofHex? ds).any (· ≤ 0x10ffff)

def escapesHold (ofBytes : Bool) : List Char → Bool
  | [] => true
  | '\\' :: c :: cs =>
    (match c with
      | 'x' => startsWithHex 2 cs
      | 'u' => ofBytes || startsWithHex 4 cs
      | 'U' => ofBytes || startsWithHex 8 cs
      | 'N' => ofBytes || (cs.head? == some '\x7b' && cs.contains '\x7d')
      | _ => true) && escapesHold ofBytes cs
  | _ :: cs => escapesHold ofBytes cs

def quoted? (letters : List Char) : List Char → Option (Token × List Char)
  | [] => none
  | quote :: cs => do
    let kind := String.ofList (letters.map Char.toLower)
    let ofBytes := ["b", "br", "rb"].contains kind
    let raw := ["r", "br", "rb"].contains kind
    let long := [quote, quote].isPrefixOf cs
    let (body, rest) ← body? long quote (if long then cs.drop 2 else cs)
    if (kind == "" || kind == "u" || raw || ofBytes) && (raw || escapesHold ofBytes body) &&
        (!ofBytes || body.all (·.toNat < 0x80)) then
      some (.text ofBytes, rest)
    else none

def isQuote (c : Char) : Bool := c == '\'' || c == '"'

def word? (cs : List Char) : Option (Token × List Char) :=
  let (word, rest) := cs.span isWordChar
  if rest.head?.any isQuote then quoted? word rest
  else if ["True", "False", "None"].contains (String.ofList word) then some (.constant, rest)
  else if word = "set".toList then some (.set, rest)
  else none

def token? : List Char → Option (Token × List Char)
  | [] => none
  | '.' :: '.' :: '.' :: cs => some (.constant, cs)
  | c :: cs =>
    if ['(', ')', '\x7b', '\x7d', ',', ':', '\n'].contains c then some (.mark c, cs)
    else if c == '+' || c == '-' then some (.sign, cs)
    else if c.isDigit || c == '.' then number? (c :: cs)
    else word? (c :: cs)

/-- The tokens of a text. A comment ends with its line, and a backslash joins two lines. -/
def tokens? : Nat → List Char → Option (List Token)
  | _, [] => some []
  | 0, _ => none
  | n + 1, '\\' :: '\n' :: cs => tokens? n cs
  | n + 1, '#' :: cs => tokens? n (cs.dropWhile (· != '\n'))
  | n + 1, c :: cs =>
    if c == ' ' || c == '\t' || c == '\x0c' then tokens? n cs
    else do
      let (t, rest) ← token? (c :: cs)
      return t :: (← tokens? n rest)

/-- Line ends count only outside of parentheses and braces. -/
def joinLines : Nat → List Token → List Token
  | _, [] => []
  | depth, .mark c :: ts =>
    if c = '\n' then if depth = 0 then .mark c :: joinLines depth ts else joinLines depth ts
    else if c = '(' || c = '\x7b' then .mark c :: joinLines (depth + 1) ts
    else if c = ')' || c = '\x7d' then .mark c :: joinLines (depth - 1) ts
    else .mark c :: joinLines depth ts
  | depth, t :: ts => t :: joinLines depth ts

inductive Value
  | number (imaginary signed : Bool)
  | other (hashable : Bool)
  deriving DecidableEq, Repr

def Value.isHashable : Value → Bool
  | .number _ _ => true
  | .other hashable => hashable

mutual

def atom? : Nat → List Token → Option (Value × List Token)
  | 0, _ => none
  | n + 1, ts =>
    match ts with
    | .number imaginary :: ts => some (.number imaginary false, ts)
    | .text ofBytes :: ts =>
      let more := ts.takeWhile fun t => t matches .text _
      if more.all (· == .text ofBytes) then some (.other true, ts.drop more.length) else none
    | .constant :: ts => some (.other true, ts)
    | .set :: .mark '(' :: .mark ')' :: ts => some (.other false, ts)
    | .mark '(' :: ts => do
      match ← items? n ')' ts with
      | ([v], false, ts) => some (v, ts)
      | (vs, _, ts) => some (.other (vs.all Value.isHashable), ts)
    | .mark '\x7b' :: .mark '\x7d' :: ts => some (.other false, ts)
    | .mark '\x7b' :: ts => do
      let (first, ts) ← value? n ts
      match first.isHashable, ts with
      | true, .mark ':' :: ts =>
        let (_, ts) ← value? n ts
        some (.other false, ← entries? n ts)
      | true, .mark ',' :: ts =>
        let (vs, _, ts) ← items? n '\x7d' ts
        if vs.all Value.isHashable then some (.other false, ts) else none
      | true, .mark '\x7d' :: ts => some (.other false, ts)
      | _, _ => none
    | _ => none

/-- A value, perhaps with a sign; only a real number goes with an imaginary one after it. -/
def value? : Nat → List Token → Option (Value × List Token)
  | 0, _ => none
  | n + 1, ts => do
    let signed := ts.head? == some .sign
    let (v, ts) ← atom? n (if signed then ts.drop 1 else ts)
    let v ← match v, signed with
      | v, false => some v
      | .number imaginary false, true => some (.number imaginary true)
      | _, true => none
    match ts with
    | .sign :: ts =>
      match v, ← atom? n ts with
      | .number false _, (.number true false, ts) => some (.other true, ts)
      | _, _ => none
    | ts => some (v, ts)

/-- Values up to a closing mark, with commas between them, and whether there was a comma. -/
def items? : Nat → Char → List Token → Option (List Value × Bool × List Token)
  | 0, _, _ => none
  | n + 1, close, ts =>
    if ts.head? = some (.mark close) then some ([], false, ts.drop 1)
    else do
      let (v, ts) ← value? n ts
      match ts with
      | .mark c :: ts =>
        if c = close then some ([v], false, ts)
        else if c = ',' then
          let (vs, _, ts) ← items? n close ts
          some (v :: vs, true, ts)
        else none
      | _ => none

def entries? : Nat → List Token → Option (List Token)
  | 0, _ => none
  | n + 1, ts =>
    match ts with
    | .mark '\x7d' :: ts => some ts
    | .mark ',' :: .mark '\x7d' :: ts => some ts
    | .mark ',' :: ts => do
      let (key, ts) ← value? n ts
      match key.isHashable, ts with
      | true, .mark ':' :: ts =>
        let (_, ts) ← value? n ts
        entries? n ts
      | _, _ => none
    | _ => none

end

def withLineEnds : List Char → List Char
  | [] => []
  | '\r' :: '\n' :: cs => '\n' :: withLineEnds cs
  | '\r' :: cs => '\n' :: withLineEnds cs
  | c :: cs => c :: withLineEnds cs

/-- Whether a text is one literal, or several with commas between them. -/
def isLiteral (text : List Char) : Bool :=
  match if text.contains '\x00' then none else tokens? (text.length + 1) (withLineEnds text) with
  | none => false
  | some ts =>
    let lineEnd := Token.mark '\n'
    let ts := (joinLines 0 ts).dropWhile (· == lineEnd) ++ [lineEnd]
    match items? (4 * ts.length) '\n' ts with
    | some (_ :: _, _, rest) => rest.all (· == lineEnd)
    | _ => false

def isHandlerChar (c : Char) : Bool :=
  c.isAlphanum || c == '_' || c == '.' || (0x80 ≤ c.toNat && Text.isPrintable c)

/-- Whether the arguments of an action can be read. A handler without arguments has none. -/
def isReadable (action : List Char) : Bool :=
  let action := Text.trim action
  match action.dropWhile isHandlerChar with
  | [] => true
  | '(' :: rest =>
    if rest.getLast? = some ')' && !rest.contains '\n' then isLiteral ('(' :: rest)
    else isLiteral action
  | _ => isLiteral action

end Concordance.Console.Action
