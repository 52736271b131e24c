import Concordance.Numeral.Hex
import Concordance.Numeral.Integer
import Concordance.Binary64.Reader
import Concordance.Toml.Nest

/-! Reading configuration files: lines of names with values, under headers that name tables. -/

namespace Concordance.Toml

namespace Reader

def ofOption {α : Type} (o : Option α) : Except Failure α := o.elim (.error .malformed) .ok

/-! ## Characters -/

/-- A line feed alone ends a line. -/
def lines : List Char → List Char
  | '\r' :: '\n' :: r => '\n' :: lines r
  | c :: r => c :: lines r
  | [] => []

def isSpace (c : Char) : Bool := c == ' ' || c == '\t'

def isGap (c : Char) : Bool := isSpace c || c == '\n'

def skip (cs : List Char) : List Char := cs.dropWhile isSpace

/-- Control characters stand in no text; a tab is none. -/
def isControl (c : Char) : Bool := (c.toNat < 0x20 && c != '\t') || c.toNat == 0x7F

def comment? : List Char → Option (List Char)
  | '#' :: r =>
    let (text, rest) := r.span (· != '\n')
    if text.any isControl then none else some rest
  | r => some r

def gaps? : Nat → List Char → Option (List Char)
  | 0, _ => none
  | n + 1, cs =>
    match cs.dropWhile isGap with
    | '#' :: r => (comment? ('#' :: r)).bind (gaps? n)
    | r => some r

def gap? (cs : List Char) : Option (List Char) := gaps? (cs.length + 1) cs

/-! ## Texts -/

def scalar? (digits : List Char) : Option Char :=
  (Numeral.ofHex? digits).bind fun n =>
    if n ≤ 0xD7FF ∨ (0xE000 ≤ n ∧ n ≤ 0x10FFFF) then some (Char.ofNat n) else none

def escape? : List Char → Option (Char × List Char)
  | 'b' :: r => some ('\x08', r)
  | 't' :: r => some ('\t', r)
  | 'n' :: r => some ('\n', r)
  | 'f' :: r => some ('\x0c', r)
  | 'r' :: r => some ('\r', r)
  | '"' :: r => some ('"', r)
  | '\\' :: r => some ('\\', r)
  | 'u' :: r => if r.length < 4 then none else (scalar? (r.take 4)).map (·, r.drop 4)
  | 'U' :: r => if r.length < 8 then none else (scalar? (r.take 8)).map (·, r.drop 8)
  | _ => none

def basic? : Nat → List Char → Option (List Char × List Char)
  | 0, _ => none
  | _, [] => none
  | n + 1, '\\' :: r => do
    let (c, r) ← escape? r
    let (s, r) ← basic? n r
    some (c :: s, r)
  | n + 1, c :: r =>
    if c = '"' then some ([], r)
    else if isControl c then none
    else (basic? n r).map fun (s, r) => (c :: s, r)

/-- What follows a line that ends in a backslash: the next text, wherever it starts. -/
def continued? (cs : List Char) : Option (List Char) :=
  match skip cs with
  | [] => some []
  | '\n' :: r => some (r.dropWhile isGap)
  | _ => none

def longBasic? : Nat → List Char → Option (List Char × List Char)
  | 0, _ => none
  | _, [] => none
  | _, '"' :: '"' :: '"' :: r => some ([], r)
  | n + 1, '\\' :: c :: r =>
    if isGap c then (continued? (c :: r)).bind (longBasic? n)
    else do
      let (c, r) ← escape? (c :: r)
      let (s, r) ← longBasic? n r
      some (c :: s, r)
  | n + 1, c :: r =>
    if c = '\\' ∨ (isControl c && c != '\n') then none
    else (longBasic? n r).map fun (s, r) => (c :: s, r)

def literal? : List Char → Option (List Char × List Char)
  | [] => none
  | c :: r =>
    if c = '\'' then some ([], r)
    else if isControl c then none
    else (literal? r).map fun (s, r) => (c :: s, r)

def longLiteral? : List Char → Option (List Char × List Char)
  | [] => none
  | '\'' :: '\'' :: '\'' :: r => some ([], r)
  | c :: r =>
    if isControl c && c != '\n' then none
    else (longLiteral? r).map fun (s, r) => (c :: s, r)

/-- Up to two more quotes after the closing ones belong to the text. -/
def trailing (mark : Char) (s : List Char) : List Char → List Char × List Char
  | c :: d :: r =>
    if c = mark then if d = mark then (s ++ [c, d], r) else (s ++ [c], d :: r) else (s, c :: d :: r)
  | [c] => if c = mark then (s ++ [c], []) else (s, [c])
  | [] => (s, [])

/-- A line end right after the opening quotes is not part of the text. -/
def opened : List Char → List Char
  | '\n' :: r => r
  | r => r

def text? : List Char → Option (List Char × List Char)
  | '"' :: '"' :: '"' :: r =>
    (longBasic? (r.length + 1) (opened r)).map fun (s, r) => trailing '"' s r
  | '"' :: r => basic? (r.length + 1) r
  | '\'' :: '\'' :: '\'' :: r => (longLiteral? (opened r)).map fun (s, r) => trailing '\'' s r
  | '\'' :: r => literal? r
  | _ => none

/-! ## Names -/

def name? : List Char → Option (String × List Char)
  | '"' :: r => (basic? (r.length + 1) r).map fun (s, r) => (String.ofList s, r)
  | '\'' :: r => (literal? r).map fun (s, r) => (String.ofList s, r)
  | cs =>
    match cs.span isBareChar with
    | ([], _) => none
    | (s, r) => some (String.ofList s, r)

def names? : Nat → List Char → Option (Path × List Char)
  | 0, _ => none
  | n + 1, cs => do
    let (name, r) ← name? cs
    match skip r with
    | '.' :: r =>
      let (path, r) ← names? n (skip r)
      some (name :: path, r)
    | r => some ([name], r)

def path? (cs : List Char) : Option (Path × List Char) := names? (cs.length + 1) cs

/-! ## Dates and times -/

def digitValue? (c : Char) : Option Nat := if c.isDigit then some (c.toNat - 48) else none

def number? (cs : List Char) : Option Nat := (cs.mapM digitValue?).map Numeral.ofDigits

def pair? (low high : Nat) : List Char → Option (Nat × List Char)
  | a :: b :: r =>
    (number? [a, b]).bind fun n => if low ≤ n ∧ n ≤ high then some (n, r) else none
  | _ => none

/-- Digits after a point; the first six count. -/
def microsecond (cs : List Char) : Nat × List Char :=
  match cs with
  | '.' :: r =>
    match r.span Char.isDigit with
    | ([], _) => (0, cs)
    | (ds, r) =>
      let ds := ds.take 6
      (((number? (ds ++ List.replicate (6 - ds.length) '0')).getD 0), r)
  | _ => (0, cs)

def time? (cs : List Char) : Option (Time × List Char) := do
  let (hour, r) ← pair? 0 23 cs
  let (minute, r) ← ([':'].isPrefixOf? r).bind (pair? 0 59)
  let (second, r) ← ([':'].isPrefixOf? r).bind (pair? 0 59)
  let (microsecond, r) := microsecond r
  some (⟨hour, minute, second, microsecond⟩, r)

def date? : List Char → Option (Date × List Char)
  | a :: b :: c :: d :: '-' :: r => do
    let year ← number? [a, b, c, d]
    let (month, r) ← pair? 1 12 r
    let (day, r) ← (['-'].isPrefixOf? r).bind (pair? 1 31)
    some (⟨year, month, day⟩, r)
  | _ => none

def offsetMinutes? (r : List Char) : Option (Int × List Char) := do
  let (hour, r) ← pair? 0 23 r
  let (minute, r) ← ([':'].isPrefixOf? r).bind (pair? 0 59)
  some (60 * hour + minute, r)

def offset (cs : List Char) : Option Int × List Char :=
  match cs with
  | 'Z' :: r | 'z' :: r => (some 0, r)
  | '+' :: r => ((offsetMinutes? r).map fun (m, r) => (some m, r)).getD (none, cs)
  | '-' :: r => ((offsetMinutes? r).map fun (m, r) => (some (-m), r)).getD (none, cs)
  | _ => (none, cs)

def moment? (cs : List Char) : Option (Except Failure (Toml × List Char)) := do
  let (d, r) ← date? cs
  if !d.isValid then some (.error .malformed)
  else
    let timed := match r with
      | c :: r => if c = 'T' ∨ c = 't' ∨ c = ' ' then time? r else none
      | [] => none
    match timed with
    | none => some (.ok (.date d, r))
    | some (t, r) =>
      let (o, r) := offset r
      some (.ok (.moment ⟨d, t, o⟩, r))

/-! ## Numbers -/

def digitsOf (p : Char → Bool) : List Char → List Char × List Char
  | [] => ([], [])
  | '_' :: c :: r =>
    if p c then
      let (ds, r) := digitsOf p r
      (c :: ds, r)
    else ([], '_' :: c :: r)
  | c :: r =>
    if p c then
      let (ds, r) := digitsOf p r
      (c :: ds, r)
    else ([], c :: r)

def digits? (p : Char → Bool) : List Char → Option (List Char × List Char)
  | c :: r => if p c then some (digitsOf p (c :: r)) else none
  | [] => none

def ofRadix (radix : Nat) (ds : List Char) : Nat :=
  ds.foldl (fun n c => radix * n + (Numeral.hexValue? c).getD 0) 0

/-- An unsigned integer in the radix that its second character names. -/
def radix? : List Char → Option (Nat × List Char)
  | '0' :: 'x' :: r =>
    (digits? (fun c => (Numeral.hexValue? c).isSome) r).map fun (ds, r) => (ofRadix 16 ds, r)
  | '0' :: 'o' :: r =>
    (digits? (fun c => '0' ≤ c && c ≤ '7') r).map fun (ds, r) => (ofRadix 8 ds, r)
  | '0' :: 'b' :: r =>
    (digits? (fun c => c == '0' || c == '1') r).map fun (ds, r) => (ofRadix 2 ds, r)
  | _ => none

def whole? : List Char → Option (List Char × List Char)
  | '0' :: r => some (['0'], r)
  | r => digits? Char.isDigit r

def fraction? : List Char → Option (List Char × List Char)
  | '.' :: r => digits? Char.isDigit r
  | _ => none

def exponent? : List Char → Option (Int × List Char)
  | c :: r =>
    if c = 'e' ∨ c = 'E' then
      let (negative, r) := Numeral.sign r
      (digits? Char.isDigit r).map fun (ds, r) =>
        let value := ofRadix 10 ds
        (if negative then -(value : Int) else value, r)
    else none
  | [] => none

/-- A decimal number; with a fraction or an exponent it is no integer. -/
def decimal? (cs : List Char) : Option (Except Failure (Toml × List Char)) := do
  let (negative, r) := Numeral.sign cs
  let (whole, r) ← whole? r
  let (fraction, r) := match fraction? r with
    | some (ds, r) => (some ds, r)
    | none => (none, r)
  let (power, r) := match exponent? r with
    | some (e, r) => (some e, r)
    | none => (none, r)
  let values (ds : List Char) := ds.filterMap digitValue?
  some <| match fraction, power with
    | none, none =>
      let value := ofRadix 10 whole
      if whole.length ≤ Numeral.maxDigits then
        .ok (.int (if negative then -value else value), r)
      else .error .integerTooLong
    | _, _ => .ok (.float (.ofDigits negative (values whole) (values (fraction.getD []))
        (power.getD 0)), r)

def special? (cs : List Char) : Option (Toml × List Char) :=
  let (negative, r) := Numeral.sign cs
  match r with
  | 'i' :: 'n' :: 'f' :: r => some (.float (.infinite negative), r)
  | 'n' :: 'a' :: 'n' :: r => some (.float .nan, r)
  | _ => none

def simple (cs : List Char) : Except Failure (Toml × List Char) :=
  match "true".toList.isPrefixOf? cs, "false".toList.isPrefixOf? cs with
  | some r, _ => .ok (.bool true, r)
  | _, some r => .ok (.bool false, r)
  | none, none =>
    match moment? cs, time? cs, radix? cs, decimal? cs with
    | some result, _, _, _ => result
    | _, some (t, r), _, _ => .ok (.time t, r)
    | _, _, some (n, r), _ => .ok (.int n, r)
    | _, _, _, some result => result
    | none, none, none, none => ofOption (special? cs)

/-! ## Values -/

def isNested : Toml → Bool
  | .arr _ | .table _ => true
  | _ => false

def enter? (path : Path) (value : Toml) (marks : Marks) (entries : Entries) : Option Entries :=
  if marks.isFrozen path then none
  else (path.getLast?).bind fun stem => within? false (define? stem value) path.dropLast entries

mutual

/-- A value at the start of a text, and what follows it. `calls` may be open one within another: a
list takes two of them, and a table on one line takes three. -/
def value : Nat → Nat → List Char → Except Failure (Toml × List Char)
  | 0, _, _ => .error .malformed
  | n + 1, calls, cs =>
    match cs with
    | '"' :: _ | '\'' :: _ => (ofOption (text? cs)).map fun (s, r) => (.str (String.ofList s), r)
    | '[' :: r =>
      if calls < 2 then .error .tooDeep
      else do
        let r ← ofOption (gap? r)
        match r with
        | ']' :: r => .ok (.arr [], r)
        | r => (items n (calls - 2) r).map fun (vs, r) => (.arr vs, r)
    | '\x7b' :: r =>
      if calls < 3 then .error .tooDeep
      else
        match skip r with
        | '\x7d' :: r => .ok (.table [], r)
        | r => (members n (calls - 3) .none [] r).map fun (es, r) => (.table es, r)
    | cs => simple cs

def items : Nat → Nat → List Char → Except Failure (List Toml × List Char)
  | 0, _, _ => .error .malformed
  | n + 1, calls, cs => do
    let (v, r) ← value n calls cs
    match ← ofOption (gap? r) with
    | ']' :: r => .ok ([v], r)
    | ',' :: r =>
      match ← ofOption (gap? r) with
      | ']' :: r => .ok ([v], r)
      | r => (items n calls r).map fun (vs, r) => (v :: vs, r)
    | _ => .error .malformed

def members : Nat → Nat → Marks → Entries → List Char → Except Failure (Entries × List Char)
  | 0, _, _, _, _ => .error .malformed
  | n + 1, calls, marks, entries, cs => do
    let (path, r) ← ofOption (path? cs)
    let r ← ofOption (['='].isPrefixOf? r)
    let (v, r) ← value n calls (skip r)
    let entries ← ofOption (enter? path v marks entries)
    match skip r with
    | '\x7d' :: r => .ok (entries, r)
    | ',' :: r =>
      members n calls (if isNested v then marks.freeze path else marks) entries (skip r)
    | _ => .error .malformed

end

/-! ## Statements -/

/-- The document read so far: its tables, and the header under which the next line stands. -/
structure Draft where
  root : Entries
  marks : Marks
  header : Path

def Draft.empty : Draft := ⟨[], .none, []⟩

def Draft.settle (d : Draft) : Draft := { d with marks := d.marks.settle }

def Draft.openTable? (d : Draft) (path : Path) : Option Draft :=
  if d.marks.isClosed path || d.marks.isFrozen path then none
  else
    (within? true some path d.root).map fun root => ⟨root, d.marks.close path, path⟩

def Draft.openItem? (d : Draft) (path : Path) : Option Draft :=
  if d.marks.isFrozen path then none
  else (path.getLast?).bind fun stem =>
    (within? true (extend? stem) path.dropLast d.root).map fun root =>
      ⟨root, (d.marks.forget path).close path, path⟩

def inner (header path : Path) : List Path :=
  (List.range (path.length - 1)).map fun i => header ++ path.take (i + 1)

def Draft.define? (d : Draft) (path : Path) (v : Toml) : Option Draft :=
  let parent := d.header ++ path.dropLast
  let between := inner d.header path
  if between.any d.marks.isClosed || d.marks.isFrozen parent then none
  else (path.getLast?).bind fun stem =>
    (within? true (Toml.define? stem v) parent d.root).map fun root =>
      let marks := between.foldl Marks.suspend d.marks
      { d with
        root
        marks := if isNested v then marks.freeze (d.header ++ path) else marks }

/-- One statement, and what follows it on its line. In a value, each level takes two steps. -/
def statement (calls : Nat) (d : Draft) (cs : List Char) : Except Failure (Draft × List Char) :=
  match cs with
  | '[' :: '[' :: r => do
    let (path, r) ← ofOption (path? (skip r))
    let d ← ofOption (d.settle.openItem? path)
    let r ← ofOption ([']', ']'].isPrefixOf? r)
    .ok (d, r)
  | '[' :: r => do
    let (path, r) ← ofOption (path? (skip r))
    let d ← ofOption (d.settle.openTable? path)
    let r ← ofOption ([']'].isPrefixOf? r)
    .ok (d, r)
  | '#' :: _ => .ok (d, cs)
  | cs => do
    let (path, r) ← ofOption (path? cs)
    let r ← ofOption (['='].isPrefixOf? r)
    let (v, r) ← value (2 * r.length + 1) calls (skip r)
    let d ← ofOption (d.define? path v)
    .ok (d, r)

def statements (calls : Nat) : Nat → Draft → List Char → Except Failure Draft
  | 0, _, _ => .error .malformed
  | n + 1, d, cs =>
    match skip cs with
    | [] => .ok d
    | '\n' :: r => statements calls n d r
    | r => do
      let (d, r) ← statement calls d r
      match ← ofOption (comment? (skip r)) with
      | [] => .ok d
      | '\n' :: r => statements calls n d r
      | _ => .error .malformed

end Reader

/-- The entries of a file. `calls` bounds how deeply their values may be nested. -/
def read (calls : Nat) (text : String) : Except Failure Entries :=
  let cs := Reader.lines text.toList
  (Reader.statements calls (cs.length + 1) .empty cs).map (·.root)

end Concordance.Toml
