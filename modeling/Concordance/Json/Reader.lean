import Concordance.Binary64.Reader
import Concordance.Numeral.Integer
import Concordance.Numeral.Hex
import Concordance.Text.Wide
import Concordance.Keyed
import Concordance.Json.Basic

/-! Reading the data exchange format. Of members with one name the last counts, in the place of
the first. -/

namespace Concordance.Json

/-- Why a text holds no value: it is spelled wrongly, or its lists and objects are nested too
deeply for the reader, which finds the first of the two. -/
inductive Failure
  | malformed
  | tooDeep
  deriving DecidableEq, Repr

namespace Reader

def isSpace (c : Char) : Bool := c == ' ' || c == '\t' || c == '\n' || c == '\r'

def skip (cs : List Char) : List Char := cs.dropWhile isSpace

def unit? : List Char → Option (Nat × List Char)
  | a :: b :: c :: d :: r => (Numeral.ofHex? [a, b, c, d]).map fun n => (n, r)
  | _ => none

/-- The character of a unit; a high unit takes the low unit after it. Half a pair alone is no
character and is replaced. -/
def ofUnit (n : Nat) (r : List Char) : Char × List Char :=
  if Text.isHighSurrogate n then
    match r with
    | '\\' :: 'u' :: r' =>
      match unit? r' with
      | some (m, r'') =>
        if Text.isLowSurrogate m then (Text.ofSurrogates n m, r'')
        else ('\uFFFD', r)
      | none => ('\uFFFD', r)
    | _ => ('\uFFFD', r)
  else if Text.isLowSurrogate n then ('\uFFFD', r)
  else (Char.ofNat n, r)

def simpleEscape? : Char → Option Char
  | '"' => some '"'
  | '\\' => some '\\'
  | '/' => some '/'
  | 'b' => some '\x08'
  | 'f' => some '\x0c'
  | 'n' => some '\n'
  | 'r' => some '\r'
  | 't' => some '\t'
  | _ => none

def stringBody : Nat → List Char → Option (List Char × List Char)
  | 0, _ => none
  | _, [] => none
  | n + 1, '\\' :: 'u' :: r => do
    let (u, r) ← unit? r
    let (c, r) := ofUnit u r
    let (s, r) ← stringBody n r
    some (c :: s, r)
  | n + 1, '\\' :: e :: r => do
    let c ← simpleEscape? e
    let (s, r) ← stringBody n r
    some (c :: s, r)
  | n + 1, c :: r =>
    if c = '"' then some ([], r)
    else if c = '\\' ∨ c.toNat < 0x20 then none
    else do
      let (s, r) ← stringBody n r
      some (c :: s, r)

def digitRun (cs : List Char) : List Char × List Char := cs.span Char.isDigit

def digitValues (cs : List Char) : List Nat := cs.map (·.toNat - 48)

def fraction : List Char → Option (List Char) × List Char
  | '.' :: r =>
    match digitRun r with
    | ([], _) => (none, '.' :: r)
    | (ds, r) => (some ds, r)
  | r => (none, r)

def exponent : List Char → Option (Bool × List Char) × List Char
  | c :: r =>
    if c = 'e' ∨ c = 'E' then
      let (negative, body) := Numeral.sign r
      match digitRun body with
      | ([], _) => (none, c :: r)
      | (ds, r) => (some (negative, ds), r)
    else (none, c :: r)
  | [] => (none, [])

/-- A number whose sign has been read. An integer has at most `Numeral.maxDigits` digits. -/
def number (negative : Bool) (cs : List Char) : Option (Json × List Char) :=
  let (whole, r) := match cs with
    | '0' :: r => (['0'], r)
    | cs => digitRun cs
  if whole.isEmpty then none
  else
    match fraction r with
    | (fractional, r) =>
      match exponent r with
      | (power, r) =>
        match fractional, power with
        | none, none =>
          if whole.length ≤ Numeral.maxDigits then
            let value := Numeral.ofDigits (digitValues whole)
            some (.int (if negative then -value else value), r)
          else none
        | _, _ =>
          let power : Int := match power with
            | some (s, ds) =>
              let value := Numeral.ofDigits (digitValues ds)
              if s then -value else value
            | none => 0
          some (.float (.ofDigits negative (digitValues whole)
            (digitValues (fractional.getD [])) power), r)

def word? (w : String) (cs : List Char) : Option (List Char) := w.toList.isPrefixOf? cs

def scalar (cs : List Char) : Option (Json × List Char) :=
  match word? "null" cs, word? "true" cs, word? "false" cs, word? "NaN" cs,
    word? "Infinity" cs, word? "-Infinity" cs with
  | some r, _, _, _, _, _ => some (.null, r)
  | _, some r, _, _, _, _ => some (.bool true, r)
  | _, _, some r, _, _, _ => some (.bool false, r)
  | _, _, _, some r, _, _ => some (.float .nan, r)
  | _, _, _, _, some r, _ => some (.float (.infinite false), r)
  | _, _, _, _, _, some r => some (.float (.infinite true), r)
  | none, none, none, none, none, none =>
    match cs with
    | '-' :: r => number true r
    | r => number false r

def spelledRight {α : Type} : Option α → Except Failure α
  | some a => .ok a
  | none => .error .malformed

def memberName : List Char → Except Failure (String × List Char)
  | '"' :: r => do
    let (key, r) ← spelledRight (stringBody r.length.succ r)
    match skip r with
    | ':' :: r => .ok (String.ofList key, skip r)
    | _ => .error .malformed
  | _ => .error .malformed

mutual

/-- A value at the start of a text, and what follows it. `levels` lists and objects may be open
one within another. -/
def value : Nat → Nat → List Char → Except Failure (Json × List Char)
  | 0, _, _ => .error .malformed
  | n + 1, levels, cs =>
    match cs with
    | '"' :: r => do
      let (s, r) ← spelledRight (stringBody r.length.succ r)
      .ok (.str (String.ofList s), r)
    | '[' :: r =>
      match levels with
      | 0 => .error .tooDeep
      | levels + 1 =>
        match skip r with
        | ']' :: r => .ok (.arr [], r)
        | r => do
          let (items, r) ← items n levels r
          .ok (.arr items, r)
    | '\x7b' :: r =>
      match levels with
      | 0 => .error .tooDeep
      | levels + 1 =>
        match skip r with
        | '\x7d' :: r => .ok (.obj [], r)
        | r => do
          let (members, r) ← members n levels r
          .ok (.obj (Keyed.ofList members).entries, r)
    | cs => spelledRight (scalar cs)

def items : Nat → Nat → List Char → Except Failure (List Json × List Char)
  | 0, _, _ => .error .malformed
  | n + 1, levels, cs => do
    let (v, r) ← value n levels cs
    match skip r with
    | ',' :: r =>
      let (vs, r) ← items n levels (skip r)
      .ok (v :: vs, r)
    | ']' :: r => .ok ([v], r)
    | _ => .error .malformed

def members : Nat → Nat → List Char → Except Failure (List (String × Json) × List Char)
  | 0, _, _ => .error .malformed
  | n + 1, levels, cs => do
    let (key, r) ← memberName cs
    let (v, r) ← value n levels r
    match skip r with
    | ',' :: r =>
      let (ms, r) ← members n levels (skip r)
      .ok ((key, v) :: ms, r)
    | '\x7d' :: r => .ok ([(key, v)], r)
    | _ => .error .malformed

end

end Reader

/-- The value of a text. Within the outermost list or object, `depth` more may be open one within
another. Each level takes two steps, to its contents and to the first of them. -/
def read (depth : Nat) (cs : List Char) : Except Failure Json := do
  let (v, r) ← Reader.value (2 * cs.length + 1) (depth + 1) (Reader.skip cs)
  if (Reader.skip r).isEmpty then .ok v else .error .malformed

/-- The value of a text, however deeply it is nested: a text has no more levels than characters. -/
def read? (cs : List Char) : Option Json := (read cs.length cs).toOption

end Concordance.Json
