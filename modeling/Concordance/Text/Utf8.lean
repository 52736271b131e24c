/-! Text as bytes of one to four for each character. -/

namespace Concordance.Text

def utf8 (c : Char) : List Nat :=
  let n := c.toNat
  if n < 0x80 then [n]
  else if n < 0x800 then [0xC0 + n / 64, 0x80 + n % 64]
  else if n < 0x10000 then [0xE0 + n / 4096, 0x80 + n / 64 % 64, 0x80 + n % 64]
  else [0xF0 + n / 262144, 0x80 + n / 4096 % 64, 0x80 + n / 64 % 64, 0x80 + n % 64]

/-- A piece of partly encoded text: a byte, or a character that stands for itself. -/
inductive Unit8
  | byte (n : Nat)
  | char (c : Char)
  deriving DecidableEq, Repr

def Unit8.between (low high : Nat) : Unit8 → Option Nat
  | byte n => if low ≤ n ∧ n ≤ high then some n else none
  | char _ => none

/-- The length of the sequence that a byte starts and the bounds of its second byte. -/
def lead? (n : Nat) : Option (Nat × Nat × Nat) :=
  if 0xC2 ≤ n ∧ n ≤ 0xDF then some (2, 0x80, 0xBF)
  else if n = 0xE0 then some (3, 0xA0, 0xBF)
  else if n = 0xED then some (3, 0x80, 0x9F)
  else if 0xE1 ≤ n ∧ n ≤ 0xEF then some (3, 0x80, 0xBF)
  else if n = 0xF0 then some (4, 0x90, 0xBF)
  else if 0xF1 ≤ n ∧ n ≤ 0xF3 then some (4, 0x80, 0xBF)
  else if n = 0xF4 then some (4, 0x80, 0x8F)
  else none

def replacement : Char := '\uFFFD'

/-- Each longest start of a sequence that is not completed becomes one replacement character. -/
def decodeUtf8 : List Unit8 → List Char
  | [] => []
  | .char c :: us => c :: decodeUtf8 us
  | .byte a :: us =>
    if a < 0x80 then Char.ofNat a :: decodeUtf8 us
    else
      match lead? a with
      | none => replacement :: decodeUtf8 us
      | some (length, low, high) =>
        match us with
        | [] => [replacement]
        | b :: us' =>
          match b.between low high with
          | none => replacement :: decodeUtf8 (b :: us')
          | some b =>
            if length = 2 then Char.ofNat ((a - 0xC0) * 64 + (b - 0x80)) :: decodeUtf8 us'
            else
              match us' with
              | [] => [replacement]
              | c :: us'' =>
                match c.between 0x80 0xBF with
                | none => replacement :: decodeUtf8 (c :: us'')
                | some c =>
                  if length = 3 then
                    Char.ofNat ((a - 0xE0) * 4096 + (b - 0x80) * 64 + (c - 0x80)) ::
                      decodeUtf8 us''
                  else
                    match us'' with
                    | [] => [replacement]
                    | d :: us''' =>
                      match d.between 0x80 0xBF with
                      | none => replacement :: decodeUtf8 (d :: us''')
                      | some d =>
                        Char.ofNat ((a - 0xF0) * 262144 + (b - 0x80) * 4096 + (c - 0x80) * 64 +
                          (d - 0x80)) :: decodeUtf8 us'''

end Concordance.Text
