import StepUp.Decimal.Literal
import StepUp.Json.Reader

/-!
# Scalars

A scalar is a text that is written plain or in quotes.  In quotes it is that text; written plain it
may be null, a truth value or a number, and is a text only where it is none of these.
-/

namespace StepUp.Yaml

open Decimal (Binary64 Literal)

/-- A scalar as it was written. -/
structure Scalar where
  text : String
  plain : Bool
deriving DecidableEq, Repr

/-! ## Numbers -/

/-- The number that digits of a base spell. -/
def digitsIn? (base : Nat) (digits : List Char) : Option Nat :=
  if digits.isEmpty then none
  else digits.foldlM (fun n c => do
    let d ← Json.hexValue? c
    if d < base then some (n * base + d) else none) 0

/-- The size of a whole number: in base sixteen, eight or two after `0x`, `0o` or `0b`, else in
base ten. -/
def magnitude? : List Char → Option Nat
  | '0' :: 'x' :: digits => digitsIn? 16 digits
  | '0' :: 'o' :: digits => digitsIn? 8 digits
  | '0' :: 'b' :: digits => digitsIn? 2 digits
  | digits => digitsIn? 10 digits

/-- Digits that are no number because there is a zero in front of them. -/
def isZeroPadded (cs : List Char) : Bool :=
  match (Literal.splitSign cs).2 with
  | '0' :: c :: rest => (c :: rest).all Char.isDigit
  | _ => false

/-- A whole number of at most a hundred and twenty-eight bits. -/
def whole? (cs : List Char) : Option Int :=
  if isZeroPadded cs then none
  else do
    let (negative, cs) := Literal.splitSign cs
    let n ← magnitude? cs
    if negative then if n ≤ Nat.pow 2 127 then some (-n) else none
    else if n < Nat.pow 2 128 then some n else none

/-- The words for what is not a finite number. -/
def unbounded? : String → Option Binary64
  | ".inf" | ".Inf" | ".INF" | "+.inf" | "+.Inf" | "+.INF" => some (.infinity false)
  | "-.inf" | "-.Inf" | "-.INF" => some (.infinity true)
  | ".nan" | ".NaN" | ".NAN" => some .notANumber
  | _ => none

/-- A double: one of the words for it, or a literal that is not too large. -/
def double? (text : String) : Option Binary64 :=
  if isZeroPadded text.toList then none
  else (unbounded? text).or ((Literal.parse? text.toList).bind Literal.double?)

/-! ## Meaning -/

/-- The meaning of a scalar that is written plain. -/
def plainValue (text : String) : Json :=
  match text with
  | "" | "~" | "null" | "Null" | "NULL" => .null
  | "true" | "True" | "TRUE" => .bool true
  | "false" | "False" | "FALSE" => .bool false
  | _ =>
    match whole? text.toList with
    | some i => .int i
    | none =>
      match double? text with
      | some d => .float d
      | none => .str text

/-- The meaning of a scalar. -/
def Scalar.value (s : Scalar) : Json :=
  if s.plain then plainValue s.text else .str s.text

end StepUp.Yaml
