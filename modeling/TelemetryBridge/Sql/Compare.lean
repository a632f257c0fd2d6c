import TelemetryBridge.Sql.Value

/-!
# Ordering values

Values are ordered by class first: null, then numbers, then texts, then blobs. Numbers compare
by their exact values (an integer and a double included), blobs byte by byte, and texts by a
*collation*:

* `binary` compares the bytes of the texts;
* `nocase` does the same after folding the ASCII letters to lower case;
* `rtrim` does the same after dropping trailing spaces.

A comparison operator first converts its operands by the *comparison affinity* of the two
expressions: when both have an affinity, numeric if either is numeric and none otherwise; when
only one has, that one. A numeric comparison affinity reads each text that is all a number as
that number; a text comparison affinity writes each number as text when either side is a text.
Then a null on either side makes the result null (except for `IS` and `IS NOT`, under which two
nulls are equal).

Main definitions: `Sql.Collation`, `Sql.Value.order`, `Sql.comparisonAffinity`, `Sql.compareOp`.
-/

namespace TelemetryBridge

namespace Sql

/-- How texts are ordered. -/
inductive Collation where
  | binary
  | nocase
  | rtrim
  deriving Repr, DecidableEq, Inhabited

/-- The collation a name stands for, without regard to ASCII case. -/
def Collation.ofName? (n : String) : Option Collation :=
  match nameKey n with
  | "BINARY" => some .binary
  | "NOCASE" => some .nocase
  | "RTRIM" => some .rtrim
  | _ => none

/-- ASCII lower case of a character. -/
def asciiLower (c : Char) : Char := if 'A' ≤ c && c ≤ 'Z' then Char.ofNat (c.toNat + 32) else c

/-- Compares two texts under a collation. -/
def Collation.order (c : Collation) (a b : String) : Ordering :=
  match c with
  | .binary => compare a b
  | .nocase => compare (String.ofList (a.toList.map asciiLower)) (String.ofList (b.toList.map asciiLower))
  | .rtrim =>
    let cut (s : String) := String.ofList (s.toList.reverse.dropWhile (· == ' ')).reverse
    compare (cut a) (cut b)

namespace Value

/-- The rank of a value's class in comparisons. -/
def rank : Value → Nat
  | .null => 0
  | .integer _ => 1
  | .real _ => 1
  | .text _ => 2
  | .blob _ => 3

/-- A number as an exact rational pair for comparison: numerator and denominator. -/
def asRatio : Value → Option (Int × Nat)
  | .integer n => some (n, 1)
  | .real x =>
    match Binary.ofFloat x with
    | .finite neg mag => some ((if neg then -(mag : Int) else mag), 2 ^ 1074)
    | .inf neg => some ((if neg then -1 else 1) * 2 ^ 2100, 1)
    | .nan => none
  | _ => none

/-- Compares two values under a collation for texts. -/
def order (c : Collation) (a b : Value) : Ordering :=
  if a.rank != b.rank then compare a.rank b.rank
  else
    match a, b with
    | .text s, .text t => c.order s t
    | .blob s, .blob t => compare s t
    | _, _ =>
      match a.asRatio, b.asRatio with
      | some (p, q), some (r, s) => compare (p * s) (r * q)
      | _, _ => .eq

/-- Compares two values byte by byte for texts. -/
def compare (a b : Value) : Ordering := order .binary a b

/-- Whether two values are the same under a collation; nulls are the same as each other. -/
def same (c : Collation) (a b : Value) : Bool := order c a b == .eq

/-- A value converted for a comparison under an affinity: a numeric affinity reads a text that
is all a number, the text affinity writes a number as text when either side is a text. -/
def forComparison (aff : Option Affinity) (anyText : Bool) (v : Value) : Value :=
  match aff with
  | some .integer | some .real | some .numeric =>
    match v with
    | .text _ => v.numericForm false
    | _ => v
  | some .text =>
    match v with
    | .integer _ | .real _ => if anyText then .text v.asText else v
    | _ => v
  | _ => v

end Value

/-- The affinity a comparison applies to both sides, from the affinities of its operands. -/
def comparisonAffinity : Option Affinity → Option Affinity → Option Affinity
  | some a, some b => if a.isNumeric || b.isNumeric then some .numeric else none
  | some a, none => some a
  | none, some b => some b
  | none, none => none

/-- The comparison operators. -/
inductive CompareOp where
  | eq
  | ne
  | lt
  | le
  | gt
  | ge
  | is
  | isNot
  deriving Repr, DecidableEq, Inhabited

/-- A comparison of two values under an affinity and a collation: an integer truth, or null. -/
def compareOp (o : CompareOp) (aff : Option Affinity) (coll : Collation) (x y : Value) : Value :=
  let anyText := x.isText || y.isText
  let x' := x.forComparison aff anyText
  let y' := y.forComparison aff anyText
  let c := x'.order coll y'
  match o with
  | .is =>
    .integer (if x.isNull && y.isNull then 1 else if x.isNull || y.isNull then 0
      else if c == .eq then 1 else 0)
  | .isNot =>
    .integer (if x.isNull && y.isNull then 0 else if x.isNull || y.isNull then 1
      else if c == .eq then 0 else 1)
  | _ =>
    if x.isNull || y.isNull then .null
    else
      let r : Bool := match o with
        | .eq => c == .eq
        | .ne => c != .eq
        | .lt => c == .lt
        | .le => c != .gt
        | .gt => c == .gt
        | _ => c != .lt
      .integer (if r then 1 else 0)

end Sql

end TelemetryBridge
