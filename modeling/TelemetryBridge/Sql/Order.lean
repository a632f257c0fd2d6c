import TelemetryBridge.Sql.Compare

/-!
# Sorting rows

An `ORDER BY` term sorts by a **sort key**: a collation, a direction, and the place of nulls,
which come first when ascending and last when descending unless the term says otherwise. Rows
are compared term by term and sorted stably, so that rows no term tells apart keep their order.

Main definitions: `Sql.SortKey`, `Sql.compareKeys`, `Sql.sortRows`.
-/

namespace TelemetryBridge

namespace Sql

/-- How an `ORDER BY` term sorts: its collation, direction and place of nulls. -/
structure SortKey where
  collation : Collation
  descending : Bool
  nullsFirst : Option Bool
  deriving Inhabited

/-- Compares two values by a sort key. -/
def SortKey.compare (k : SortKey) (a b : Value) : Ordering :=
  let nullsFirst := k.nullsFirst.getD !k.descending
  match a.isNull, b.isNull with
  | true, true => .eq
  | true, false => if nullsFirst then .lt else .gt
  | false, true => if nullsFirst then .gt else .lt
  | false, false =>
    let o := a.order k.collation b
    if k.descending then o.swap else o

/-- Compares two rows of sort values by keys. -/
def compareKeys : List SortKey → List Value → List Value → Ordering
  | k :: ks, a :: as, b :: bs =>
    match k.compare a b with
    | .eq => compareKeys ks as bs
    | o => o
  | _, _, _ => .eq

/-- Sorts rows with their sort values, stably. -/
def sortRows {α : Type} (keys : List SortKey) (rows : List (α × List Value)) : List (α × List Value) :=
  rows.mergeSort fun a b => compareKeys keys a.2 b.2 != .gt

end Sql

end TelemetryBridge
