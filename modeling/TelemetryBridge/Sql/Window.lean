import TelemetryBridge.Sql.Order
import TelemetryBridge.Sql.Syntax
import TelemetryBridge.Sql.Function.Aggregate

/-!
# Windows

A **window function** gives each row of a query a value computed from other rows: those of its
**partition** (the rows that agree with it on the `PARTITION BY` terms), taken in the order of
the `ORDER BY` terms. Rows that the order does not tell apart are **peers**.

* **Named windows.** A `WINDOW` clause names windows; `OVER w` uses one as it is, and
  `OVER (w …)` builds on one, taking its partition and order. Building on a window may add an
  order when it has none and a frame when it left its own implicit, and nothing else
  (`cannot override PARTITION clause of window: w`, and likewise for the `ORDER BY` clause and
  the frame specification). A name must be known (`no such window: w`).
* **Frames.** An aggregate over a window folds the rows of the current row's **frame**. Without
  a frame written, the frame runs from the partition's start to the current row's last peer.
  A frame counts its bounds in rows (`ROWS`), in groups of peers (`GROUPS`), or in values of the
  single ordering term (`RANGE`); `EXCLUDE` leaves out the current row, its peers, or its peers
  but itself.
* **Offsets** of a `ROWS` or `GROUPS` frame must be whole numbers that are not negative, and
  those of a `RANGE` frame numbers that are not negative.
* The ranking and navigation functions (`row_number`, `rank`, `dense_rank`, `percent_rank`,
  `cume_dist`, `ntile`, `lag`, `lead`) work over frames of their own, whatever the window says.

This module holds the resolved windows and the arithmetic of frames over a sorted partition;
evaluation puts them to work.

Main definitions: `Sql.WindowDef`, `Sql.WindowDef.resolve`, `Sql.WindowDef.ofClause`,
`Sql.Partition`, `Sql.Partition.frame`, `Sql.windowValue`.
-/

namespace TelemetryBridge

namespace Sql

/-- A window with its names resolved: its partition, its order and its frame, and whether the
frame was left implicit (so that a window building on it may give one). -/
structure WindowDef where
  partition : List Expr := []
  order : List OrderTerm := []
  unit : FrameUnit := .range
  start : FrameBound := .unbounded
  finish : FrameBound := .current
  exclude : FrameExclude := .noOthers
  implicit : Bool := true
  deriving Inhabited

/-- Whether a frame bound has an offset. -/
def FrameBound.hasOffset : FrameBound → Bool
  | .preceding _ | .following _ => true
  | _ => false

namespace WindowDef

/-- A definition with a frame as written, or with the implicit frame when none is. -/
def withFrame (d : WindowDef) : Option WindowFrame → WindowDef
  | none => d
  | some (.frame unit start finish exclude) =>
    { d with unit, start, finish, exclude, implicit := false }

/-- The named window of a name, without regard to ASCII case. -/
def find? (named : List (String × WindowDef)) (n : String) : Option WindowDef :=
  (named.find? fun (m, _) => sameName m n).map (·.2)

/-- Resolves a window against the named windows in scope. -/
def resolve (named : List (String × WindowDef)) : Window → Except String WindowDef
  | .named n =>
    match find? named n with
    | some d => .ok d
    | none => .error ("no such window: " ++ n)
  | .spec base partition order frame =>
    let own := ({ partition, order } : WindowDef).withFrame frame
    match base with
    | none => .ok own
    | some b =>
      match find? named b with
      | none => .error ("no such window: " ++ b)
      | some d =>
        if !partition.isEmpty then .error ("cannot override PARTITION clause of window: " ++ b)
        else if !d.order.isEmpty && !order.isEmpty then
          .error ("cannot override ORDER BY clause of window: " ++ b)
        else if !d.implicit then .error ("cannot override frame specification of window: " ++ b)
        else .ok { own with partition := d.partition, order := if order.isEmpty then d.order else order }

/-- The windows of a `WINDOW` clause, each resolved against those before it; the first builds
on none, whatever it names. -/
def ofClause (clause : List (String × Window)) : Except String (List (String × WindowDef)) :=
  clause.foldlM (fun acc (n, w) => do
    let w := match acc, w with
      | [], .spec _ p o f => Window.spec none p o f
      | _, w => w
    pure (acc ++ [(n, ← resolve acc w)])) []

/-- Whether the frame counts values by an offset, which needs exactly one ordering term. -/
def rangeOffsets (d : WindowDef) : Bool :=
  d.unit == .range && (FrameBound.hasOffset d.start || FrameBound.hasOffset d.finish)

end WindowDef

/-- The built-in functions that only run over windows. -/
def windowOnly (key : String) : Bool :=
  ["ROW_NUMBER", "RANK", "DENSE_RANK", "PERCENT_RANK", "CUME_DIST", "NTILE", "LAG", "LEAD",
    "FIRST_VALUE", "LAST_VALUE", "NTH_VALUE"].contains key

/-- The ranking and navigation functions, which work over frames of their own whatever the
window says. -/
def ownFrame (key : String) : Bool :=
  ["ROW_NUMBER", "RANK", "DENSE_RANK", "PERCENT_RANK", "CUME_DIST", "NTILE", "LAG", "LEAD"].contains key

/-- A frame bound with its offset evaluated. -/
inductive Reach where
  | unbounded
  | back (k : Value)
  | here
  | ahead (k : Value)
  deriving Inhabited

/-- A sorted partition as frames see it: the group of peers of each row (numbered from `0`),
the value of the single ordering term of each row, and how that term sorts. -/
structure Partition where
  groups : List Nat
  keys : List Value := []
  key : SortKey := { collation := .binary, descending := false, nullsFirst := none }
  deriving Inhabited

namespace Partition

/-- The number of rows. -/
def size (p : Partition) : Nat := p.groups.length

/-- The group of peers of a row. -/
def groupOf (p : Partition) (i : Nat) : Nat := p.groups.getD i 0

/-- The number of groups of peers. -/
def groupCount (p : Partition) : Nat := (p.groups.getLast?.map (· + 1)).getD 0

/-- The first row of a group. -/
def firstOf (p : Partition) (g : Nat) : Nat := (p.groups.findIdx? (· == g)).getD p.size

/-- The last row of a group. -/
def lastOf (p : Partition) (g : Nat) : Int :=
  match (p.groups.reverse.findIdx? (· == g)) with
  | some j => (p.size : Int) - 1 - j
  | none => -1

/-- The value a `RANGE` bound reaches from a row's value: the value moved by the offset towards
the start (`back`) or the end of the order; texts, blobs and nulls do not move. -/
def target (p : Partition) (v k : Value) (back : Bool) : Value :=
  if v.isNull || v.isText then v
  else
    match v with
    | .blob _ => v
    | _ => arith (if back != p.key.descending then .sub else .add) v k

/-- The first row that does not sort before a value, or the size when there is none. -/
def firstFrom (p : Partition) (t : Value) : Nat :=
  (p.keys.findIdx? fun v => p.key.compare v t != .lt).getD p.size

/-- The last row that does not sort after a value, or `-1` when there is none. -/
def lastUpTo (p : Partition) (t : Value) : Int :=
  match p.keys.reverse.findIdx? fun v => p.key.compare v t != .gt with
  | some j => (p.size : Int) - 1 - j
  | none => -1

/-- The first row of the frame of row `i`. -/
def startOf (p : Partition) (unit : FrameUnit) (i : Nat) : Reach → Int
  | .unbounded => 0
  | .here =>
    match unit with
    | .rows => i
    | _ => p.firstOf (p.groupOf i)
  | .back k =>
    match unit with
    | .rows => (i : Int) - k.intValue
    | .groups =>
      let g := (p.groupOf i : Int) - k.intValue
      if g < 0 then 0 else p.firstOf g.toNat
    | .range => p.firstFrom (p.target (p.keys.getD i .null) k true)
  | .ahead k =>
    match unit with
    | .rows => (i : Int) + k.intValue
    | .groups => p.firstOf (p.groupOf i + k.intValue.toNat)
    | .range => p.firstFrom (p.target (p.keys.getD i .null) k false)

/-- The last row of the frame of row `i`. -/
def endOf (p : Partition) (unit : FrameUnit) (i : Nat) : Reach → Int
  | .unbounded => (p.size : Int) - 1
  | .here =>
    match unit with
    | .rows => i
    | _ => p.lastOf (p.groupOf i)
  | .back k =>
    match unit with
    | .rows => (i : Int) - k.intValue
    | .groups =>
      let g := (p.groupOf i : Int) - k.intValue
      if g < 0 then -1 else p.lastOf g.toNat
    | .range => p.lastUpTo (p.target (p.keys.getD i .null) k true)
  | .ahead k =>
    match unit with
    | .rows => (i : Int) + k.intValue
    | .groups =>
      let g := p.groupOf i + k.intValue.toNat
      if g ≥ p.groupCount then (p.size : Int) - 1 else p.lastOf g
    | .range => p.lastUpTo (p.target (p.keys.getD i .null) k false)

/-- The rows of the frame of row `i`, in order: those between its first and last row, less
those the exclusion leaves out. -/
def frame (p : Partition) (unit : FrameUnit) (start finish : Reach) (exclude : FrameExclude)
    (i : Nat) : List Nat :=
  let s := p.startOf unit i start
  let e := p.endOf unit i finish
  let rows := (List.range p.size).filter fun (j : Nat) => s ≤ (j : Int) && (j : Int) ≤ e
  let g := p.groupOf i
  match exclude with
  | .noOthers => rows
  | .currentRow => rows.filter (· != i)
  | .group => rows.filter fun j => p.groupOf j != g
  | .ties => rows.filter fun j => j == i || p.groupOf j != g

end Partition

/-- Numbers the groups of peers of sorted rows: a row starts a new group when the keys tell it
apart from the row before. -/
def peerGroups (keys : List SortKey) (rows : List (List Value)) : List Nat :=
  (rows.foldl (fun (acc : List Nat × Option (List Value)) r =>
    match acc with
    | (gs, none) => (gs ++ [0], some r)
    | (gs, some prev) =>
      let g := gs.getLastD 0
      (gs ++ [if compareKeys keys prev r == .eq then g else g + 1], some r)) ([], none)).1

/-- `ntile(N)` of row `i` of a partition of `n` rows: the rows fall into `N` buckets as equal as
may be, the larger ones first. -/
def ntileOf (n buckets i : Nat) : Nat :=
  let size := n / buckets
  if size == 0 then i + 1
  else
    let large := n - buckets * size
    let small := large * (size + 1)
    if i < small then 1 + i / (size + 1) else 1 + large + (i - small) / size

/-- Rebuilds an expression with each window call outside of subqueries replaced by what `f`
makes of it, the calls taken from left to right. -/
def Expr.mapWindows {m : Type → Type} [Monad m] (f : Expr → m Expr) : Nat → Expr → m Expr
  | 0, e => pure e
  | fuel + 1, e =>
    let go := Expr.mapWindows f fuel
    match e with
    | .window .. => f e
    | .unary o a => return .unary o (← go a)
    | .binary o a b => return .binary o (← go a) (← go b)
    | .isNull a n => return .isNull (← go a) n
    | .between a l h n => return .between (← go a) (← go l) (← go h) n
    | .inList a items n => return .inList (← go a) (← items.mapM go) n
    | .inQuery a q n => return .inQuery (← go a) q n
    | .pattern k a p esc n => return .pattern k (← go a) (← go p) (← esc.mapM go) n
    | .collate a c => return .collate (← go a) c
    | .cast a t => return .cast (← go a) t
    | .call n w d args s filter => return .call n w d (← args.mapM go) s (← filter.mapM go)
    | .cases b arms o =>
      return .cases (← b.mapM go) (← arms.mapM fun (x, y) => return (← go x, ← go y)) (← o.mapM go)
    | .vector items => return .vector (← items.mapM go)
    | e => pure e

/-- The expressions of result columns and `ORDER BY` terms with their window calls replaced by
what `f` makes of them: the result columns first, then the terms. -/
def mapWindowsIn {m : Type → Type} [Monad m] (f : Expr → m Expr) (cols : List ResultColumn)
    (order : List OrderTerm) : m (List ResultColumn × List OrderTerm) := do
  let cols ← cols.mapM fun
    | .expr e a t => return .expr (← e.mapWindows f 1000) a t
    | c => pure c
  let order ← order.mapM fun (.term e d n) => return .term (← e.mapWindows f 1000) d n
  pure (cols, order)

/-- The window calls of result columns and `ORDER BY` terms, from left to right. -/
def windowCalls (cols : List ResultColumn) (order : List OrderTerm) : List Expr :=
  ((mapWindowsIn (m := StateM (List Expr)) (fun w => do modify (· ++ [w]); pure w) cols order).run
    []).2

/-- Result columns and `ORDER BY` terms with their window calls replaced by values, in the order
of `windowCalls`. -/
def fillWindows (vals : List Value) (cols : List ResultColumn) (order : List OrderTerm) :
    List ResultColumn × List OrderTerm :=
  ((mapWindowsIn (m := StateM (List Value)) (fun w => do
    match ← get with
    | v :: rest => set rest; pure (Expr.lit v)
    | [] => pure w) cols order).run vals).1

/-- The value of a window function for row `i` of a sorted partition. `args` holds the
arguments of each row of the partition, `kept` whether each row passes the `FILTER`, and
`coll` is the collation of the first argument. -/
def windowValue (key : String) (coll : Collation) (p : Partition) (d : WindowDef)
    (start finish : Reach) (args : List (List Arg)) (kept : List Bool) (i : Nat) :
    Except String Value :=
  let n := p.size
  let g := p.groupOf i
  let arg (j k : Nat) : Value := ((args.getD j []).getD k default).value
  let width := (args.getD i []).length
  match key with
  | "ROW_NUMBER" => .ok (.integer (i + 1))
  | "RANK" => .ok (.integer (p.firstOf g + 1))
  | "DENSE_RANK" => .ok (.integer (g + 1))
  | "PERCENT_RANK" =>
    .ok (.real (if n > 1 then Float.ofNat (p.firstOf g) / Float.ofNat (n - 1) else 0))
  | "CUME_DIST" => .ok (.real (Float.ofInt (p.lastOf g + 1) / Float.ofNat n))
  | "NTILE" =>
    let k := (arg 0 0).intValue
    if k ≤ 0 then .error "argument of ntile must be a positive integer"
    else .ok (.integer (ntileOf n k.toNat i))
  | "LAG" | "LEAD" =>
    let offset := if width ≥ 2 then arg i 1 else .integer 1
    let dflt := if width ≥ 3 then arg i 2 else .null
    match Affinity.numeric.apply (arith (if key == "LAG" then .sub else .add) (.integer (i + 1)) offset) with
    | .integer r => .ok (if 1 ≤ r && r ≤ n then arg (r.toNat - 1) 0 else dflt)
    | _ => .ok dflt
  | _ =>
    let rows := p.frame d.unit start finish d.exclude i
    match key with
    | "FIRST_VALUE" => .ok ((rows.head?.map fun j => arg j 0).getD .null)
    | "LAST_VALUE" => .ok ((rows.getLast?.map fun j => arg j 0).getD .null)
    | "NTH_VALUE" =>
      match Affinity.numeric.apply (arg i 1) with
      | .integer k =>
        if k ≤ 0 then .error "second argument to nth_value must be a positive integer"
        else .ok (((rows.drop (k.toNat - 1)).head?.map fun j => arg j 0).getD .null)
      | _ => .error "second argument to nth_value must be a positive integer"
    | _ => Function.aggregate key coll ((rows.filter fun j => kept.getD j true).map (args.getD · []))

end Sql

end TelemetryBridge
