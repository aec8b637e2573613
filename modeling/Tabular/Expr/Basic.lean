import Tabular.Expr.Function
import Tabular.Expr.Literal
import Tabular.Operator

/-!
# Expressions

An expression is a tree. Each node has the data type it declares for its result, a kind with the
kind's own options, and children.

Two expressions are equal when their types, kinds and children are, recursively. A literal column is
identified by its key as well as by its rows: equal rows under different keys are different columns.
`Expr.same` is the test that look-ups use; it first compares structural hashes, which take in the
key of a literal column and not its rows.

The test is equality (`Expr.same_iff`), and this does not rest on the hash: the hash of a tree is a
function of it, so equal trees pass the comparison of hashes, and what passes is compared field by
field. It is proved for every hash function (`Expr.sameWith_iff`).

Any tree is an `Expr`. The trees that can be evaluated without surprises are those that
`Tabular.Expr.Build` builds.
-/

namespace Tabular

/-- Options of a sort by one key. -/
structure SortOptions where
  stable : Bool
  nullsLast : Bool
  descending : Bool
deriving DecidableEq, Repr, Hashable

/-- Options of a sort by several keys; a single flag applies to every key. -/
structure SortByOptions where
  stable : Bool
  nullsLast : List Bool
  descending : List Bool
deriving DecidableEq, Repr, Hashable

/-- A series stored under a key that tells it from all others. -/
structure StoredSeries where
  key : Nat
  series : Series

namespace StoredSeries

instance : DecidableEq StoredSeries := fun
  | ⟨k, ⟨d, rows⟩⟩, ⟨k', ⟨d', rows'⟩⟩ =>
    if hk : k = k' then
      if hd : d = d' then by
        subst hk hd
        exact if hr : rows = rows' then isTrue (by rw [hr])
          else isFalse fun h ↦ by cases h; exact hr rfl
      else isFalse fun h ↦ by cases h; exact hd rfl
    else isFalse fun h ↦ by cases h; exact hk rfl

end StoredSeries

/-- The kind of a node with its options. -/
inductive Kind where
  | literal (v : Literal)
  /-- A series given in the expression itself. -/
  | literalColumn (stored : StoredSeries)
  | col (name : String)
  /-- The number of rows of the frame. -/
  | len
  | booleanFunction (f : BooleanFunction)
  | stringFunction (f : StringFunction)
  | temporalFunction (f : TemporalFunction)
  | unaryFunction (f : UnaryFunction)
  | sort (options : SortOptions)
  /-- Children: the column to reorder, then the keys. -/
  | sortBy (options : SortByOptions)
  /-- Children: values, indices. -/
  | gather
  /-- Children: values, mask. -/
  | filter
  | cast
  | agg (f : AggFunction)
  /-- Children: predicate, then, otherwise. -/
  | ternary
  | binOp (op : BinaryOp)
deriving DecidableEq

/-- The kind's name. -/
def Kind.name : Kind → String
  | literal _ => "Literal"
  | literalColumn _ => "LiteralColumn"
  | col _ => "Col"
  | len => "Len"
  | booleanFunction _ => "BooleanFunction"
  | stringFunction _ => "StringFunction"
  | temporalFunction _ => "TemporalFunction"
  | unaryFunction _ => "UnaryFunction"
  | sort _ => "Sort"
  | sortBy _ => "SortBy"
  | gather => "Gather"
  | filter => "Filter"
  | cast => "Cast"
  | agg _ => "Agg"
  | ternary => "Ternary"
  | binOp _ => "BinOp"

/-- An expression. -/
inductive Expr where
  | node (dtype : DataType) (kind : Kind) (children : List Expr)

namespace Expr

/-- The type declared for the result. -/
def dtype : Expr → DataType
  | node d _ _ => d

/-- The kind. -/
def kind : Expr → Kind
  | node _ k _ => k

/-- The children, in order. -/
def children : Expr → List Expr
  | node _ _ cs => cs

/-- The value of a literal node. -/
def literal? : Expr → Option Literal
  | node _ (.literal v) _ => some v
  | _ => none

/-- The series of a literal column. -/
def literalColumn? : Expr → Option Series
  | node _ (.literalColumn stored) _ => some stored.series
  | _ => none

mutual

/-- Equality of expressions is decidable. -/
def decEq : (a b : Expr) → Decidable (a = b)
  | node d k cs, node d' k' cs' =>
    if hd : d = d' then
      if hk : k = k' then
        match decEqList cs cs' with
        | isTrue hc => isTrue (by rw [hd, hk, hc])
        | isFalse hc => isFalse fun h ↦ hc (by injection h)
      else isFalse fun h ↦ hk (by injection h)
    else isFalse fun h ↦ hd (by injection h)

/-- Equality of lists of expressions is decidable. -/
def decEqList : (as bs : List Expr) → Decidable (as = bs)
  | [], [] => isTrue rfl
  | [], _ :: _ => isFalse nofun
  | _ :: _, [] => isFalse nofun
  | a :: as, b :: bs =>
    match decEq a b with
    | isTrue h =>
      match decEqList as bs with
      | isTrue hs => isTrue (by rw [h, hs])
      | isFalse hs => isFalse fun e ↦ hs (by injection e)
    | isFalse h => isFalse fun e ↦ h (by injection e)

end

instance : DecidableEq Expr := decEq

end Expr

/-! ### Structural hashes -/

/-- A hash function of numbers that are written one after the other. -/
structure Hasher where
  State : Type
  start : State
  write : State → Nat → State
  finish : State → UInt64

namespace Hasher

/-- The hash of a sequence of numbers. -/
def run (H : Hasher) (input : List Nat) : UInt64 := H.finish (input.foldl H.write H.start)

/-- Every number mixed into a word. -/
def mixing : Hasher := ⟨UInt64, 0, fun word n ↦ mixHash word (Hashable.hash n), id⟩

end Hasher

/-- What is hashed of a text: its bytes and a byte that no text has. -/
def Text.hashInput (s : String) : List Nat := s.toUTF8.toList.map UInt8.toNat ++ [255]

/-- What is hashed of a literal: its form and its value, of a floating-point number the bits. -/
def Literal.hashInput : Literal → List Nat
  | null => [0]
  | boolean b => [1, b.toNat]
  | int i => [2, i.toBits.toNat]
  | uint i => [3, i.toBits.toNat]
  | float x => [4, x.bits.toNat]
  | text s => 5 :: Text.hashInput s

/-- What is hashed of a kind: which one it is and its options, of a literal column the key. -/
def Kind.hashInput : Kind → List Nat
  | literal v => 0 :: v.hashInput
  | literalColumn stored => [1, stored.key]
  | col name => 2 :: Text.hashInput name
  | len => [3]
  | booleanFunction f => 4 :: Text.hashInput f.printed
  | stringFunction f => 5 :: Text.hashInput f.printed
  | temporalFunction f => 6 :: Text.hashInput f.printed
  | unaryFunction f => 7 :: Text.hashInput f.printed
  | sort options =>
    [8, options.stable.toNat, options.nullsLast.toNat, options.descending.toNat]
  | sortBy options =>
    9 :: options.stable.toNat :: options.nullsLast.length ::
      options.nullsLast.map Bool.toNat ++
        options.descending.length :: options.descending.map Bool.toNat
  | gather => [10]
  | filter => [11]
  | cast => [12]
  | agg f => 13 :: Text.hashInput f.printed
  | ternary => [14]
  | binOp op => 15 :: Text.hashInput op.name

namespace Expr

mutual

/-- The structural hash: of the type, the kind, the number of children and their hashes. -/
def hashWith (H : Hasher) : Expr → UInt64
  | node d k cs =>
    H.run (Text.hashInput d.name ++ k.hashInput ++ cs.length :: childHashes H cs)

/-- The hashes of children as numbers. -/
def childHashes (H : Hasher) : List Expr → List Nat
  | [] => []
  | c :: cs => (hashWith H c).toNat :: childHashes H cs

end

/-- The structural hash that look-ups compare. -/
def hash (e : Expr) : UInt64 := hashWith .mixing e

end Expr

/-! ### Equality as look-ups test it -/

/-- Literals of one form with one value; floating-point numbers with the same bits. -/
def Literal.same : Literal → Literal → Bool
  | null, null => true
  | boolean a, boolean b => a = b
  | int a, int b => a = b
  | uint a, uint b => a = b
  | float a, float b => a.bits = b.bits
  | text a, text b => a = b
  | _, _ => false

/-- The test on literals is equality. -/
@[simp]
theorem Literal.same_iff {v w : Literal} : v.same w = true ↔ v = w := by
  constructor
  · intro h
    unfold same at h
    split at h
    case h_1 => rfl
    case h_5 => exact congrArg float (Binary.ext (of_decide_eq_true h))
    case h_7 => cases h
    all_goals rw [of_decide_eq_true h]
  · rintro rfl
    cases v <;> simp [same]

/-- Kinds with the same options. -/
def Kind.same : Kind → Kind → Bool
  | literal a, literal b => a.same b
  | literalColumn a, literalColumn b => a = b
  | col a, col b => a = b
  | len, len => true
  | booleanFunction a, booleanFunction b => a = b
  | stringFunction a, stringFunction b => a = b
  | temporalFunction a, temporalFunction b => a = b
  | unaryFunction a, unaryFunction b => a = b
  | sort a, sort b => a = b
  | sortBy a, sortBy b => a = b
  | gather, gather => true
  | filter, filter => true
  | cast, cast => true
  | agg a, agg b => a = b
  | ternary, ternary => true
  | binOp a, binOp b => a = b
  | _, _ => false

/-- The test on kinds is equality. -/
@[simp]
theorem Kind.same_iff {k k' : Kind} : k.same k' = true ↔ k = k' := by
  constructor
  · intro h
    unfold same at h
    split at h
    case h_1 => rw [Literal.same_iff.1 h]
    all_goals first | rfl | cases h | rw [of_decide_eq_true h]
  · rintro rfl
    cases k <;> simp [same, Literal.same_iff]

namespace Expr

mutual

/-- Equality as look-ups test it: equal hashes, types, kinds and children. -/
def sameWith (H : Hasher) : Expr → Expr → Bool
  | node d k cs, node d' k' cs' =>
    hashWith H (node d k cs) == hashWith H (node d' k' cs') && d = d' && k.same k' &&
      sameListWith H cs cs'

/-- The test on lists of expressions. -/
def sameListWith (H : Hasher) : List Expr → List Expr → Bool
  | [], [] => true
  | a :: as, b :: bs => sameWith H a b && sameListWith H as bs
  | _, _ => false

end

/-- The test with the hash function that look-ups use. -/
def same (a b : Expr) : Bool := sameWith .mixing a b

section Same

variable {H : Hasher}

mutual

/-- A tree passes the test with itself: its hash is one value. -/
theorem sameWith_refl : (a : Expr) → sameWith H a a = true
  | node _ _ cs => by simp [sameWith, Kind.same_iff, sameListWith_refl cs]

theorem sameListWith_refl : (as : List Expr) → sameListWith H as as = true
  | [] => rfl
  | a :: as => by simp [sameListWith, sameWith_refl a, sameListWith_refl as]

end

mutual

/-- Trees that pass the test are equal, whatever the hashes are. -/
theorem eq_of_sameWith : {a b : Expr} → sameWith H a b = true → a = b
  | node _ _ cs, node _ _ cs', h => by
    simp only [sameWith, Bool.and_eq_true, decide_eq_true_eq, Kind.same_iff] at h
    rw [h.1.1.2, h.1.2, eq_of_sameListWith h.2]

theorem eq_of_sameListWith : {as bs : List Expr} → sameListWith H as bs = true → as = bs
  | [], [], _ => rfl
  | _ :: _, _ :: _, h => by
    simp only [sameListWith, Bool.and_eq_true] at h
    rw [eq_of_sameWith h.1, eq_of_sameListWith h.2]
  | [], _ :: _, h => by simp [sameListWith] at h
  | _ :: _, [], h => by simp [sameListWith] at h

end

/-- **The test by hash and structure is equality**, for every hash function. -/
@[simp]
theorem sameWith_iff {a b : Expr} : sameWith H a b = true ↔ a = b :=
  ⟨eq_of_sameWith, fun h ↦ h ▸ sameWith_refl a⟩

end Same

/-- A tree is found under itself. -/
theorem same_refl (a : Expr) : same a a = true :=
  sameWith_refl a

/-- The test that look-ups use is equality. -/
@[simp]
theorem same_iff {a b : Expr} : same a b = true ↔ a = b :=
  sameWith_iff

end Expr

end Tabular
