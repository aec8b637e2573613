import Tabular.Expr.Basic
import Tabular.Pattern.Parser
import Tabular.Series.Strings

/-!
# Building expressions

`Expr.build` is the way to make a node: it checks the node against its children and refuses
arguments that are missing and operations that are known not to be implemented. `Expr.WellFormed`
says of a tree that it was built so from the leaves up. Such a tree need not be free of operations
that some type has no implementation of, since the check of a function does not always ask for the
types.

A node may be stored under another kind than the one asked for: conjunction and disjunction of truth
values, bitwise or logical, always follow Kleene's truth tables. Since a stored kind is stored as it
is when it is built again (`Kind.normal_idem`), a well-formed node that is rebuilt from its own
children is itself (`Expr.rebuild_children`).
-/

namespace Tabular

/-- Fails unless there are `n` children. -/
def checkArity (name : String) (children : List Expr) (n : Nat) : Outcome Unit :=
  if children.length = n then .ok () else invalid (.arity name n children.length)

/-- Fails with the cause unless the condition holds. -/
def requires (condition : Bool) (cause : Unsupported) : Outcome Unit :=
  if condition then .ok () else unsupported cause

/-! ### Checks by family -/

namespace BooleanFunction

/-- The check of a function with a Boolean result. -/
def check (f : BooleanFunction) (d : DataType) (children : List Expr) : Outcome Unit := do
  requires (d = .boolean) (.nonBooleanResult f.name d)
  match f with
  | allHorizontal => if children.isEmpty then invalid (.noInputs f.name) else .ok ()
  | anyHorizontal => if children.isEmpty then invalid (.noInputs f.name) else .ok ()
  | isIn =>
    checkArity f.name children 2
    match children with
    | [needles, haystack] =>
      requires (needles.dtype = haystack.dtype) (.membership needles.dtype haystack.dtype)
    | _ => .ok ()
  | isBetween _ => checkArity f.name children 3
  | any _ => flagChild f.name children
  | all _ => flagChild f.name children
  | not => flagChild f.name children
  | f => checkArity f.name children 1
where
  /-- The check of a function of one Boolean child. -/
  flagChild (name : String) (children : List Expr) : Outcome Unit := do
    checkArity name children 1
    match children with
    | [c] => requires (c.dtype = .boolean) (.undefinedOver name c.dtype)
    | _ => .ok ()

end BooleanFunction

namespace Expr

/-- The text of a scalar literal. -/
def scalarText? (e : Expr) : Option String := e.literal?.bind Literal.asText?

/-- The texts of a scalar literal or of a literal column; a null has no text. -/
def literalTexts? (e : Expr) : Option (List (Option String)) :=
  match e.literal? with
  | some v =>
    match v.asText? with
    | some s => some [some s]
    | none => if v.isNull then some [none] else none
  | none => e.literalColumn?.bind fun s ↦ s.textRows.toOption

/-- Whether the expression is an integer literal, or a null one if that is allowed. -/
def isIntLiteral (allowNull : Bool) (e : Expr) : Bool :=
  match e.literal? with
  | some v => if v.isNull then allowNull else v.asInt?.isSome
  | none => false

end Expr

namespace StringFunction

/-- Whether a text is missing or empty. -/
def isBlank (s : Option String) : Bool :=
  match s with
  | none => true
  | some s => s.isEmpty

/-- The check of a function of text. -/
def check (f : StringFunction) (children : List Expr) : Outcome Unit :=
  match f with
  | contains literal strict => do
    checkArity f.name children 2
    if literal then .ok ()
    else
      requires strict .lenientPattern
      match (children[1]?).bind Expr.scalarText? with
      | none => unsupported .patternNotScalar
      | some pattern =>
        requires (Pattern.Regex.ofPattern? pattern).isSome (.pattern (Text.quoted pattern))
  | startsWith => checkArity f.name children 2
  | endsWith => checkArity f.name children 2
  | lowercase => checkArity f.name children 1
  | uppercase => checkArity f.name children 1
  | replace _ literal => do
    checkArity f.name children 3
    requires literal .replacePattern
    let target := (children[1]?).bind Expr.scalarText?
    requires (target != some "") .replaceEmptyTarget
    requires (target.isSome && ((children[2]?).bind Expr.scalarText?).isSome) .replaceNotScalar
  | replaceMany ignoreCase => do
    checkArity f.name children 3
    requires (!ignoreCase) .replaceManyIgnoringCase
    match (children[1]?).bind Expr.literalTexts?, (children[2]?).bind Expr.literalTexts? with
    | none, _ => unsupported .replaceManyTargets
    | some _, none => unsupported .replaceManyReplacements
    | some targets, some replacements =>
      requires (!targets.any isBlank) .replaceManyEmptyTarget
      requires (!replacements.any Option.isNone) .replaceManyNullReplacement
      if replacements.length = 1 ∨ replacements.length = targets.length then .ok ()
      else invalid (.replaceManyLiteralCount targets.length replacements.length)
  | slice => do
    checkArity f.name children 3
    requires (((children[1]?).map (Expr.isIntLiteral false)).getD false &&
      ((children[2]?).map (Expr.isIntLiteral true)).getD false) .sliceBounds
  | strptime format _ exact cache => do
    checkArity f.name children 1
    requires format.isSome .parseWithoutFormat
    requires exact .parseInexactly
    requires (!cache) .parseCached
  | stripChars => trimCheck f.name children
  | stripCharsStart => trimCheck f.name children
  | stripCharsEnd => trimCheck f.name children
where
  /-- The check of a trimming function. -/
  trimCheck (name : String) (children : List Expr) : Outcome Unit := do
    checkArity name children 2
    let literal := (children[1]?).bind Expr.literal?
    requires ((literal.map fun v ↦ v.isNull || v.asText?.isSome).getD false) (.notScalarText name)

end StringFunction

/-- The check of a component of dates and times. -/
def TemporalFunction.check (f : TemporalFunction) (children : List Expr) : Outcome Unit := do
  checkArity f.name children 1
  match children with
  | [c] => requires (f.isDefinedOver c.dtype) (.undefinedOver f.name c.dtype)
  | _ => .ok ()

/-- The check of a function of one column. -/
def UnaryFunction.check (f : UnaryFunction) (children : List Expr) : Outcome Unit :=
  match f with
  | fillNull => checkArity f.name children 2
  | math .not => BooleanFunction.check.flagChild f.name children
  | f => do
    checkArity f.name children 1
    requires (!(f.scan?.map Prod.snd).getD false) (.reverse f.name)

namespace AggFunction

/-- The quantile that an expression gives, which must be a fraction. -/
def quantileOf (e : Expr) : Outcome (Binary .double) :=
  match e.literal?.bind Literal.asFloat? with
  | none => unsupported .quantileNotLiteral
  | some q =>
    if Statistics.isFraction q then .ok q
    else unsupported (.quantileOutside (FloatStyle.message.format q))

/-- The check of a reduction. -/
def check (f : AggFunction) (children : List Expr) : Outcome Unit :=
  match f with
  | quantile _ => do
    checkArity f.name children 2
    match children[1]? with
    | some q => do
      let _ ← quantileOf q
      .ok ()
    | none => .ok ()
  | f => checkArity f.name children 1

end AggFunction

/-! ### Checks of nodes -/

namespace Kind

/-- Conjunctions and disjunctions of truth values follow Kleene's truth tables. -/
def kleeneForm (d : DataType) (op : BinaryOp) : BinaryOp :=
  if d = .boolean then
    match op with
    | .bitwise .and => .logical .kleeneAnd
    | .logical .and => .logical .kleeneAnd
    | .bitwise .or => .logical .kleeneOr
    | .logical .or => .logical .kleeneOr
    | op => op
  else op

/-- The number of flags of a sort by several keys fits the number of keys. -/
def checkFlags (keys : Nat) (what : String) (flags : List Bool) : Outcome Unit :=
  if flags.length = 1 ∨ flags.length = keys then .ok ()
  else invalid (.sortByFlags keys what flags.length)

/-- The check of a kind against the declared type and the children. -/
def check (k : Kind) (d : DataType) (children : List Expr) : Outcome Unit :=
  match k with
  | literal v => do
    checkArity k.name children 0
    let _ ← v.toSeries d
    .ok ()
  | literalColumn stored => do
    checkArity k.name children 0
    requires (stored.series.dtype.canCast d) (.literalColumn stored.series.dtype d)
  | col _ => checkArity k.name children 0
  | len => checkArity k.name children 0
  | booleanFunction f => f.check d children
  | stringFunction f => f.check children
  | temporalFunction f => f.check children
  | unaryFunction f => f.check children
  | sort _ => checkArity k.name children 1
  | cast => do
    checkArity k.name children 1
    match children with
    | [c] => requires (c.dtype.canCast d) (.cast c.dtype d)
    | _ => .ok ()
  | sortBy options =>
    let keys := children.length - 1
    if keys = 0 then invalid .sortByNoKey
    else do
      checkFlags keys "descending" options.descending
      checkFlags keys "nulls_last" options.nullsLast
  | gather => do
    checkArity k.name children 2
    match children with
    | [_, indices] => requires indices.dtype.isInteger (.gatherIndices indices.dtype)
    | _ => .ok ()
  | filter => do
    checkArity k.name children 2
    match children with
    | [_, mask] => requires (mask.dtype = .boolean) (.filterMask mask.dtype)
    | _ => .ok ()
  | agg f => f.check children
  | ternary => checkArity k.name children 3
  | binOp op => do
    checkArity k.name children 2
    match children with
    | [l, r] =>
      requires (op.supports d l.dtype r.dtype) (.binary op.name l.dtype r.dtype d)
    | _ => .ok ()

/-- The kind under which a node is stored. -/
def normal (k : Kind) (d : DataType) : Kind :=
  match k with
  | binOp op => binOp (kleeneForm d op)
  | k => k

/-- The form that follows Kleene's tables is its own form. -/
@[simp]
theorem kleeneForm_idem (d : DataType) (op : BinaryOp) :
    kleeneForm d (kleeneForm d op) = kleeneForm d op := by
  by_cases h : d = .boolean
  · rcases op with _ | _ | b | c
    · simp [kleeneForm]
    · simp [kleeneForm]
    · cases b <;> simp [kleeneForm, h]
    · cases c <;> simp [kleeneForm, h]
  · simp [kleeneForm, h]

/-- **A stored kind is stored as it is** when it is built again. -/
@[simp]
theorem normal_idem (k : Kind) (d : DataType) : (k.normal d).normal d = k.normal d := by
  cases k <;> simp [normal, kleeneForm_idem]

end Kind

namespace Expr

/-- A node of the kind, if it passes the check. -/
def build (d : DataType) (k : Kind) (children : List Expr) : Outcome Expr := do
  (k.normal d).check d children
  .ok (node d (k.normal d) children)

/-- The same node with other children, checked afresh. -/
def withChildren (e : Expr) (children : List Expr) : Outcome Expr :=
  build e.dtype e.kind children

/-- Rolling windows are not implemented. -/
def rollingWindow : Outcome Expr := unsupported .rolling

/-- Grouped rolling windows are not implemented. -/
def groupedRollingWindow : Outcome Expr := unsupported .groupedRolling

/-- Trees built from the leaves up. -/
inductive WellFormed : Expr → Prop
  | node {d : DataType} {k : Kind} {children : List Expr} :
      (∀ c ∈ children, WellFormed c) → k.normal d = k → k.check d children = .ok () →
      WellFormed (node d k children)

/-- What is built over well-formed children is well-formed. -/
theorem WellFormed.of_build {d : DataType} {k : Kind} {children : List Expr} {e : Expr}
    (hc : ∀ c ∈ children, WellFormed c) (h : build d k children = .ok e) : WellFormed e := by
  unfold build at h
  cases hk : (k.normal d).check d children with
  | error err => rw [hk] at h; cases h
  | ok u =>
    rw [hk] at h
    cases h
    exact .node hc (Kind.normal_idem k d) hk

/-- **A well-formed node rebuilt from its own children is itself.** -/
theorem rebuild_children {e : Expr} (h : WellFormed e) : e.withChildren e.children = .ok e := by
  cases h with
  | node hc hn hk =>
    simp only [withChildren, build, dtype, kind, children, hn, hk]
    rfl

end Expr

end Tabular
