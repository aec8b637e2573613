import Tabular.Proofs.Expr.Reading
import Tabular.Proofs.Grouping.Results
import Tabular.Proofs.Order.Places

/-!
# The types of results

A node declares a type, and most kinds cast their value to it. The others give what comes out of
their children: sorts, filters, choices and the functions that pass on a column keep its type, a
connective of one column is that column, and a function of text that is declared as null is not
cast. `Expr.resultType` reads the type that an expression really has off the types that its columns
declare, and evaluation bears it out whatever the frame holds (`Expr.dtype_evaluate`).

By induction over the tree this is a fact about one node (`Expr.dtype_evaluateNode`), and in a node
about the last of its steps. Nothing is asked of the children but that they have a column of the
type told; they may be any frame's.

A type is told even of expressions that no check accepts and of those that fail on every frame: it
is the type of their value in case there is one. When this is the declared type is another question,
and the subject of `Tabular.Proofs.Types.Declared`.
-/

namespace Tabular

/-! ### Types told from the expression -/

/-- The type of a function of text, before a cast to the declared type `d`. -/
def StringFunction.resultType (d : DataType) : StringFunction → DataType
  | contains _ _ => .boolean
  | startsWith => .boolean
  | endsWith => .boolean
  | strptime _ _ _ _ => d
  | _ => .utf8

/-- The type of columns folded by a connective: a single one is left as it is. -/
def BooleanFunction.foldType : List DataType → DataType
  | [t] => t
  | _ => .boolean

/-- Functions that give a column of the type of their own. -/
def UnaryFunction.keepsType : UnaryFunction → Bool
  | dropNulls => true
  | fillNull => true
  | maskNans => true
  | round _ => true
  | setSorted _ => true
  | unique _ => true
  | _ => false

/-- The type of a node that declares `d`, from the types of its children. -/
def Kind.resultType (k : Kind) (d : DataType) (types : List DataType) : DataType :=
  match k, types with
  | sort _, t :: _ => t
  | sortBy _, t :: _ => t
  | gather, t :: _ => t
  | filter, t :: _ => t
  | ternary, _ :: t :: _ => t
  | unaryFunction f, t :: _ => if f.keepsType then t else d
  | booleanFunction .allHorizontal, types => BooleanFunction.foldType types
  | booleanFunction .anyHorizontal, types => BooleanFunction.foldType types
  | stringFunction f, _ => if d = .null then f.resultType d else d
  | _, _ => d

namespace Expr

mutual

/-- The type that an expression has, wherever it has a value. -/
def resultType : Expr → DataType
  | node d k cs => k.resultType d (resultTypes cs)

/-- The types that expressions have. -/
def resultTypes : List Expr → List DataType
  | [] => []
  | c :: cs => c.resultType :: resultTypes cs

end

/-- The types of children are those of each. -/
theorem resultTypes_eq_map (cs : List Expr) : resultTypes cs = cs.map resultType := by
  induction cs with
  | nil => rfl
  | cons c cs ih => rw [resultTypes, ih, List.map_cons]

/-- The type of a node is read off those of its children. -/
theorem resultType_node {d : DataType} {k : Kind} {cs : List Expr} :
    (node d k cs).resultType = k.resultType d (cs.map resultType) := by
  rw [resultType, resultTypes_eq_map]

end Expr

/-- The children that evaluation reads tell the type. -/
theorem Kind.resultType_take (k : Kind) (d : DataType) (cs : List Expr) (type : Expr → DataType) :
    k.resultType d ((cs.take (k.reads cs)).map type) = k.resultType d (cs.map type) := by
  cases k with
  | literal _ | literalColumn _ | col _ | len | agg _ | stringFunction _ => rfl
  | booleanFunction g => cases g <;> simp [reads, resultType, BooleanFunction.readsChild]
  | unaryFunction g =>
    cases cs with
    | nil => rw [List.take_nil]
    | cons c cs =>
      cases g with
      | fillNull =>
        simp only [reads]
        split <;> rfl
      | _ => rfl
  | _ => simp only [reads, List.take_length]

/-! ### Types of values -/

section Values

variable {d : DataType} {cs : List Expr} {s t u : Series} {c out : Column}

/-- A plain column has the type of its series. -/
theorem Column.dtype_of_plain {x : Outcome Series} (hx : ∀ s, x = .ok s → s.dtype = d)
    (h : (x >>= fun s ↦ .ok ({ series := s } : Column)) = .ok out) : out.dtype = d := by
  obtain ⟨s, hs, h⟩ := Outcome.bind_eq_ok.1 h
  injection h with h
  exact h ▸ hx s hs

/-- What is made of texts is text. -/
theorem Series.dtype_mapText {f : String → String} (h : s.mapText f = .ok t) : t.dtype = .utf8 := by
  obtain ⟨_, _, h⟩ := Outcome.bind_eq_ok.1 h
  injection h with h
  exact h ▸ rfl

/-- Times are read as the type that is asked for. -/
theorem Series.dtype_toTime {format : String} (h : s.toTime format d = .ok t) : t.dtype = d := by
  obtain ⟨_, _, h⟩ := Outcome.bind_eq_ok.1 h
  cases d <;> first | (injection h with h; exact h ▸ rfl) | cases h

/-- A function of text has its type before the cast. -/
theorem StringFunction.dtype_onSeries {g : StringFunction} (h : g.onSeries d cs s = .ok t) :
    t.dtype = g.resultType d := by
  cases g with
  | lowercase | uppercase | stripChars | stripCharsStart | stripCharsEnd =>
    exact Series.dtype_mapText h
  | contains literal strict =>
    -- Without a literal pattern the function fails, and there is no result to speak of.
    simp only [onSeries] at h
    split at h
    · obtain ⟨_, _, h⟩ := Outcome.bind_eq_ok.1 h
      injection h with h
      exact h ▸ rfl
    · cases h
  | replace n literal =>
    simp only [onSeries] at h
    split at h
    · unfold Series.replace at h
      split at h
      · cases h
      · exact Series.dtype_mapText h
    · cases h
  | replaceMany ignoreCase =>
    simp only [onSeries] at h
    split at h
    -- Whether one replacement is used for all targets or one for each, the rows are mapped to
    -- texts.
    · unfold Series.replaceMany at h
      split at h
      · cases h
      · split at h
        · exact Series.dtype_mapText h
        · split at h
          · exact Series.dtype_mapText h
          · cases h
    · cases h
  | slice =>
    simp only [onSeries] at h
    split at h
    · exact Series.dtype_mapText h
    · cases h
  | strptime format strict exact cache =>
    cases format with
    | none => cases h
    | some format =>
      obtain ⟨_, _, h⟩ := Outcome.bind_eq_ok.1 h
      exact Series.dtype_toTime h
  | startsWith | endsWith => cases h

/-- What compares with another text gives truth values. -/
theorem StringFunction.resultType_of_matchKind {g : StringFunction} {kind : Text.MatchKind}
    (h : g.matchKind? = some kind) : g.resultType d = .boolean := by
  cases g <;> first | rfl | cases h

/-- A function of text has its own type only if it is declared as null. -/
theorem StringFunction.dtype_onColumns {g : StringFunction} {columns : List (Outcome Column)}
    (h : g.onColumns d cs columns = .ok t) : t.dtype = if d = .null then g.resultType d else d := by
  have hcast {out : Series} (hout : out.dtype = g.resultType d)
      (h : (if d = .null then .ok out else out.cast d) = .ok t) :
      t.dtype = if d = .null then g.resultType d else d := by
    split at h
    · next hd =>
      injection h with h
      rw [if_pos hd, ← h, hout]
    · next hd => rw [if_neg hd, Series.cast_dtype h]
  simp only [onColumns] at h
  split at h
  · next kind _ _ _ hkind =>
    obtain ⟨_, _, h⟩ := Outcome.bind_eq_ok.1 h
    obtain ⟨_, _, h⟩ := Outcome.bind_eq_ok.1 h
    obtain ⟨_, _, h⟩ := Outcome.bind_eq_ok.1 h
    exact hcast (resultType_of_matchKind hkind).symm h
  · obtain ⟨_, _, h⟩ := Outcome.bind_eq_ok.1 h
    obtain ⟨_, hout, h⟩ := Outcome.bind_eq_ok.1 h
    exact hcast (dtype_onSeries hout) h
  · cases h

/-- A function of one column keeps the type of the column or casts to the declared one. -/
theorem UnaryFunction.dtype_onColumn {g : UnaryFunction} {columns : List (Outcome Column)}
    (h : g.onColumn d cs columns c = .ok out) :
    out.dtype = if g.keepsType then c.dtype else d := by
  cases g with
  | math op =>
    obtain ⟨s, hs, h⟩ := Outcome.bind_eq_ok.1 h
    exact Column.dtype_of_plain (fun _ ht ↦ (Series.dtype_math ht).trans (Series.cast_dtype hs)) h
  | dropNulls =>
    injection h with h
    subst h
    -- Either branch of `dropNulls` leaves the type alone.
    show c.series.dropNulls.dtype = _
    unfold Series.dropNulls
    split <;> rfl
  | fillNull =>
    obtain ⟨_, _, h⟩ := Outcome.bind_eq_ok.1 h
    exact Column.dtype_of_plain (fun _ ↦ Series.dtype_fillNull) h
  | maskNans =>
    injection h with h
    subst h
    exact (congrArg Series.dtype c.series_maskNans).trans (Series.dtype_maskNans _)
  | round decimals =>
    obtain ⟨s, hs, h⟩ := Outcome.bind_eq_ok.1 h
    injection h with h
    exact h ▸ Series.dtype_round hs
  | setSorted descending =>
    injection h with h
    exact h ▸ rfl
  | unique maintainOrder =>
    injection h with h
    subst h
    split <;> rfl
  | cumMin _ | cumMax _ | cumProd _ | cumSum _ =>
    obtain ⟨_, _, h⟩ := Outcome.bind_eq_ok.1 h
    obtain ⟨_, _, h⟩ := Outcome.bind_eq_ok.1 h
    exact Column.dtype_of_plain (fun _ ↦ Series.cast_dtype) h

theorem AggFunction.dtype_onColumn {g : AggFunction} (h : g.onColumn d cs c = .ok out) :
    out.dtype = d := by
  unfold onColumn at h
  split at h
  · exact Column.dtype_of_plain (fun _ ↦ Series.cast_dtype) h
  · obtain ⟨_, _, h⟩ := Outcome.bind_eq_ok.1 h
    obtain ⟨_, _, h⟩ := Outcome.bind_eq_ok.1 h
    exact Column.dtype_of_plain (fun _ ↦ Series.cast_dtype) h

/-- A connective of several columns gives truth values, and of one column the column. -/
theorem BooleanFunction.dtype_fold {connective : Connective} {columns : List Column}
    (h : fold connective columns = .ok t) : t.dtype = foldType (columns.map Column.dtype) := by
  match columns with
  | [] => cases h
  | [col] =>
    injection h with h
    exact h ▸ rfl
  | col :: col' :: rest =>
    -- from the first combination on there are truth values
    obtain ⟨_, hs, h⟩ := Outcome.bind_eq_ok.1 h
    exact Outcome.foldlM_induction (I := fun s ↦ s.dtype = .boolean) h (Series.dtype_combine hs)
      fun _ _ _ _ _ hs ↦ Series.dtype_combine hs

/-- A function with truth values as results has them, unless it is a connective of one column. -/
theorem BooleanFunction.dtype_onColumns {g : BooleanFunction} {columns : List Column}
    (h : g.onColumns columns = .ok t) :
    t.dtype = (Kind.booleanFunction g).resultType .boolean (columns.map Column.dtype) := by
  -- All but the folds and the range test answer in one of these two forms.
  have hflags {α : Type} {x : Outcome α} {flags : α → List (Option Bool)}
      (h : (x >>= fun a ↦ .ok (Series.ofFlags (flags a))) = .ok t) : t.dtype = .boolean := by
    obtain ⟨_, _, h⟩ := Outcome.bind_eq_ok.1 h
    injection h with h
    exact h ▸ rfl
  have hvalue {flags : List (Option Bool)}
      (h : (.ok (Series.ofFlags flags) : Outcome Series) = .ok t) : t.dtype = .boolean := by
    injection h with h
    exact h ▸ rfl
  cases g with
  | allHorizontal | anyHorizontal => exact dtype_fold h
  | isIn =>
    match columns, h with
    | [_, _], h => exact hflags h
  | isBetween _ =>
    match columns, h with
    | [_, _, _], h =>
      obtain ⟨_, _, h⟩ := Outcome.bind_eq_ok.1 h
      obtain ⟨_, _, h⟩ := Outcome.bind_eq_ok.1 h
      exact Series.dtype_combine h
  | any _ | all _ | isFinite | isInfinite | not =>
    match columns, h with
    | [_], h => exact hflags h
  | _ =>
    match columns, h with
    | [_], h => exact hvalue h

theorem Series.dtype_gather (h : s.gather t = .ok u) : u.dtype = s.dtype := by
  unfold gather at h
  split at h
  · obtain ⟨_, _, h⟩ := Outcome.bind_eq_ok.1 h
    dsimp only at h
    split at h
    · split at h
      · cases h
      · injection h with h
        exact h ▸ rfl
    · injection h with h
      exact h ▸ rfl
  · cases h

/-- A choice has the type of what is chosen where the mask is true. -/
theorem Series.dtype_choose {mask : Series} (h : mask.choose s t = .ok u) : u.dtype = s.dtype := by
  obtain ⟨_, _, h⟩ := Outcome.bind_eq_ok.1 h
  split at h
  · cases h
  · obtain ⟨_, _, h⟩ := Outcome.bind_eq_ok.1 h
    obtain ⟨_, _, h⟩ := Outcome.bind_eq_ok.1 h
    obtain ⟨_, _, h⟩ := Outcome.bind_eq_ok.1 h
    injection h with h
    exact h ▸ rfl

theorem Series.dtype_keep {flags : List (Option Bool)} (h : s.keep flags = .ok t) :
    t.dtype = s.dtype := by
  unfold keep at h
  split at h
  · cases h
  · injection h with h
    exact h ▸ rfl

theorem Kind.dtype_filterColumn {mask : Column} (h : filterColumn c mask = .ok out) :
    out.dtype = c.dtype := by
  rw [filterColumn_eq_bind] at h
  obtain ⟨_, _, h⟩ := Outcome.bind_eq_ok.1 h
  split at h
  · obtain ⟨_, hs, h⟩ := Outcome.bind_eq_ok.1 h
    injection h with h
    exact h ▸ Series.dtype_keep hs
  · cases h

/-- What a kind that looks at all its children does to their types. -/
theorem Kind.dtype_onColumns {k : Kind} {columns : List Column}
    (h : k.onColumns d columns = .ok out) :
    out.dtype = k.resultType d (columns.map Column.dtype) := by
  unfold onColumns at h
  split at h
  · obtain ⟨_, _, h⟩ := Outcome.bind_eq_ok.1 h
    exact Column.dtype_of_plain (fun _ ↦ Series.cast_dtype) h
  · obtain ⟨_, hs, h⟩ := Outcome.bind_eq_ok.1 h
    obtain ⟨_, _, hs⟩ := Outcome.bind_eq_ok.1 hs
    injection h with h
    injection hs with hs
    exact h ▸ hs ▸ rfl
  · refine Column.dtype_of_plain (fun t ht ↦ ?_) h
    obtain ⟨_, -, -, rfl⟩ := Series.sortBy_eq_ok.1 ht
    rfl
  · exact Column.dtype_of_plain (fun _ ↦ Series.dtype_gather) h
  · exact dtype_filterColumn h
  · obtain ⟨_, hs, h⟩ := Outcome.bind_eq_ok.1 h
    injection h with h
    exact h ▸ Series.cast_dtype hs
  · exact Column.dtype_of_plain (fun _ ↦ Series.dtype_choose) h
  · exact Column.dtype_of_plain (fun _ ↦ Series.dtype_combine) h
  · cases h

end Values

/-! ### Types of expressions -/

/-- A function with truth values as results is declared so. -/
theorem BooleanFunction.dtype_of_check {g : BooleanFunction} {d : DataType} {cs : List Expr}
    (h : g.check d cs = .ok ()) : d = .boolean := by
  obtain ⟨_, h, -⟩ := Outcome.bind_eq_ok.1 h
  exact of_decide_eq_true (requires_eq_ok.1 h)

namespace Expr

variable {f : Frame} {d : DataType} {k : Kind} {cs : List Expr} {c : Column}

/-- **What one node does to the types of its children.** -/
theorem dtype_evaluateNode (hcheck : k.check d cs = .ok ())
    (hcol : ∀ name c, k = .col name → f.column name = .ok c → c.dtype = d)
    {columns : List Column} (h : evaluateNode f .frame d k cs (columns.map .ok) = .ok c) :
    c.dtype = k.resultType d (columns.map Column.dtype) := by
  cases k with
  | literal v => exact Column.dtype_of_plain (fun _ ↦ Literal.dtype_toSeries) h
  | literalColumn stored => exact Column.dtype_of_plain (fun _ ↦ Series.cast_dtype) h
  | col name => exact hcol name c rfl h
  | len => exact Column.dtype_of_plain (fun _ ↦ Series.cast_dtype) h
  | booleanFunction g =>
    obtain rfl := BooleanFunction.dtype_of_check hcheck
    simp only [evaluateNode] at h
    split at h
    · rw [Outcome.mapM_id_ok] at h
      exact Column.dtype_of_plain (fun _ ↦ BooleanFunction.dtype_onColumns) h
    · next hreads =>
      injection h with h
      subst h
      -- only the tests for finiteness can do without their child
      cases g <;> first | rfl | exact absurd (List.all_eq_true.2 fun _ _ ↦ rfl) hreads
  | stringFunction g => exact Column.dtype_of_plain (fun _ ↦ StringFunction.dtype_onColumns) h
  | unaryFunction g =>
    cases columns with
    | nil => cases h
    | cons col columns => exact UnaryFunction.dtype_onColumn h
  | agg g =>
    cases columns with
    | nil => cases h
    | cons col columns => exact AggFunction.dtype_onColumn h
  | _ =>
    simp only [evaluateNode, Outcome.mapM_id_ok, Outcome.ok_bind] at h
    exact Kind.dtype_onColumns h

/-- **Evaluation gives an expression the type that is told from it**, whatever the frame holds. -/
theorem dtype_evaluate {e : Expr} (he : e.WellFormed) (hf : f.Declares e)
    (h : e.evaluate f .frame .empty = .ok c) : c.dtype = e.resultType := by
  induction e using Expr.induction generalizing c with
  | node d k cs ih =>
    obtain ⟨hcs, -, hcheck⟩ := he
    rw [evaluate_eq_bind hcheck] at h
    obtain ⟨columns, hcolumns, h⟩ := Outcome.bind_eq_ok.1 h
    have htypes : columns.map Column.dtype = (cs.take (k.reads cs)).map resultType :=
      Outcome.map_eq_map_of_mapM hcolumns fun x hx _ ↦
        ih x (List.mem_of_mem_take hx) (hcs x (List.mem_of_mem_take hx))
          (hf.child (List.mem_of_mem_take hx))
    have hcol := (Frame.declares_node.1 hf).1
    rw [dtype_evaluateNode hcheck (fun name c hk ↦ hcol name hk c) h, htypes,
      Kind.resultType_take, resultType_node]

end Expr

end Tabular
