import Tabular.Expr.Build
import Tabular.Proofs.Expr.Identity
import Tabular.Proofs.Printing.Options
import Tabular.Proofs.Types.Literals

/-!
# Printed expressions tell expressions apart

The canonical form of an expression shows the kind, the declared type and the options of each node,
and its children one after the other. It can be read back as a tree: quotes inside a name are
escaped, so that no name closes its own quotes, and every kind has a fixed number of options, so
that what follows them are the children.

So the text of an expression is that of a form (`Expr.form`, `Expr.text_form`), and forms are told
apart by their texts. It remains to say when two expressions have one form. Names and options tell
kinds apart (`Kind.optionForms_append_inj`), and the rest is induction over the first of two trees
(`Expr.form_inj`).

The form does not show all of a literal. Literal columns are left out here, since their keys are not
shown nor all of their rows, and so are floating-point literals, since NaNs are written alike. Among
the other literals, integers are written by their digits alone, signed or unsigned: an unsigned
literal that fits the signed form reads as the signed one (`Literal.signed`). These are different
literals, and it is all that the canonical form does not tell (`Expr.printsApart_iff`,
`Expr.not_printsApart`).
-/

namespace Tabular

open Text (Form)

/-! ### Literals -/

namespace Literal

variable {v w : Literal}

/-- Whether the literal is a floating-point number. -/
def isFloat : Literal → Bool
  | float _ => true
  | _ => false

/-- The literal with an integer in the signed form if it fits. -/
def signed (v : Literal) : Literal :=
  match v.asInt? with
  | some i => int i
  | none => v

/-- The form of a literal. -/
def form : Literal → Form
  | null => .word "null"
  | boolean b => .flag b
  | int i => .number i.toInt
  | uint i => .number i.toInt
  | float x => .word (FloatStyle.printed.format x)
  | text s => .quoted s

/-- A literal is printed as its form. -/
theorem text_form (v : Literal) : v.form.text = v.printed := by
  cases v <;> rfl

/-- Other than those of floating-point numbers, the forms of literals are readable. -/
theorem readable_form (hv : v.isFloat = false) : v.form.Readable := by
  cases v with
  | null => exact .word (by decide) rfl
  | boolean b => exact Form.readable_flag b
  | int i | uint i => exact Form.readable_number i.toInt
  | float x => cases hv
  | text s => exact .quoted

/-- Signing a literal does not show. -/
@[simp]
theorem form_signed (v : Literal) : v.signed.form = v.form := by
  cases v with
  | uint i =>
    rw [signed, asInt?]
    cases h : FixedInt.ofInt? .int64 i.toInt with
    | none => rfl
    | some j => rw [form, form, FixedInt.toInt_ofInt? h]
  | _ => rfl

/-- A number is signed according to its value. -/
theorem signed_int_eq_signed_uint {i : FixedInt .int64} {j : FixedInt .uint64}
    (h : i.toInt = j.toInt) : (int i).signed = (uint j).signed := by
  rw [signed, signed, asInt?, asInt?, ← h, FixedInt.ofInt?_toInt]

/-- No number is a word that is none. -/
theorem number_ne_word {i : Int} {w : String} (hw : w.toInt? = none) : Form.number i ≠ .word w := by
  intro h
  rw [← Form.word.inj h, Int.toInt?_repr] at hw
  cases hw

/-- An integer is written as its number, signed or not. -/
theorem form_of_integer? {i : Int} (h : v.integer? = some i) : v.form = .number i := by
  cases v <;> cases h <;> rfl

/-- Only integers are written as numbers. -/
theorem form_ne_number (hv : v.isFloat = false) (h : v.integer? = none) (i : Int) :
    Form.number i ≠ v.form := by
  cases v with
  | null => exact number_ne_word (by cbv)
  | boolean b => cases b <;> exact number_ne_word (by cbv)
  | int _ | uint _ => cases h
  | float _ => cases hv
  | text _ =>
    intro h
    cases h

/-- The missing literal is no truth value. -/
theorem null_ne_flag (b : Bool) : "null" ≠ Text.flag b := by
  cases b <;> simp [Text.flag]

/-- Literals that are no numbers are told apart by their forms. -/
theorem form_inj_of_integer?_eq_none (hv : v.isFloat = false) (hw : w.isFloat = false)
    (h : v.integer? = none) (h' : w.integer? = none) : v.form = w.form ↔ v = w := by
  cases v with
  | null => cases w <;> simp_all [form, Form.flag, isFloat, integer?, null_ne_flag]
  | boolean b =>
    cases w <;> simp_all [form, Form.flag, Text.flag_inj, isFloat, integer?, (null_ne_flag b).symm]
  | int _ | uint _ => cases h
  | float _ => cases hv
  | text s => cases w <;> simp_all [form, Form.flag, isFloat, integer?]

/-- Integers of one value are signed alike. -/
theorem signed_eq_of_integer? {i : Int} (h : v.integer? = some i) (h' : w.integer? = some i) :
    v.signed = w.signed := by
  cases v with
  | int a =>
    cases w with
    | int b => rw [FixedInt.ext (Option.some.inj (h.trans h'.symm))]
    | uint b => exact signed_int_eq_signed_uint (Option.some.inj (h.trans h'.symm))
    | _ => cases h'
  | uint a =>
    cases w with
    | int b => exact (signed_int_eq_signed_uint (Option.some.inj (h'.trans h.symm))).symm
    | uint b => rw [FixedInt.ext (Option.some.inj (h.trans h'.symm))]
    | _ => cases h'
  | _ => cases h

/-- The form of a literal shows the literal once it is signed. -/
theorem form_inj (hv : v.isFloat = false) (hw : w.isFloat = false) :
    v.form = w.form ↔ v.signed = w.signed := by
  refine ⟨fun h ↦ ?_, fun h ↦ by rw [← form_signed v, h, form_signed]⟩
  cases hi : v.integer? with
  | none =>
    cases hj : w.integer? with
    | none => rw [(form_inj_of_integer?_eq_none hv hw hi hj).1 h]
    | some j => exact absurd (form_of_integer? hj ▸ h.symm) (form_ne_number hv hi j)
  | some i =>
    rw [form_of_integer? hi] at h
    cases hj : w.integer? with
    | none => exact absurd h (form_ne_number hw hj i)
    | some j =>
      rw [form_of_integer? hj, Form.number_inj] at h
      exact signed_eq_of_integer? hi (h ▸ hj)

end Literal

/-! ### Kinds -/

namespace Kind

variable {k k' : Kind} {fs gs : List Form}

/-- Whether the kind is neither a literal column nor a floating-point literal. -/
def isPlain : Kind → Bool
  | literal v => !v.isFloat
  | literalColumn _ => false
  | _ => true

/-- The kind with an integer literal in the signed form if it fits. -/
def signed : Kind → Kind
  | literal v => literal v.signed
  | k => k

/-- The forms of the options. -/
def optionForms : Kind → List Form
  | literal v => [v.form]
  | literalColumn stored => [.word stored.series.printed]
  | col name => [.quoted name]
  | booleanFunction f => [f.form]
  | stringFunction f => [f.form]
  | temporalFunction f => [.word f.printed]
  | unaryFunction f => [f.form]
  | sort options => [options.form]
  | sortBy options => [options.form]
  | agg f => [f.form]
  | binOp op => [.word op.name]
  | _ => []

/-- Options are printed as their forms. -/
theorem texts_optionForms (k : Kind) : Form.texts k.optionForms = k.printedOptions := by
  cases k with
  | literal v => exact congrArg ([·]) v.text_form
  | booleanFunction f => exact congrArg ([·]) f.text_form
  | stringFunction f => exact congrArg ([·]) f.text_form
  | unaryFunction f => exact congrArg ([·]) f.text_form
  | sort options => exact congrArg ([·]) options.text_form
  | sortBy options => exact congrArg ([·]) options.text_form
  | agg f => exact congrArg ([·]) f.text_form
  | _ => rfl

/-- The names of kinds hold no separators. -/
@[simp]
theorem isWord_name (k : Kind) : Text.isWord k.name = true := by
  cases k <;> rw [name] <;> rfl

/-- The forms of options are readable. -/
theorem readable_optionForms (hk : k.isPlain = true) : ∀ f ∈ k.optionForms, f.Readable := by
  cases k with
  | literal v => exact List.forall_mem_singleton.2 (v.readable_form (Bool.not_eq_true' _ ▸ hk))
  | literalColumn _ => cases hk
  | col name => exact List.forall_mem_singleton.2 .quoted
  | booleanFunction f => exact List.forall_mem_singleton.2 f.readable_form
  | stringFunction f => exact List.forall_mem_singleton.2 f.readable_form
  | temporalFunction f => exact List.forall_mem_singleton.2 f.readable_form
  | unaryFunction f => exact List.forall_mem_singleton.2 f.readable_form
  | sort options => exact List.forall_mem_singleton.2 options.readable_form
  | sortBy options => exact List.forall_mem_singleton.2 options.readable_form
  | agg f => exact List.forall_mem_singleton.2 f.readable_form
  | binOp op => exact List.forall_mem_singleton.2 op.readable_form
  | _ => exact List.forall_mem_nil _

/-- Signing a kind does not show. -/
@[simp]
theorem name_signed (k : Kind) : k.signed.name = k.name := by
  cases k <;> rfl

@[simp]
theorem optionForms_signed (k : Kind) : k.signed.optionForms = k.optionForms := by
  cases k with
  | literal v => exact congrArg ([·]) v.form_signed
  | _ => rfl

/-- Names and options tell kinds apart once they are signed, and where their options end. -/
theorem optionForms_append_inj (hk : k.isPlain = true) (hk' : k'.isPlain = true)
    (hname : k.name = k'.name) (h : k.optionForms ++ fs = k'.optionForms ++ gs) :
    k.signed = k'.signed ∧ fs = gs := by
  cases k with
  | literal v =>
    cases k' with
    | literal w =>
      obtain ⟨hform, hparts⟩ := List.cons.inj h
      rw [isPlain, Bool.not_eq_true'] at hk hk'
      exact ⟨congrArg literal ((Literal.form_inj hk hk').1 hform), hparts⟩
    | _ => simp [name] at hname
  | literalColumn _ => cases hk
  | _ =>
    cases k' <;> simp only [name, String.reduceEq] at hname
    all_goals simpa [optionForms, signed, BooleanFunction.form_inj, StringFunction.form_inj,
      TemporalFunction.printed_inj, UnaryFunction.form_inj, SortOptions.form_inj,
      SortByOptions.form_inj, AggFunction.form_inj, BinaryOp.name_inj] using h

end Kind

/-! ### Trees -/

namespace Expr

variable {d : DataType} {k : Kind} {cs : List Expr} {a b : Expr}

mutual

/-- The form of an expression. -/
def form : Expr → Form
  | node d k cs => .application k.name (d.form :: (k.optionForms ++ forms cs))

/-- The forms of expressions. -/
def forms : List Expr → List Form
  | [] => []
  | c :: cs => form c :: forms cs

end

mutual

/-- The expression with its integer literals in the signed form wherever they fit. -/
def signed : Expr → Expr
  | node d k cs => node d k.signed (signedAll cs)

/-- The expressions with their integer literals signed. -/
def signedAll : List Expr → List Expr
  | [] => []
  | c :: cs => signed c :: signedAll cs

end

/-- The forms of children are those of each. -/
theorem forms_eq_map (cs : List Expr) : forms cs = cs.map form := by
  induction cs with
  | nil => rfl
  | cons c cs ih => rw [forms, ih, List.map_cons]

theorem signedAll_eq_map (cs : List Expr) : signedAll cs = cs.map signed := by
  induction cs with
  | nil => rfl
  | cons c cs ih => rw [signedAll, ih, List.map_cons]

theorem printedAll_eq_map (cs : List Expr) : printedAll cs = cs.map printed := by
  induction cs with
  | nil => rfl
  | cons c cs ih => rw [printedAll, ih, List.map_cons]

/-- **The canonical form is the text of the form.** -/
theorem text_form (e : Expr) : e.form.text = e.printed := by
  induction e using Expr.induction with
  | node d k cs ih =>
    have hchildren : (cs.map form).map Form.text = cs.map printed := by
      rw [List.map_map]
      exact List.map_congr_left ih
    rw [form, Form.application, Form.text, Form.texts_eq_map, List.map_cons, List.map_append,
      ← Form.texts_eq_map k.optionForms, k.texts_optionForms, d.text_form, forms_eq_map, hchildren,
      printed, printedAll_eq_map]
    rfl

/-- Signing an expression does not show. -/
@[simp]
theorem form_signed (e : Expr) : e.signed.form = e.form := by
  induction e using Expr.induction with
  | node d k cs ih =>
    have hchildren : (cs.map signed).map form = cs.map form := by
      rw [List.map_map]
      exact List.map_congr_left ih
    rw [signed, form, form, k.name_signed, k.optionForms_signed, forms_eq_map, forms_eq_map,
      signedAll_eq_map, hchildren]

/-- No node is a literal column or a floating-point literal. -/
def IsPlain (e : Expr) : Prop :=
  ∀ x ∈ e.nodes, x.kind.isPlain = true

instance {e : Expr} : Decidable e.IsPlain :=
  inferInstanceAs (Decidable (∀ x ∈ e.nodes, x.kind.isPlain = true))

/-- A node is plain if its kind is, and its children are. -/
theorem isPlain_node :
    (node d k cs).IsPlain ↔ k.isPlain = true ∧ ∀ c ∈ cs, c.IsPlain := by
  simp only [IsPlain, mem_nodes_node, forall_eq_or_imp, forall_exists_index, and_imp]
  exact and_congr_right fun _ ↦ ⟨fun h c hc x hx ↦ h x c hc hx, fun h x c hc hx ↦ h c hc x hx⟩

/-- The form of a plain expression is readable, by induction over the tree. -/
theorem readable_form (ha : a.IsPlain) : a.form.Readable := by
  induction a using Expr.induction with
  | node d k cs ih =>
    obtain ⟨hk, hcs⟩ := isPlain_node.1 ha
    refine .group k.isWord_name fun f hf ↦ ?_
    rw [forms_eq_map, List.mem_cons, List.mem_append, List.mem_map] at hf
    rcases hf with rfl | hf | ⟨c, hc, rfl⟩
    · exact d.readable_form
    · exact Kind.readable_optionForms hk f hf
    · exact ih c hc (hcs c hc)

/-- The form of an expression shows the expression once it is signed: by induction on the first
tree, the name and the options of a node say where its children begin. -/
theorem form_inj (ha : a.IsPlain) (hb : b.IsPlain) : a.form = b.form ↔ a.signed = b.signed := by
  refine ⟨fun h ↦ ?_, fun h ↦ by rw [← form_signed a, h, form_signed]⟩
  induction a using Expr.induction generalizing b with
  | node d k cs ih =>
    cases b with
    | node d' k' cs' =>
      obtain ⟨hk, hcs⟩ := isPlain_node.1 ha
      obtain ⟨hk', hcs'⟩ := isPlain_node.1 hb
      rw [form, form, Form.application, Form.application, Form.group.injEq, List.cons.injEq] at h
      obtain ⟨hname, -, hd, hparts⟩ := h
      obtain ⟨hkind, hchildren⟩ := Kind.optionForms_append_inj hk hk' hname hparts
      rw [forms_eq_map, forms_eq_map, ← List.forall₂_eq_eq_eq, List.forall₂_map_left_iff,
        List.forall₂_map_right_iff] at hchildren
      have hsigned := map_eq_map_of_forall₂ hchildren fun c hc c' hc' h ↦
        ih c hc (hcs c hc) (hcs' c' hc') h
      rw [signed, signed, signedAll_eq_map, signedAll_eq_map, DataType.form_inj.1 hd, hkind,
        hsigned]

/-- **The canonical form shows an expression once it is signed.** -/
theorem printed_eq_iff_signed_eq (ha : a.IsPlain) (hb : b.IsPlain) :
    a.printed = b.printed ↔ a.signed = b.signed := by
  rw [← text_form, ← text_form, Form.text_inj (readable_form ha) (readable_form hb),
    form_inj ha hb]

/-! ### Telling expressions apart -/

/-- The expressions have one canonical form exactly if they test equal. -/
def PrintsApart (a b : Expr) : Prop :=
  a.printed = b.printed ↔ a.same b = true

/-- **The canonical form tells expressions apart** but for the forms of their integer literals: two
expressions without literal columns and floating-point literals are written alike exactly if they
are equal once they are signed. So two of them print apart unless it is signing that makes them
equal. -/
theorem printsApart_iff (ha : a.IsPlain) (hb : b.IsPlain) :
    (a.PrintsApart b ↔ (a.signed = b.signed → a = b)) ∧
      (a.printed = b.printed ↔ a.signed = b.signed) := by
  have hsigned := printed_eq_iff_signed_eq ha hb
  refine ⟨?_, hsigned⟩
  rw [PrintsApart, same_iff, hsigned]
  exact ⟨fun h ↦ h.1, fun h ↦ ⟨h, congrArg signed⟩⟩

/-- Whether all of the columns with the given names are set. -/
def allSet (names : List String) : Expr :=
  node .boolean (.booleanFunction .allHorizontal)
    (names.map fun name ↦ node .boolean (.col name) [])

/-- A name that looks like the end of one column and the beginning of the next is one name. -/
theorem printsApart_iff_allSet :
    (allSet ["a", "b"]).WellFormed ∧ (allSet ["a\"), Col(Boolean, \"b"]).WellFormed ∧
      (allSet ["a", "b"]).IsPlain ∧ (allSet ["a\"), Col(Boolean, \"b"]).IsPlain ∧
        (allSet ["a", "b"]).printed ≠ (allSet ["a\"), Col(Boolean, \"b"]).printed := by
  have hcolumns : (allSet ["a", "b"]).IsPlain := by decide
  have hcolumn : (allSet ["a\"), Col(Boolean, \"b"]).IsPlain := by decide
  refine ⟨by decide +kernel, by decide +kernel, hcolumns, hcolumn, fun h ↦ ?_⟩
  exact absurd ((printsApart_iff hcolumns hcolumn).2.1 h) (by decide)

/-- The number one as a 64-bit integer, given in the signed form or in the unsigned form. -/
def literalOne (signed : Bool) : Expr :=
  node .int64 (.literal (if signed then .int (.wrap _ 1) else .uint (.wrap _ 1))) []

/-- A signed and an unsigned one are written alike. -/
theorem not_printsApart : ¬∀ a b : Expr, a.WellFormed → b.WellFormed → a.IsPlain → b.IsPlain →
    a.PrintsApart b := by
  intro h
  have happart := h (literalOne true) (literalOne false) (by decide +kernel) (by decide +kernel)
    (by decide) (by decide)
  have hprinted : (literalOne true).printed = (literalOne false).printed :=
    (printed_eq_iff_signed_eq (by decide) (by decide)).2 (by decide +kernel)
  exact absurd (same_iff.1 (happart.1 hprinted)) (by decide)

end Expr

end Tabular
