import Mathlib
import Tabular.Expr.Printed
import Tabular.Proofs.Printing.Forms

/-!
# Printed types and options

Data types, functions with their options, and the options of sorts each have a form. Of every one of
these forms there are three things to know: it is written as the library prints it (`text_form`), it
is readable (`readable_form`), and it belongs to one type or one choice of options only
(`form_inj`).

The first two are read off the words that the forms are made of. Numbers are words, since they are
written with digits and a sign, and a text that may be missing is quoted where it is not. The third
is read off constructors, as far as options go. What remains are names: finitely many for each
family, and all different, so that equality is decided by looking at them.
-/

namespace Tabular

namespace Text

/-! ### Truth values, numbers and texts that may be missing -/

/-- Truth values are written differently. -/
@[simp]
theorem flag_inj {a b : Bool} : flag a = flag b ↔ a = b := by
  cases a <;> cases b <;> simp [flag]

/-- Digits separate nothing. -/
theorem isSeparator_of_isDigit {c : Char} (h : c.isDigit = true) : isSeparator c = false := by
  rw [isSeparator, ← Bool.not_eq_true, List.contains_iff_mem]
  intro hc
  have hnone : ∀ c ∈ [',', ':', '"', ' ', '(', ')', '[', ']'], c.isDigit = false := by simp
  rw [hnone c hc] at h
  cases h

/-- A natural number is a word. -/
@[simp]
theorem isWord_natRepr (n : Nat) : isWord n.repr = true := by
  refine isWord_iff.2 fun c hc ↦ ?_
  rw [Nat.repr_eq_ofList_toDigits, String.toList_ofList] at hc
  exact isSeparator_of_isDigit (Nat.isDigit_of_mem_toDigits (by decide) (by decide) hc)

@[simp]
theorem isWord_intRepr (i : Int) : isWord i.repr = true := by
  rw [Int.repr_eq_if]
  split
  · exact isWord_natRepr _
  · rw [isWord, String.toList_append, List.all_append]
    exact Bool.and_eq_true_iff.2 ⟨rfl, isWord_natRepr _⟩

/-- A number has digits. -/
theorem intRepr_ne_empty (i : Int) : i.repr ≠ "" := by
  rw [Int.repr_eq_if]
  split
  · exact Nat.repr_ne_empty
  · simp

namespace Form

/-- A number. -/
def number (i : Int) : Form := word i.repr

/-- A text that may be missing. -/
def optional : Option String → Form
  | none => word "None"
  | some s => application "Some" [quoted s]

variable {name key : String} {value : Form}

@[simp]
theorem number_inj {i j : Int} : number i = number j ↔ i = j := by
  rw [number, number, word.injEq, Int.repr_inj]

@[simp]
theorem flag_inj {a b : Bool} : flag a = flag b ↔ a = b := by
  rw [flag, flag, word.injEq, Text.flag_inj]

/-- Texts that may be missing are told apart, and from their absence. -/
@[simp]
theorem optional_inj {s t : Option String} : optional s = optional t ↔ s = t := by
  cases s <;> cases t <;> simp [optional, application]

/-- Flags in brackets show how many they are and which. -/
@[simp]
theorem listing_flags_inj {as bs : List Bool} :
    listing (as.map flag) = listing (bs.map flag) ↔ as = bs := by
  rw [listing, listing, group.injEq]
  exact ⟨fun h ↦ List.map_injective_iff.2 (fun _ _ ↦ flag_inj.1) h.2.2, fun h ↦ h ▸ ⟨rfl, rfl, rfl⟩⟩

theorem readable_flag (b : Bool) : (flag b).Readable := by
  cases b <;> exact .word (by decide) rfl

theorem readable_number (i : Int) : (number i).Readable :=
  .word (intRepr_ne_empty i) (isWord_intRepr i)

/-- An application is readable if its value is. -/
theorem readable_application (hname : isWord name = true) (h : value.Readable) :
    (application name [value]).Readable :=
  .group hname (List.forall_mem_singleton.2 h)

/-- Texts that may be missing are readable. -/
theorem readable_optional (s : Option String) : (optional s).Readable := by
  cases s with
  | none => exact .word (by decide) rfl
  | some s => exact readable_application rfl .quoted

/-- A record with one field is readable if its value is. -/
theorem readable_field (hname : isWord name = true) (hkey : isWord key = true)
    (h : value.Readable) : (record name [(key, value)]).Readable :=
  .group hname (List.forall_mem_singleton.2 (.field hkey h))

/-- A record with one more field. -/
theorem readable_record {fields : List (String × Form)} (hkey : isWord key = true)
    (h : value.Readable) (hfields : (record name fields).Readable) :
    (record name ((key, value) :: fields)).Readable := by
  cases hfields with
  | group hname hparts => exact .group hname (List.forall_mem_cons.2 ⟨.field hkey h, hparts⟩)

/-- Lists of truth values are readable. -/
theorem readable_flags (bs : List Bool) : (listing (bs.map flag)).Readable :=
  .group rfl fun p hp ↦ by
    obtain ⟨b, -, rfl⟩ := List.mem_map.1 hp
    exact readable_flag b

end Form

end Text

open Text (Form)
open Text.Form (readable_flag readable_number readable_application readable_optional readable_field
  readable_record readable_flags)

/-! ### Data types -/

/-- Units are told apart by their names. -/
@[simp]
theorem TimeUnit.name_inj {u v : TimeUnit} : u.name = v.name ↔ u = v := by
  cases u <;> cases v <;> simp [name]

namespace DataType

/-- The form of a type. -/
def form : DataType → Form
  | timestamp unit zone => .application "Timestamp" [.word unit.name, .optional zone]
  | duration unit => .application "Duration" [.word unit.name]
  | list item => .application "List" [.record "Field" [("name", .quoted "item"),
      ("data_type", form item), ("nullable", .flag true), ("dict_id", .word "0"),
      ("dict_is_ordered", .flag false), ("metadata", .word "\x7b\x7d")]]
  | d => .word d.name

/-- A type is written as its name. -/
@[simp]
theorem text_form (d : DataType) : d.form.text = d.name := by
  induction d with
  | timestamp unit zone => cases zone <;> rfl
  | list item ih => rw [name, ← ih]; rfl
  | _ => rfl

/-- The form of a type is readable, and so is that of a list of any depth. -/
theorem readable_form (d : DataType) : d.form.Readable := by
  have hunit (u : TimeUnit) : (Form.word u.name).Readable := by
    cases u <;> exact .word (by decide) rfl
  induction d with
  | timestamp unit zone =>
    refine .group rfl ?_
    simp only [List.forall_mem_cons]
    exact ⟨hunit unit, readable_optional zone, List.forall_mem_nil _⟩
  | duration unit => exact readable_application rfl (hunit unit)
  | list item ih =>
    have hlast : (Form.record "Field" [("dict_is_ordered", .flag false),
        ("metadata", .word "\x7b\x7d")]).Readable :=
      readable_record rfl (readable_flag false) (readable_field rfl rfl (.word (by decide) rfl))
    exact readable_application rfl (readable_record rfl .quoted (readable_record rfl ih
      (readable_record rfl (readable_flag true)
        (readable_record rfl (.word (by decide) rfl) hlast))))
  | integer t => cases t <;> exact .word (by decide) rfl
  | float t => cases t <;> exact .word (by decide) rfl
  | text t => cases t <;> exact .word (by decide) rfl
  | _ => exact .word (by decide) rfl

/-- The types that are one word. -/
def words : List DataType :=
  [null, boolean, date32, date64] ++ [FloatType.half, .single, .double].map float ++
    [IntType.int8, .int16, .int32, .int64, .uint8, .uint16, .uint32, .uint64].map integer ++
      [TextType.utf8, .largeUtf8, .utf8View].map text

/-- No two of the words name the same type. -/
theorem nodup_names : (words.map name).Nodup := by
  simp [words, name, IntType.name, FloatType.name, TextType.name]

/-- A type whose form is a word is one of those that are one word. -/
theorem mem_words_of_form {d : DataType} {w : String} (h : d.form = .word w) :
    d ∈ words ∧ d.name = w := by
  cases d with
  | timestamp _ _ | duration _ | list _ => cases h
  | integer t => exact ⟨by cases t <;> decide, Form.word.inj h⟩
  | float t => exact ⟨by cases t <;> decide, Form.word.inj h⟩
  | text t => exact ⟨by cases t <;> decide, Form.word.inj h⟩
  | _ => exact ⟨by decide, Form.word.inj h⟩

/-- **Types are told apart by their forms.** -/
@[simp]
theorem form_inj {a b : DataType} : a.form = b.form ↔ a = b := by
  refine ⟨fun h ↦ ?_, fun h ↦ h ▸ rfl⟩
  induction a generalizing b with
  | timestamp unit zone =>
    cases b with
    | timestamp unit' zone' =>
      simp only [form, Form.application, Form.group.injEq, List.cons.injEq, Form.word.injEq,
        TimeUnit.name_inj, Form.optional_inj] at h
      rw [h.2.2.1, h.2.2.2.1]
    | _ => simp [form, Form.application] at h
  | duration unit =>
    cases b with
    | duration unit' =>
      simp only [form, Form.application, Form.group.injEq, List.cons.injEq, Form.word.injEq,
        TimeUnit.name_inj] at h
      rw [h.2.2.1]
    | _ => simp [form, Form.application] at h
  | list item ih =>
    cases b with
    | list item' =>
      simp only [form, Form.application, Form.record, List.map, Form.group.injEq, List.cons.injEq,
        Form.field.injEq] at h
      rw [ih h.2.2.1.2.2.2.1.2]
    | _ => simp [form, Form.application] at h
  -- The remaining types are written as single words, of which no two are the same.
  | _ =>
    obtain ⟨hb, hname⟩ := mem_words_of_form h.symm
    exact List.inj_on_of_nodup_map nodup_names (mem_words_of_form rfl).1 hb hname.symm

end DataType

/-! ### Functions -/

/-- Intervals are told apart by the ends that they include. -/
theorem ClosedInterval.printed_inj {a b : ClosedInterval} : a.printed = b.printed ↔ a = b := by
  cases a <;> cases b <;> simp [printed]

namespace BooleanFunction

/-- The form of a function with its options. -/
def form : BooleanFunction → Form
  | any ignoreNulls => .record "Any" [("ignore_nulls", .flag ignoreNulls)]
  | all ignoreNulls => .record "All" [("ignore_nulls", .flag ignoreNulls)]
  | isBetween closed => .record "IsBetween" [("closed", .word closed.printed)]
  | f => .word f.printed

/-- A function with a Boolean result is written as it is printed. -/
@[simp]
theorem text_form (f : BooleanFunction) : f.form.text = f.printed := by
  cases f <;> rfl

theorem readable_form (f : BooleanFunction) : f.form.Readable := by
  have hclosed (c : ClosedInterval) : (Form.word c.printed).Readable := by
    cases c <;> exact .word (by decide) rfl
  cases f with
  | any ignoreNulls | all ignoreNulls => exact readable_field rfl rfl (readable_flag ignoreNulls)
  | isBetween closed => exact readable_field rfl rfl (hclosed closed)
  | _ => exact .word (by decide) rfl

/-- Functions with Boolean results are told apart. -/
@[simp]
theorem form_inj {f g : BooleanFunction} : f.form = g.form ↔ f = g := by
  cases f <;> cases g <;>
    simp [form, printed, Form.record, Form.flag_inj, ClosedInterval.printed_inj]

end BooleanFunction

namespace StringFunction

/-- The form of a function with its options. -/
def form : StringFunction → Form
  | contains literal strict =>
    .record "Contains" [("literal", .flag literal), ("strict", .flag strict)]
  | replace n literal => .record "Replace" [("n", .number n.toInt), ("literal", .flag literal)]
  | replaceMany ignoreCase =>
    .record "ReplaceMany" [("ascii_case_insensitive", .flag ignoreCase)]
  | strptime format strict exact cache =>
    .record "Strptime" [("format", .optional format), ("strict", .flag strict),
      ("exact", .flag exact), ("cache", .flag cache)]
  | f => .word f.printed

/-- A function of text is written as it is printed. -/
@[simp]
theorem text_form (f : StringFunction) : f.form.text = f.printed := by
  cases f with
  | strptime format _ _ _ => cases format <;> rfl
  | _ => rfl

theorem readable_form (f : StringFunction) : f.form.Readable := by
  cases f with
  | contains literal strict =>
    exact readable_record rfl (readable_flag literal)
      (readable_field rfl rfl (readable_flag strict))
  | replace n literal =>
    exact readable_record rfl (readable_number n.toInt)
      (readable_field rfl rfl (readable_flag literal))
  | replaceMany ignoreCase => exact readable_field rfl rfl (readable_flag ignoreCase)
  | strptime format strict exact cache =>
    exact readable_record rfl (readable_optional format) (readable_record rfl (readable_flag strict)
      (readable_record rfl (readable_flag exact) (readable_field rfl rfl (readable_flag cache))))
  | _ => exact .word (by decide) rfl

/-- Functions of text are told apart, by the texts in their options as well. -/
@[simp]
theorem form_inj {f g : StringFunction} : f.form = g.form ↔ f = g := by
  cases f <;> cases g <;>
    simp [form, printed, Form.record, Form.flag_inj, Form.number_inj, Form.optional_inj,
      FixedInt.ext_iff]

end StringFunction

namespace TemporalFunction

theorem readable_form (f : TemporalFunction) : (Form.word f.printed).Readable := by
  cases f <;> exact .word (by decide) rfl

/-- Functions of times have no options and are told apart by their names. -/
theorem printed_inj {f g : TemporalFunction} : f.printed = g.printed ↔ f = g := by
  cases f <;> cases g <;> simp [printed]

end TemporalFunction

namespace MathOp

/-- These are all functions of numbers. -/
theorem mem_all (op : MathOp) : op ∈ all := by
  cases op <;> decide

/-- No two of them have one name. -/
theorem nodup_printedNames : (all.map printedName).Nodup := by
  simp [all, printedName, names]

/-- Functions of numbers are told apart by their names. -/
theorem printedName_inj {op op' : MathOp} : op.printedName = op'.printedName ↔ op = op' :=
  ⟨List.inj_on_of_nodup_map nodup_printedNames op.mem_all op'.mem_all, fun h ↦ h ▸ rfl⟩

end MathOp

namespace UnaryFunction

/-- The form of a function with its options. -/
def form : UnaryFunction → Form
  | math op => .application "Math" [.word op.printedName]
  | round decimals => .record "Round" [("decimals", .number decimals)]
  | setSorted descending => .record "SetSorted" [("descending", .flag descending)]
  | unique maintainOrder => .record "Unique" [("maintain_order", .flag maintainOrder)]
  | cumMin reverse => .record "CumMin" [("reverse", .flag reverse)]
  | cumMax reverse => .record "CumMax" [("reverse", .flag reverse)]
  | cumProd reverse => .record "CumProd" [("reverse", .flag reverse)]
  | cumSum reverse => .record "CumSum" [("reverse", .flag reverse)]
  | f => .word f.printed

/-- A function of one column is written as it is printed. -/
@[simp]
theorem text_form (f : UnaryFunction) : f.form.text = f.printed := by
  cases f <;> rfl

theorem readable_form (f : UnaryFunction) : f.form.Readable := by
  have hop (op : MathOp) : (Form.word op.printedName).Readable := by
    cases op <;> exact .word (by decide) rfl
  cases f with
  | math op => exact readable_application rfl (hop op)
  | dropNulls | fillNull | maskNans => exact .word (by decide) rfl
  | round decimals => exact readable_field rfl rfl (readable_number decimals)
  | _ => exact readable_field rfl rfl (readable_flag _)

@[simp]
theorem form_inj {f g : UnaryFunction} : f.form = g.form ↔ f = g := by
  cases f <;> cases g <;>
    simp [form, printed, Form.record, Form.application, Form.flag_inj, Form.number_inj,
      MathOp.printedName_inj]

end UnaryFunction

/-- Interpolations are told apart by their names. -/
theorem Interpolation.printedName_inj {a b : Interpolation} :
    a.printedName = b.printedName ↔ a = b := by
  cases a <;> cases b <;> simp [printedName]

namespace AggFunction

/-- The form of a reduction with its options. -/
def form : AggFunction → Form
  | min propagateNans => .record "Min" [("propagate_nans", .flag propagateNans)]
  | max propagateNans => .record "Max" [("propagate_nans", .flag propagateNans)]
  | std ddof => .record "Std" [("ddof", .number ddof)]
  | var ddof => .record "Var" [("ddof", .number ddof)]
  | quantile interpolation =>
    .record "Quantile" [("interpolation", .word interpolation.printedName)]
  | f => .word f.printed

/-- A reduction is written as it is printed. -/
@[simp]
theorem text_form (f : AggFunction) : f.form.text = f.printed := by
  cases f <;> rfl

theorem readable_form (f : AggFunction) : f.form.Readable := by
  have hinterpolation (i : Interpolation) : (Form.word i.printedName).Readable := by
    cases i <;> exact .word (by decide) rfl
  cases f with
  | min propagateNans | max propagateNans =>
    exact readable_field rfl rfl (readable_flag propagateNans)
  | std ddof | var ddof => exact readable_field rfl rfl (readable_number ddof)
  | quantile interpolation => exact readable_field rfl rfl (hinterpolation interpolation)
  | _ => exact .word (by decide) rfl

@[simp]
theorem form_inj {f g : AggFunction} : f.form = g.form ↔ f = g := by
  cases f <;> cases g <;>
    simp [form, printed, Form.record, Form.flag_inj, Form.number_inj,
      Interpolation.printedName_inj]

end AggFunction

namespace BinaryOp

theorem readable_form (op : BinaryOp) : (Form.word op.name).Readable := by
  rcases op with c | a | b | c <;> cases ‹_› <;> exact .word (by decide) rfl

/-- An operator is found under its name. -/
@[simp]
theorem ofName?_name (op : BinaryOp) : ofName? op.name = some op := by
  rcases op with c | a | b | c <;> cases ‹_› <;> rfl

/-- Operators are told apart by their names, since each is found under its own. -/
@[simp]
theorem name_inj {op op' : BinaryOp} : op.name = op'.name ↔ op = op' :=
  ⟨fun h ↦ Option.some.inj ((ofName?_name op).symm.trans (h ▸ ofName?_name op')), fun h ↦ h ▸ rfl⟩

end BinaryOp

/-! ### Sorts -/

namespace SortOptions

/-- The form of the options. -/
def form (o : SortOptions) : Form :=
  .record "SortOptions" [("stable", .flag o.stable), ("nulls_last", .flag o.nullsLast),
    ("descending", .flag o.descending)]

/-- The options of a sort are written as they are printed. -/
@[simp]
theorem text_form (o : SortOptions) : o.form.text = o.printed :=
  rfl

theorem readable_form (o : SortOptions) : o.form.Readable := by
  exact readable_record rfl (readable_flag o.stable) (readable_record rfl
    (readable_flag o.nullsLast) (readable_field rfl rfl (readable_flag o.descending)))

@[simp]
theorem form_inj {o o' : SortOptions} : o.form = o'.form ↔ o = o' := by
  cases o; cases o'; simp [form, Form.record, Form.flag_inj]

end SortOptions

namespace SortByOptions

/-- The form of the options. -/
def form (o : SortByOptions) : Form :=
  .record "SortByOptions" [("stable", .flag o.stable),
    ("nulls_last", .listing (o.nullsLast.map .flag)),
    ("descending", .listing (o.descending.map .flag))]

@[simp]
theorem text_form (o : SortByOptions) : o.form.text = o.printed := by
  have htexts (flags : List Bool) : Form.texts (flags.map .flag) = flags.map Text.flag := by
    rw [Form.texts_eq_map, List.map_map]
    rfl
  simp only [form, printed, Form.record, Form.listing, List.map, Form.text, Form.texts, htexts,
    Text.record, Text.listing, Form.flag, Text.Bracket.opening, Text.Bracket.closing]
  rfl

theorem readable_form (o : SortByOptions) : o.form.Readable := by
  exact readable_record rfl (readable_flag o.stable) (readable_record rfl
    (readable_flags o.nullsLast) (readable_field rfl rfl (readable_flags o.descending)))

/-- The options of a sort by several keys are told apart: each list shows how many keys there are.
-/
@[simp]
theorem form_inj {o o' : SortByOptions} : o.form = o'.form ↔ o = o' := by
  cases o; cases o'; simp [form, Form.record, Form.flag_inj, Form.listing_flags_inj]

end SortByOptions

end Tabular
