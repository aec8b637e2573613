import Tabular.Proofs.Printing.Quoting
import Tabular.Text.Record

/-!
# Printed forms as trees

What is printed of an expression is put together from words, quoted texts, named fields and groups
in brackets. A `Text.Form` is this structure as a tree, before it is written out (`Text.Form.text`).

Words hold none of the characters that separate them (`Text.isWord`), so the tree can be recovered
from its text: the leading word of the text ends at the first of these characters, which tells what
kind of form it is, and a form ends where a comma or a closing bracket follows it (`Text.Ends`).

A text that begins with a form can go on in many ways, and so equality of texts alone is no
statement for induction. What is proved is that readable forms with something after them are equal
only if the forms are, and what comes after (`Text.Form.Readable.readsBack`). The parts of a group
are then taken off one by one, each with the rest of the group after it. That readable forms with
one text are one form (`Text.Form.text_inj`) is the case where nothing comes after.
-/

namespace Tabular

namespace Text

/-! ### Words -/

/-- The characters that separate words. -/
def isSeparator (c : Char) : Bool :=
  [',', ':', '"', ' ', '(', ')', '[', ']'].contains c

/-- Whether a text has no separators. -/
def isWord (w : String) : Bool := w.toList.all fun c ↦ !isSeparator c

/-- A word has no character that separates words. -/
theorem isWord_iff {w : String} : isWord w = true ↔ ∀ c ∈ w.toList, isSeparator c = false := by
  simp [isWord]

/-- What follows a word: nothing, or a separator first. -/
def StartsApart (x : List Char) : Prop := ∀ c ∈ x.head?, isSeparator c = true

/-- The characters up to the first separator are the word. -/
theorem takeWhile_word {w : String} {x : List Char} (hw : isWord w = true) (hx : StartsApart x) :
    (w.toList ++ x).takeWhile (fun c ↦ !isSeparator c) = w.toList := by
  rw [List.takeWhile_append_of_pos (List.all_eq_true.1 hw)]
  cases x with
  | nil => rw [List.takeWhile_nil, List.append_nil]
  | cons c x => rw [List.takeWhile_cons_of_neg (by rw [hx c rfl]; decide), List.append_nil]

/-- A word is told from what follows it. -/
theorem word_append_inj {v w : String} {x y : List Char} (hv : isWord v = true)
    (hw : isWord w = true) (hx : StartsApart x) (hy : StartsApart y)
    (h : v.toList ++ x = w.toList ++ y) : v = w ∧ x = y := by
  have hword := congrArg (List.takeWhile fun c ↦ !isSeparator c) h
  rw [takeWhile_word hv hx, takeWhile_word hw hy] at hword
  rw [hword] at h
  exact ⟨String.toList_inj.1 hword, List.append_cancel_left h⟩

/-! ### Forms -/

/-- The brackets of a group. -/
inductive Bracket where
  | round
  | curly
  | square

namespace Bracket

/-- What is written before the parts. -/
def opening : Bracket → String
  | round => "("
  | curly => " \x7b "
  | square => "["

/-- What is written after the parts. -/
def closing : Bracket → String
  | round => ")"
  | curly => " \x7d"
  | square => "]"

end Bracket

/-- A printed form before it is written out. -/
inductive Form where
  | word (w : String)
  | quoted (s : String)
  | field (key : String) (value : Form)
  /-- Parts in brackets, after a name that may be empty. -/
  | group (name : String) (bracket : Bracket) (parts : List Form)

namespace Form

/-- A truth value. -/
def flag (b : Bool) : Form := word (Text.flag b)

/-- A name with values in parentheses. -/
def application (name : String) (values : List Form) : Form := group name .round values

/-- A name with named fields. -/
def record (name : String) (fields : List (String × Form)) : Form :=
  group name .curly (fields.map fun (key, value) ↦ field key value)

/-- A list in brackets. -/
def listing (values : List Form) : Form := group "" .square values

/-- What holds of a form as soon as it holds of its parts holds of every form. -/
@[elab_as_elim]
theorem induction {P : Form → Prop} (word : ∀ w, P (word w)) (quoted : ∀ s, P (quoted s))
    (field : ∀ key value, P value → P (field key value))
    (group : ∀ name b parts, (∀ p ∈ parts, P p) → P (group name b parts)) (f : Form) : P f :=
  Form.rec word quoted field group (fun _ h ↦ nomatch h)
    (fun _ _ hp hps _ hx ↦ (List.mem_cons.1 hx).elim (fun h ↦ h ▸ hp) (hps _)) f

mutual

/-- The text of a form. -/
def text : Form → String
  | word w => w
  | quoted s => Text.quoted s
  | field key value => key ++ ": " ++ text value
  | group name b parts => name ++ b.opening ++ commas (texts parts) ++ b.closing

/-- The texts of forms. -/
def texts : List Form → List String
  | [] => []
  | p :: ps => text p :: texts ps

end

theorem texts_eq_map (ps : List Form) : texts ps = ps.map text := by
  induction ps with
  | nil => rfl
  | cons p ps ih => rw [texts, ih, List.map_cons]

/-- The word that the form begins with. -/
def head : Form → String
  | word w => w
  | quoted _ => ""
  | field key _ => key
  | group name _ _ => name

/-- What is written after the leading word. -/
def tail : Form → List Char
  | word _ => []
  | quoted s => (Text.quoted s).toList
  | field _ value => ':' :: ' ' :: value.text.toList
  | group _ b parts => b.opening.toList ++ (commas (texts parts)).toList ++ b.closing.toList

/-- The text of a form is its leading word and what is written after it. -/
theorem toList_text (f : Form) : f.text.toList = f.head.toList ++ f.tail := by
  cases f <;> simp [text, head, tail]

/-- Words hold no separators, and those that stand alone are not empty. -/
inductive Readable : Form → Prop
  | word {w : String} : w ≠ "" → isWord w = true → Readable (word w)
  | quoted {s : String} : Readable (quoted s)
  | field {key : String} {value : Form} :
      isWord key = true → Readable value → Readable (field key value)
  | group {name : String} {b : Bracket} {parts : List Form} :
      isWord name = true → (∀ p ∈ parts, Readable p) → Readable (group name b parts)

end Form

/-- What may be written after a form: nothing, a comma or a closing bracket. -/
inductive Ends : List Char → Prop
  | nil : Ends []
  | comma {x : List Char} : Ends (',' :: x)
  | closing (b : Bracket) {x : List Char} : Ends (b.closing.toList ++ x)

/-- What may follow a form begins with a separator, if with anything. -/
theorem Ends.startsApart {x : List Char} (h : Ends x) : StartsApart x := by
  cases h with
  | nil => nofun
  | comma => rintro c ⟨⟩; rfl
  | closing b => cases b <;> rintro c ⟨⟩ <;> rfl

namespace Form

variable {f g : Form} {ps qs : List Form} {b b' : Bracket} {x y : List Char}

/-! ### The leading word -/

/-- The leading word of a readable form is one. -/
theorem Readable.isWord_head (h : f.Readable) : isWord f.head = true := by
  cases h with
  | word _ hw => exact hw
  | quoted => rfl
  | field hkey _ => exact hkey
  | group hname _ => exact hname

/-- The leading word of a form is over where the rest begins. -/
theorem startsApart_tail (f : Form) (hx : Ends x) : StartsApart (f.tail ++ x) := by
  cases f with
  | word w => exact hx.startsApart
  | quoted s => rw [tail, toList_quoted]; rintro c ⟨⟩; rfl
  | field key value => rintro c ⟨⟩; rfl
  | group name b parts => cases b <;> rintro c ⟨⟩ <;> rfl

/-- Equal texts have equal leading words, and go on alike. -/
theorem Readable.head_inj (hf : f.Readable) (hg : g.Readable) (hx : Ends x) (hy : Ends y)
    (h : f.text.toList ++ x = g.text.toList ++ y) :
    f.head = g.head ∧ f.tail ++ x = g.tail ++ y := by
  rw [toList_text, toList_text, List.append_assoc, List.append_assoc] at h
  exact word_append_inj hf.isWord_head hg.isWord_head (startsApart_tail f hx)
    (startsApart_tail g hy) h

/-- Only a word has nothing of its own after its leading word. -/
theorem eq_word_of_ends (hx : Ends x) (h : x = g.tail ++ y) : g = word g.head := by
  cases g with
  | word w => rfl
  | quoted s =>
    rw [tail, toList_quoted] at h
    cases hx with
    | closing b => cases b <;> cases h
    | _ => cases h
  | field key value =>
    cases hx with
    | closing b => cases b <;> cases h
    | _ => cases h
  | group name b parts =>
    cases hx with
    | closing b' => cases b <;> cases b' <;> simp [tail, Bracket.opening, Bracket.closing] at h
    | _ => cases b <;> simp [tail, Bracket.opening] at h

/-- The text of a form is no closing bracket. -/
theorem Readable.text_ne_closing (hg : g.Readable) (hy : Ends y) :
    b.closing.toList ++ x ≠ g.text.toList ++ y := by
  intro h
  rw [toList_text, List.append_assoc] at h
  have hend : Ends (b.closing.toList ++ x) := .closing b
  obtain ⟨hhead, htail⟩ := word_append_inj (v := "") (w := g.head) rfl hg.isWord_head
    hend.startsApart (startsApart_tail g hy) h
  have hword := eq_word_of_ends hend htail
  rw [hword, ← hhead] at hg
  cases hg with
  | word hne _ => exact hne rfl

/-! ### Parts of a group -/

/-- What is written for the parts after the first one. -/
def further (ps : List Form) : List Char := ps.flatMap fun p ↦ ',' :: ' ' :: p.text.toList

/-- After the first part come the others, each behind a comma. -/
theorem toList_commas_cons (p : Form) (ps : List Form) :
    (commas (texts (p :: ps))).toList = p.text.toList ++ further ps := by
  induction ps generalizing p with
  | nil => simp [texts, commas, further]
  | cons q ps ih =>
    have hrest : (String.intercalate ", " (q.text :: texts ps)).toList =
        q.text.toList ++ further ps := ih q
    rw [commas, texts, texts, String.intercalate_cons_cons, String.toList_append,
      String.toList_append, hrest, List.append_assoc]
    rfl

/-- A part is followed by a comma or by the closing bracket. -/
theorem ends_further (ps : List Form) (b : Bracket) (x : List Char) :
    Ends (further ps ++ (b.closing.toList ++ x)) := by
  cases ps with
  | nil => exact .closing b
  | cons p ps => exact .comma

/-- The form is read back off a text that begins with it. -/
def ReadsBack (f : Form) : Prop :=
  ∀ ⦃g : Form⦄ ⦃x y : List Char⦄, g.Readable → Ends x → Ends y →
    f.text.toList ++ x = g.text.toList ++ y → f = g ∧ x = y

/-- Further parts are read back, up to the closing bracket. -/
theorem further_append_inj (hps : ∀ p ∈ ps, p.ReadsBack) (hqs : ∀ q ∈ qs, q.Readable)
    (h : further ps ++ (b.closing.toList ++ x) = further qs ++ (b.closing.toList ++ y)) :
    ps = qs ∧ x = y := by
  induction ps generalizing qs with
  | nil =>
    cases qs with
    | nil => exact ⟨rfl, List.append_cancel_left h⟩
    | cons q qs => cases b <;> cases h
  | cons p ps ih =>
    cases qs with
    | nil => cases b <;> cases h
    | cons q qs =>
      simp only [further, List.flatMap_cons, List.cons_append, List.append_assoc] at h
      injection h with _ h
      injection h with _ h
      obtain ⟨hp, hrest⟩ := hps p List.mem_cons_self (hqs q List.mem_cons_self)
        (ends_further ps b x) (ends_further qs b y) h
      obtain ⟨htail, hafter⟩ := ih (fun p hp ↦ hps p (List.mem_cons_of_mem _ hp))
        (fun q hq ↦ hqs q (List.mem_cons_of_mem _ hq)) hrest
      exact ⟨by rw [hp, htail], hafter⟩

/-- The parts of a group are read back, up to the closing bracket. -/
theorem commas_append_inj (hps : ∀ p ∈ ps, p.ReadsBack) (hreadable : ∀ p ∈ ps, p.Readable)
    (hqs : ∀ q ∈ qs, q.Readable)
    (h : (commas (texts ps)).toList ++ (b.closing.toList ++ x) =
      (commas (texts qs)).toList ++ (b.closing.toList ++ y)) : ps = qs ∧ x = y := by
  -- Where one list has ended, a closing bracket stands where the other begins a part, and no part
  -- begins with it.
  cases ps with
  | nil =>
    cases qs with
    | nil => exact ⟨rfl, List.append_cancel_left h⟩
    | cons q qs =>
      rw [toList_commas_cons, List.append_assoc] at h
      exact absurd h ((hqs q List.mem_cons_self).text_ne_closing (ends_further qs b y))
  | cons p ps =>
    cases qs with
    | nil =>
      rw [toList_commas_cons, List.append_assoc] at h
      exact absurd h.symm ((hreadable p List.mem_cons_self).text_ne_closing (ends_further ps b x))
    | cons q qs =>
      rw [toList_commas_cons, toList_commas_cons, List.append_assoc, List.append_assoc] at h
      obtain ⟨hp, hrest⟩ := hps p List.mem_cons_self (hqs q List.mem_cons_self)
        (ends_further ps b x) (ends_further qs b y) h
      obtain ⟨htail, hafter⟩ := further_append_inj (fun p hp ↦ hps p (List.mem_cons_of_mem _ hp))
        (fun q hq ↦ hqs q (List.mem_cons_of_mem _ hq)) hrest
      exact ⟨by rw [hp, htail], hafter⟩

/-! ### Whole forms -/

/-- **A readable form is read back.** -/
theorem Readable.readsBack (hf : f.Readable) : f.ReadsBack := by
  -- In every case `head_inj` splits off the leading word. What is written after it tells the kinds
  -- of forms apart: nothing, a quotation mark, a colon, or the opening bracket.
  induction f using Form.induction with
  | word w =>
    intro g x y hg hx hy h
    obtain ⟨hhead, htail⟩ := hf.head_inj hg hx hy h
    have hword := eq_word_of_ends hx htail
    refine ⟨by rw [hword, ← hhead]; rfl, ?_⟩
    rw [hword] at htail
    exact htail
  | quoted s =>
    intro g x y hg hx hy h
    obtain ⟨-, htail⟩ := hf.head_inj hg hx hy h
    cases hg with
    | word _ _ => cases eq_word_of_ends hy htail.symm
    | quoted =>
      obtain ⟨rfl, hafter⟩ := quoted_append_inj htail
      exact ⟨rfl, hafter⟩
    | field _ _ => rw [tail, toList_quoted] at htail; cases htail
    | @group _ b _ _ _ => rw [tail, toList_quoted] at htail; cases b <;> cases htail
  | field key value ih =>
    intro g x y hg hx hy h
    obtain ⟨hhead, htail⟩ := hf.head_inj hg hx hy h
    cases hf with
    | field hkey hvalue =>
      cases hg with
      | word _ _ => cases eq_word_of_ends hy htail.symm
      | quoted => rw [tail, tail, toList_quoted] at htail; cases htail
      | field _ hvalue' =>
        injection htail with _ htail
        injection htail with _ htail
        obtain ⟨rfl, hafter⟩ := ih hvalue hvalue' hx hy htail
        exact ⟨congrArg (Form.field · value) hhead, hafter⟩
      | @group _ b _ _ _ => cases b <;> cases htail
  | group name b parts ih =>
    intro g x y hg hx hy h
    obtain ⟨hhead, htail⟩ := hf.head_inj hg hx hy h
    cases hf with
    | group _ hparts =>
      cases hg with
      | word _ _ => cases eq_word_of_ends hy htail.symm
      | quoted => rw [tail, tail, toList_quoted] at htail; cases b <;> cases htail
      | field _ _ => cases b <;> cases htail
      | @group name' b' parts' _ hparts' =>
        obtain rfl : b = b' := by cases b <;> cases b' <;> first | rfl | cases htail
        rw [tail, tail, List.append_assoc, List.append_assoc, List.append_assoc,
          List.append_assoc] at htail
        -- Each part can be read back by the induction hypothesis, whatever is written after it.
        obtain ⟨rfl, hafter⟩ := commas_append_inj (fun p hp ↦ ih p hp (hparts p hp)) hparts hparts'
          (List.append_cancel_left htail)
        exact ⟨congrArg (Form.group · b parts) hhead, hafter⟩

/-- **Printing loses nothing**: readable forms with one text are one form. -/
theorem text_inj (hf : f.Readable) (hg : g.Readable) : f.text = g.text ↔ f = g :=
  ⟨fun h ↦ (hf.readsBack hg .nil .nil (congrArg (·.toList ++ []) h)).1, congrArg text⟩

end Form

end Text

end Tabular
