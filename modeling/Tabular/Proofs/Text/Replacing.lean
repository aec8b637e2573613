import Mathlib.Data.List.Infix
import Mathlib.Data.List.Perm.Basic
import Tabular.Proofs.Rows.Elementwise
import Tabular.Series.Strings

/-!
# Replacing many targets in one pass

A pass over a text cuts it into pieces. At each place the piece is the first of the listed targets
that the rest of the text begins with (`Text.FirstMatch`), and one character if there is none. What
is written for a piece is the replacement of its target, or the character itself (`Text.OnePass`).
Since only what is left of the text is looked at, what has been written is never searched again.

`Text.Splits` is this pass, and each of its rules one round of it. A target without characters would
leave the rest of the text as it is; if there is none, every round takes a character or more, and so
the pass ends. There is one pass only, and all that is said of what is written is proved by
induction on its rounds.

The program counts instead: how many matches may still be replaced, and how many characters of the
last match are to be passed over. `Text.substitute_eq` connects the two. As many matches as there
are characters are never used up.

A pass with one rule replaces every occurrence of its target from left to right (`Text.ReplacesAll`,
`Text.replacesAll_replace`). With many, the order of the targets does not matter if none begins with
another, since then at most one of them is there to be found (`Series.replaceMany_onePass`).
-/

namespace Tabular

namespace Text

variable {rules rules' : List (String × String)} {cs rest : List Char}

/-! ### Passes -/

/-- The first-listed rule whose target the text begins with. -/
def FirstMatch (rules : List (String × String)) (cs : List Char) (rule : String × String) : Prop :=
  rule.1.toList <+: cs ∧ ∃ before after, rules = before ++ rule :: after ∧
    ∀ other ∈ before, ¬other.1.toList <+: cs

/-- A piece of a text: one character, or a target that has a replacement. -/
inductive Piece where
  | kept (c : Char)
  | matched (target replacement : String)
deriving DecidableEq, Repr

/-- The characters of a piece. -/
def Piece.text : Piece → List Char
  | kept c => [c]
  | matched target _ => target.toList

/-- What is written for a piece. -/
def Piece.written : Piece → List Char
  | kept c => [c]
  | matched _ replacement => replacement.toList

/-- A pass with the rules `(target, replacement)` cuts a text into these pieces. -/
inductive Splits (rules : List (String × String)) : List Char → List Piece → Prop
  | nil : Splits rules [] []
  | matched {target replacement : String} {cs rest : List Char} {ps : List Piece} :
      FirstMatch rules cs (target, replacement) → cs = target.toList ++ rest →
        Splits rules rest ps → Splits rules cs (.matched target replacement :: ps)
  | kept {c : Char} {rest : List Char} {ps : List Piece} :
      (∀ rule ∈ rules, ¬rule.1.toList <+: c :: rest) → Splits rules rest ps →
        Splits rules (c :: rest) (.kept c :: ps)

/-- The text `out` is written in a pass over `s` with these pieces. -/
structure OnePass (rules : List (String × String)) (s out : String) (ps : List Piece) : Prop where
  splits : Splits rules s.toList ps
  unique : ∀ qs, Splits rules s.toList qs → qs = ps
  covers : ps.flatMap Piece.text = s.toList
  /-- There are no more rounds than characters. -/
  ends : ps.length ≤ s.length
  writes : out.toList = ps.flatMap Piece.written

/-! ### The first match -/

/-- The first match is what a search along the rules finds. -/
theorem firstMatch_iff {rule : String × String} :
    FirstMatch rules cs rule ↔
      rules.find? (fun rule ↦ rule.1.toList.isPrefixOf cs) = some rule := by
  simp only [FirstMatch, List.find?_eq_some_iff_append, List.isPrefixOf_iff_prefix,
    Bool.not_eq_true', ← Bool.not_eq_true]

/-- Nothing is found if the text begins with no target. -/
theorem find?_eq_none_iff :
    rules.find? (fun rule ↦ rule.1.toList.isPrefixOf cs) = none ↔
      ∀ rule ∈ rules, ¬rule.1.toList <+: cs := by
  simp only [List.find?_eq_none, List.isPrefixOf_iff_prefix]

/-- There is one first match. -/
theorem FirstMatch.unique {rule rule' : String × String} (h : FirstMatch rules cs rule)
    (h' : FirstMatch rules cs rule') : rule = rule' :=
  Option.some.inj ((firstMatch_iff.1 h).symm.trans (firstMatch_iff.1 h'))

/-- A match is one of the rules. -/
theorem FirstMatch.mem {rule : String × String} (h : FirstMatch rules cs rule) : rule ∈ rules :=
  List.mem_of_find?_eq_some (firstMatch_iff.1 h)

/-! ### The pieces of a text -/

namespace Splits

variable {ps qs : List Piece}

/-- **Every text is cut into pieces**, in no more rounds than it has characters, if every target has
characters. -/
theorem exists_of_ne_empty (hrules : ∀ rule ∈ rules, rule.1 ≠ "") (cs : List Char) :
    ∃ ps, Splits rules cs ps ∧ ps.length ≤ cs.length := by
  -- A match may take off several characters, so plain induction on the text is not enough.
  induction hn : cs.length using Nat.strong_induction_on generalizing cs with
  | _ n ih =>
    subst hn
    cases cs with
    | nil => exact ⟨[], .nil, Nat.le_refl _⟩
    | cons c rest =>
      cases hfind : rules.find? fun rule ↦ rule.1.toList.isPrefixOf (c :: rest) with
      | none =>
        obtain ⟨ps, hps, hlen⟩ := ih rest.length (Nat.lt_succ_self _) rest rfl
        exact ⟨.kept c :: ps, .kept (find?_eq_none_iff.1 hfind) hps, Nat.succ_le_succ hlen⟩
      | some rule =>
        have hmatch := firstMatch_iff.2 hfind
        obtain ⟨tail, htail⟩ := hmatch.1
        have hpos : 0 < rule.1.toList.length :=
          List.length_pos_iff.2 (mt String.toList_eq_nil_iff.1 (hrules rule hmatch.mem))
        have hcount := congrArg List.length htail
        rw [List.length_append] at hcount
        obtain ⟨ps, hps, hlen⟩ := ih tail.length (by omega) tail rfl
        exact ⟨.matched rule.1 rule.2 :: ps, .matched hmatch htail.symm hps,
          by rw [List.length_cons]; omega⟩

/-- **A text is cut in one way only.** -/
theorem unique (hrules : ∀ rule ∈ rules, rule.1 ≠ "") (hp : Splits rules cs ps)
    (hq : Splits rules cs qs) : qs = ps := by
  -- Both splittings begin with the same piece: a target that matches excludes keeping the
  -- character, and the first target that matches is unique.
  induction hp generalizing qs with
  | nil =>
    cases hq with
    | nil => rfl
    | matched hmatch htext _ =>
      exact absurd (String.toList_eq_nil_iff.1 (List.append_eq_nil_iff.1 htext.symm).1)
        (hrules _ hmatch.mem)
  | matched hmatch htext _ ih =>
    cases hq with
    | nil =>
      exact absurd (String.toList_eq_nil_iff.1 (List.append_eq_nil_iff.1 htext.symm).1)
        (hrules _ hmatch.mem)
    | matched hmatch' htext' hrest' =>
      cases hmatch.unique hmatch'
      obtain rfl := List.append_cancel_left (htext'.symm.trans htext)
      rw [ih hrest']
    | kept hno _ => exact absurd hmatch.1 (hno _ hmatch.mem)
  | kept hno _ ih =>
    cases hq with
    | matched hmatch _ _ => exact absurd hmatch.1 (hno _ hmatch.mem)
    | kept _ hrest' => rw [ih hrest']

/-- The pieces put together are the text. -/
theorem flatMap_text (h : Splits rules cs ps) : ps.flatMap Piece.text = cs := by
  induction h with
  | nil => rfl
  | matched _ htext _ ih => rw [List.flatMap_cons, ih, htext, Piece.text]
  | kept _ _ ih => rw [List.flatMap_cons, ih, Piece.text, List.singleton_append]

/-- Targets that are their own replacements are written as they are. -/
theorem flatMap_written_of_eq (hrules : ∀ rule ∈ rules, rule.2 = rule.1) (h : Splits rules cs ps) :
    ps.flatMap Piece.written = cs := by
  induction h with
  | nil => rfl
  | matched hmatch htext _ ih =>
    have hsame := hrules _ hmatch.mem
    dsimp only at hsame
    rw [List.flatMap_cons, ih, htext, Piece.written, hsame]
  | kept _ _ ih => rw [List.flatMap_cons, ih, Piece.written, List.singleton_append]

end Splits

/-! ### What is written -/

/-- The rules as lists of characters. -/
def onChars (rules : List (String × String)) : List (List Char × List Char) :=
  rules.map fun r ↦ (r.1.toList, r.2.toList)

/-- Searching lists of characters is searching texts. -/
theorem find?_onChars (rules : List (String × String)) (cs : List Char) :
    (onChars rules).find? (fun rule ↦ rule.1.isPrefixOf cs) =
      (rules.find? fun rule ↦ rule.1.toList.isPrefixOf cs).map fun r ↦ (r.1.toList, r.2.toList) :=
  List.find?_map

/-- Characters of the last match are passed over. -/
theorem substitute_skip (chars : List (List Char × List Char)) (budget skip : Nat)
    (cs : List Char) :
    substitute chars budget skip cs = substitute chars budget 0 (cs.drop skip) := by
  induction skip generalizing cs with
  | zero => rfl
  | succ skip ih =>
    cases cs with
    | nil => rfl
    | cons c cs => rw [substitute, ih, List.drop_succ_cons]

/-- A match is replaced, and the search goes on behind it. -/
theorem substitute_of_find?_eq_some {chars : List (List Char × List Char)} {budget : Nat}
    {target replacement : List Char} (htarget : target ≠ [])
    (hfind : chars.find? (fun rule ↦ rule.1.isPrefixOf (target ++ rest)) =
      some (target, replacement)) :
    substitute chars (budget + 1) 0 (target ++ rest) =
      replacement ++ substitute chars budget 0 rest := by
  obtain ⟨c, tail, rfl⟩ := List.exists_cons_of_ne_nil htarget
  rw [List.cons_append] at hfind ⊢
  rw [substitute, hfind]
  dsimp only
  rw [substitute_skip, List.length_cons, Nat.add_sub_cancel, List.drop_left]

/-- **What is written in a pass** is what is written for its pieces, if as many matches as there
are pieces may be replaced. -/
theorem substitute_eq (hrules : ∀ rule ∈ rules, rule.1 ≠ "") {ps : List Piece}
    (h : Splits rules cs ps) {budget : Nat} (hbudget : ps.length ≤ budget) :
    substitute (onChars rules) budget 0 cs = ps.flatMap Piece.written := by
  induction h generalizing budget with
  | nil =>
    rw [substitute]
    rfl
  | matched hmatch htext _ ih =>
    obtain ⟨budget, rfl⟩ := Nat.exists_eq_succ_of_ne_zero (Nat.ne_zero_of_lt hbudget)
    have hfind := firstMatch_iff.1 hmatch
    subst htext
    rw [substitute_of_find?_eq_some (mt String.toList_eq_nil_iff.1 (hrules _ hmatch.mem))
      (by rw [find?_onChars, hfind, Option.map_some]), ih (Nat.le_of_succ_le_succ hbudget)]
    rfl
  | kept hno _ ih =>
    obtain ⟨budget, rfl⟩ := Nat.exists_eq_succ_of_ne_zero (Nat.ne_zero_of_lt hbudget)
    rw [substitute, find?_onChars, find?_eq_none_iff.2 hno, Option.map_none]
    dsimp only
    rw [ih (Nat.le_of_succ_le hbudget)]
    rfl

/-- The program, on lists of characters. -/
theorem replaceMany_eq (rules : List (String × String)) (s : String) :
    replaceMany rules s = String.ofList (substitute (onChars rules) s.toList.length 0 s.toList) :=
  rfl

/-- **Replacing many targets** of a text is one pass over it. -/
theorem exists_onePass (hrules : ∀ rule ∈ rules, rule.1 ≠ "") (s : String) :
    ∃ ps, OnePass rules s (replaceMany rules s) ps := by
  obtain ⟨ps, hps, hlen⟩ := Splits.exists_of_ne_empty hrules s.toList
  refine ⟨ps, hps, fun qs hqs ↦ hps.unique hrules hqs, hps.flatMap_text, hlen, ?_⟩
  rw [replaceMany_eq, String.toList_ofList, substitute_eq hrules hps hlen]

/-- Targets that are their own replacements leave a text as it is. -/
theorem replaceMany_eq_id (hrules : ∀ rule ∈ rules, rule.1 ≠ "")
    (hsame : ∀ rule ∈ rules, rule.2 = rule.1) : replaceMany rules = id := by
  funext s
  obtain ⟨ps, hps⟩ := exists_onePass hrules s
  exact String.toList_inj.1 (hps.writes.trans (hps.splits.flatMap_written_of_eq hsame))

/-! ### One target -/

/-- Every occurrence of the target is replaced: the first one, and then those that are behind it. -/
inductive ReplacesFrom (target replacement : List Char) : List Char → List Char → Prop
  | none {cs : List Char} : ¬target <:+: cs → ReplacesFrom target replacement cs cs
  | first {front rest out : List Char} :
      (∀ k < front.length, ¬target <+: (front ++ target ++ rest).drop k) →
        ReplacesFrom target replacement rest out →
          ReplacesFrom target replacement (front ++ target ++ rest) (front ++ replacement ++ out)

/-- The text `out` is `s` with every occurrence of the target replaced. -/
def ReplacesAll (target replacement s out : String) : Prop :=
  ReplacesFrom target.toList replacement.toList s.toList out.toList

/-- A pass with one rule replaces every occurrence of its target. -/
theorem Splits.replacesFrom {target replacement : String} (htarget : target ≠ "") {ps : List Piece}
    (h : Splits [(target, replacement)] cs ps) :
    ReplacesFrom target.toList replacement.toList cs (ps.flatMap Piece.written) := by
  induction h with
  | nil => exact .none (mt List.infix_nil.1 (mt String.toList_eq_nil_iff.1 htarget))
  | @matched t r cs rest ps hmatch htext _ ih =>
    obtain ⟨rfl, rfl⟩ : t = target ∧ r = replacement := by
      simpa using hmatch.mem
    subst htext
    exact @ReplacesFrom.first t.toList r.toList [] rest _ nofun ih
  | @kept c rest ps hno _ ih =>
    have hhere : ¬target.toList <+: c :: rest := hno _ List.mem_cons_self
    rw [List.flatMap_cons]
    generalize ps.flatMap Piece.written = out at ih
    cases ih with
    | none hrest => exact .none fun h ↦ (List.infix_cons_iff.1 h).elim hhere hrest
    | @first front rest out hearlier hout =>
      -- the first occurrence in the rest is the first one, since there is none here
      refine @ReplacesFrom.first _ _ (c :: front) rest out (fun k hk ↦ ?_) hout
      cases k with
      | zero => exact hhere
      | succ k => exact hearlier k (Nat.lt_of_succ_lt_succ hk)

/-- One target without a limit is a pass with one rule. -/
theorem replace_eq_replaceMany (target replacement : String) {count : Int} (hcount : count < 0)
    (s : String) : replace target replacement count s = replaceMany [(target, replacement)] s := by
  simp only [replace, if_pos hcount]
  rfl

/-- **Replacing one target** without a limit replaces every occurrence of it. -/
theorem replacesAll_replace {target replacement : String} (htarget : target ≠ "") {count : Int}
    (hcount : count < 0) (s : String) :
    ReplacesAll target replacement s (replace target replacement count s) := by
  have hrules : ∀ rule ∈ [(target, replacement)], rule.1 ≠ "" := by simpa using htarget
  obtain ⟨ps, hps⟩ := exists_onePass hrules s
  rw [replace_eq_replaceMany target replacement hcount, ReplacesAll, hps.writes]
  exact hps.splits.replacesFrom htarget

/-! ### The order of the rules -/

/-- What is found does not depend on the order if no two are there to be found. -/
theorem find?_eq_of_perm {α : Type} {p : α → Bool} {as bs : List α} (h : as.Perm bs)
    (hone : as.Pairwise fun a b ↦ p a = true → p b = false) : as.find? p = bs.find? p := by
  induction h with
  | nil => rfl
  | cons a _ ih => rw [List.find?_cons, List.find?_cons, ih (List.pairwise_cons.1 hone).2]
  | swap a b as =>
    have hnot : p b = true → p a = false := (List.pairwise_cons.1 hone).1 a List.mem_cons_self
    rw [List.find?_cons, List.find?_cons, List.find?_cons, List.find?_cons]
    cases hb : p b with
    | true => rw [hnot hb]
    | false => rfl
  | trans hab _ ih ih' =>
    have hsymm {a b : α} (hr : p a = true → p b = false) (hb : p b = true) : p a = false :=
      Bool.eq_false_iff.2 fun ha ↦ Bool.false_ne_true ((hr ha).symm.trans hb)
    rw [ih hone, ih' (hone.perm hab hsymm)]

/-- No target begins with another one. -/
def NoneBeginsWithAnother (targets : List String) : Prop :=
  targets.Pairwise fun t u ↦ ¬t.toList <+: u.toList ∧ ¬u.toList <+: t.toList

instance (targets : List String) : Decidable (NoneBeginsWithAnother targets) :=
  inferInstanceAs (Decidable (List.Pairwise _ _))

/-- Of two targets that a text begins with, one begins with the other. So at most one is there to be
found, in whatever order the rules are searched. -/
theorem find?_eq_of_noneBeginsWithAnother (hone : NoneBeginsWithAnother (rules.map Prod.fst))
    (h : rules.Perm rules') (cs : List Char) :
    (rules.find? fun rule ↦ rule.1.toList.isPrefixOf cs) =
      rules'.find? fun rule ↦ rule.1.toList.isPrefixOf cs := by
  refine find?_eq_of_perm h ((List.pairwise_map.1 hone).imp fun hno ha ↦ ?_)
  refine Bool.eq_false_iff.2 fun hb ↦ ?_
  have hprefix := List.prefix_or_prefix_of_prefix (List.isPrefixOf_iff_prefix.1 ha)
    (List.isPrefixOf_iff_prefix.1 hb)
  exact hprefix.elim hno.1 hno.2

/-- A pass with the rules in another order is the same pass. -/
theorem Splits.of_perm (hone : NoneBeginsWithAnother (rules.map Prod.fst)) (h : rules.Perm rules')
    {ps : List Piece} (hps : Splits rules cs ps) : Splits rules' cs ps := by
  induction hps with
  | nil => exact .nil
  | matched hmatch htext _ ih =>
    rw [firstMatch_iff, find?_eq_of_noneBeginsWithAnother hone h] at hmatch
    exact .matched (firstMatch_iff.2 hmatch) htext ih
  | kept hno _ ih => exact .kept (fun rule hrule ↦ hno rule (h.mem_iff.2 hrule)) ih

/-- **The order of the rules does not matter** if no target begins with another one. -/
theorem replaceMany_eq_of_perm (hrules : ∀ rule ∈ rules, rule.1 ≠ "")
    (hone : NoneBeginsWithAnother (rules.map Prod.fst)) (h : rules.Perm rules') (s : String) :
    replaceMany rules' s = replaceMany rules s := by
  have hrules' : ∀ rule ∈ rules', rule.1 ≠ "" := fun rule hrule ↦ hrules rule (h.mem_iff.2 hrule)
  obtain ⟨ps, hps⟩ := exists_onePass hrules s
  obtain ⟨qs, hqs⟩ := exists_onePass hrules' s
  have hsame : ps = qs := hqs.unique ps (hps.splits.of_perm hone h)
  exact String.toList_inj.1 (by rw [hqs.writes, hps.writes, hsame])

/-- Of two targets that begin alike, the one that is listed first is taken. -/
example : replaceMany [("a", "1"), ("ab", "2")] "ab" = "1b" ∧
    replaceMany [("ab", "2"), ("a", "1")] "ab" = "2" := by
  decide

/-! ### Targets and replacements -/

/-- Every target with its replacement; a single replacement is that of every target. -/
def pairs (targets replacements : List String) : List (String × String) :=
  match replacements with
  | [replacement] => targets.map (·, replacement)
  | _ => targets.zip replacements

/-- Every target has its replacement. -/
theorem map_fst_pairs {targets replacements : List String}
    (hfits : Fits replacements targets.length) :
    (pairs targets replacements).map Prod.fst = targets := by
  unfold pairs
  split
  · rw [List.map_map]
    exact List.map_id _
  · next hmany =>
    have hlen : replacements.length = targets.length :=
      hfits.resolve_right fun h1 ↦ (List.length_eq_one_iff.1 h1).elim hmany
    exact List.map_fst_zip hlen.ge

/-- The targets have characters if they were given any. -/
theorem pairs_ne_empty {targets replacements : List String} (htargets : ∀ t ∈ targets, t ≠ "")
    (hfits : Fits replacements targets.length) :
    ∀ rule ∈ pairs targets replacements, rule.1 ≠ "" := fun _ hrule ↦
  htargets _ (map_fst_pairs hfits ▸ List.mem_map_of_mem hrule)

end Text

namespace Series

variable {s : Series} {targets replacements : List String} {rows : List (Option String)}

/-- With targets that have characters and replacements that fit, the program is a pass over every
text. -/
theorem replaceMany_eq_mapText (htargets : ∀ t ∈ targets, t ≠ "")
    (hfits : Fits replacements targets.length) :
    s.replaceMany targets replacements =
      s.mapText (Text.replaceMany (Text.pairs targets replacements)) := by
  have hany : ¬targets.any String.isEmpty = true := fun h ↦
    let ⟨t, ht, hempty⟩ := List.any_eq_true.1 h
    htargets t ht (String.isEmpty_iff.1 hempty)
  unfold replaceMany
  rw [if_neg hany]
  match replacements, hfits with
  | [_], _ => rfl
  | [], hfits => exact if_pos (hfits.resolve_right Nat.zero_ne_one)
  | _ :: _ :: _, hfits => exact if_pos (hfits.resolve_right (by simp))

/-- Texts are mapped row by row. -/
theorem mapText_eq (hrows : s.textRows = .ok rows) (f : String → String) :
    s.mapText f = .ok ⟨.utf8, rows.map (Option.map f)⟩ := by
  rw [mapText, hrows, Outcome.ok_bind]

/-- What holds of every text and its image holds of the rows. -/
theorem forall₂_map_text {R : String → String → Prop} {f : String → String}
    (h : ∀ text, R text (f text)) (rows : List (Option String)) :
    List.Forall₂ (Option.Rel R) rows (rows.map (Option.map f)) := by
  refine List.forall₂_map_right_iff.2 (List.forall₂_same.2 fun row _ ↦ ?_)
  cases row with
  | none => exact .none
  | some text => exact .some (h text)

/-- With a target that has characters, replacing it is done row by row. -/
theorem replace_eq_mapText {target : String} (htarget : target ≠ "") (replacement : String)
    (count : Int) :
    s.replace target replacement count = s.mapText (Text.replace target replacement count) :=
  if_neg (mt String.isEmpty_iff.1 htarget)

/-- **Replacing many targets is one pass** from left to right over every text. -/
theorem replaceMany_onePass (hrows : s.textRows = .ok rows) (htargets : ∀ t ∈ targets, t ≠ "")
    (hfits : Fits replacements targets.length) :
    (∃ out, s.replaceMany targets replacements = .ok ⟨.utf8, out⟩ ∧
        List.Forall₂ (Option.Rel fun text new ↦
          ∃ ps, Text.OnePass (Text.pairs targets replacements) text new ps) rows out) ∧
      (∀ target replacement, targets = [target] → replacements = [replacement] → ∀ count < 0,
        s.replaceMany targets replacements = s.replace target replacement count ∧
          ∃ out, s.replace target replacement count = .ok ⟨.utf8, out⟩ ∧
            List.Forall₂ (Option.Rel (Text.ReplacesAll target replacement)) rows out) ∧
      ((∀ rule ∈ Text.pairs targets replacements, rule.2 = rule.1) →
        s.replaceMany targets replacements = .ok ⟨.utf8, rows⟩) ∧
      (Text.NoneBeginsWithAnother targets → ∀ targets' replacements',
        Fits replacements' targets'.length →
          (Text.pairs targets replacements).Perm (Text.pairs targets' replacements') →
            s.replaceMany targets' replacements' = s.replaceMany targets replacements) := by
  -- Everything is read off the text function that is applied to each row.
  have hrules := Text.pairs_ne_empty htargets hfits
  have heq := @replaceMany_eq_mapText s _ _ htargets hfits
  refine ⟨⟨_, heq.trans (mapText_eq hrows _), forall₂_map_text (Text.exists_onePass hrules) rows⟩,
    ?_, fun hsame ↦ ?_, ?_⟩
  · rintro target replacement rfl rfl count hcount
    have htarget := htargets target List.mem_cons_self
    have hreplace := @replace_eq_mapText s _ htarget replacement count
    refine ⟨?_, _, hreplace.trans (mapText_eq hrows _),
      forall₂_map_text (Text.replacesAll_replace htarget hcount) rows⟩
    rw [heq, hreplace, funext (Text.replace_eq_replaceMany target replacement hcount)]
    rfl
  · rw [heq, mapText_eq hrows, Text.replaceMany_eq_id hrules hsame, Option.map_id, List.map_id]
  -- If no target begins with another, at most one matches at any place, in whatever order the rules
  -- are tried.
  · intro hone targets' replacements' hfits' hperm
    have htargets' : targets.Perm targets' := by
      have hfst := hperm.map Prod.fst
      rwa [Text.map_fst_pairs hfits, Text.map_fst_pairs hfits'] at hfst
    rw [heq, replaceMany_eq_mapText (fun t ht ↦ htargets t (htargets'.mem_iff.2 ht)) hfits']
    exact congrArg s.mapText (funext
      (Text.replaceMany_eq_of_perm hrules (by rwa [Text.map_fst_pairs hfits]) hperm))

/-- Two targets that replace each other, in either order. -/
theorem replaceMany_onePass_swap :
    (∀ t ∈ ["ab", "é"], t ≠ "") ∧ Fits ["é", "ab"] ["ab", "é"].length ∧
      (⟨.utf8, [some "aabéb", none]⟩ : Series).replaceMany ["ab", "é"] ["é", "ab"] =
        .ok ⟨.utf8, [some "aéabb", none]⟩ ∧
      (⟨.utf8, [some "aabéb", none]⟩ : Series).replaceMany ["é", "ab"] ["ab", "é"] =
        .ok ⟨.utf8, [some "aéabb", none]⟩ ∧
      ∃ ps, Text.OnePass [("ab", "é"), ("é", "ab")] "aabéb" "aéabb" ps := by
  have htargets : ∀ t ∈ ["ab", "é"], t ≠ "" := by decide
  have hfits : Fits ["é", "ab"] ["ab", "é"].length := .inl rfl
  have hswap : (⟨.utf8, [some "aabéb", none]⟩ : Series).replaceMany ["ab", "é"] ["é", "ab"] =
    .ok ⟨.utf8, [some "aéabb", none]⟩ := rfl
  obtain ⟨⟨out, hout, hpasses⟩, -, -, horder⟩ :=
    @replaceMany_onePass ⟨.utf8, [some "aabéb", none]⟩ _ _ _ rfl htargets hfits
  refine ⟨htargets, hfits, hswap, ?_, ?_⟩
  · exact (horder (by decide) ["é", "ab"] ["ab", "é"] (.inl rfl) (by decide)).trans hswap
  · cases hswap.symm.trans hout
    cases hpasses with
    | cons hpass _ =>
      cases hpass with
      | some hpass => exact hpass

end Series

end Tabular
