/-
  TreeScript.Proofs.Indentation — a deeper statement is the same text further to the right.

  A statement is a list of lines, and their levels are the only thing that depends on the
  level of the statement (`Stmt.lines_add`). So its text is indented by indenting its
  lines, if the lines of the text are these: if no line break comes with an expression or
  a name. Texts that a tree brings along are escaped and hold none, whatever is in
  them; names are written as they are.
-/

import TreeScript.Proofs.Compositional

namespace TreeScript

namespace Script

/-! ## Levels -/

/-- A text with `k` levels of indentation before each of its lines. -/
def indented (k : Nat) (text : String) : String := .ofList (unlines ((text.toList.splitOn '\n').map (pad k ++ ·)))

def Line.deeper (k : Nat) (l : Line) : Line := { l with level := l.level + k }

theorem pad_add (m n : Nat) : pad (m + n) = pad n ++ pad m := by
  rw [pad, pad, pad, List.replicate_append_replicate]
  congr 1
  omega

theorem Line.padded_deeper (k : Nat) (l : Line) : (l.deeper k).padded = pad k ++ l.padded := by
  rw [Line.padded, Line.padded, Line.deeper, pad_add, List.append_assoc]

theorem braced_deeper (k level : Nat) (lead : List Char) (ls : List Line) :
    (braced (level + k) lead (ls.map (Line.deeper k))).done = (braced level lead ls).done.map (Line.deeper k) ∧
      (braced (level + k) lead (ls.map (Line.deeper k))).lead = (braced level lead ls).lead := by
  cases ls <;> exact ⟨rfl, rfl⟩

theorem lines_braced_deeper (k level : Nat) (lead : List Char) (ls : List Line) :
    (braced (level + k) lead (ls.map (Line.deeper k))).lines (level + k) =
      ((braced level lead ls).lines level).map (Line.deeper k) := by
  obtain ⟨hdone, hlead⟩ := braced_deeper k level lead ls
  rw [Opened.lines, hdone, hlead, Opened.lines, List.map_append]
  rfl

mutual

/-- A statement `k` levels deeper has the same lines, each of them `k` levels deeper. -/
theorem Stmt.lines_add (k : Nat) : (t : Stmt) → ∀ level lead,
    t.lines (level + k) lead = (t.lines level lead).map (Line.deeper k)
  | .declare _ _ _, _, _ => rfl
  | .function name params body, level, lead => by
    rw [Stmt.lines, Stmt.lines, Nat.add_right_comm, Stmt.linesAll_add k body, lines_braced_deeper]
  | .branch test consequent none, level, lead => by
    rw [Stmt.lines, Stmt.lines, Nat.add_right_comm, Stmt.linesAll_add k consequent, lines_braced_deeper]
  | .branch test consequent (some alternate), level, lead => by
    obtain ⟨hdone, hlead⟩ := braced_deeper k level (lead ++ ("if (".toList ++ test.chars ++ ") ".toList))
      (Stmt.linesAll (level + 1) consequent)
    rw [Stmt.lines, Stmt.lines, Nat.add_right_comm, Stmt.linesAll_add k consequent, Stmt.lines_add k alternate]
    simp only [hdone, hlead, List.map_append]
  | .ret _, _, _ => rfl
  | .throwError _, _, _ => rfl
  | .expr _, _, _ => rfl
  | .block body, level, lead => by
    rw [Stmt.lines, Stmt.lines, Nat.add_right_comm, Stmt.linesAll_add k body, lines_braced_deeper]

theorem Stmt.linesAll_add (k : Nat) : (ts : List Stmt) → ∀ level,
    Stmt.linesAll (level + k) ts = (Stmt.linesAll level ts).map (Line.deeper k)
  | [], _ => rfl
  | t :: ts, level => by
    rw [Stmt.linesAll, Stmt.linesAll, Stmt.lines_add k t, Stmt.linesAll_add k ts, List.map_append]

end

/-! ## Line breaks -/

/-- A text without a line feed. -/
def OneLine (cs : List Char) : Prop := '\n' ∉ cs

instance (cs : List Char) : Decidable (OneLine cs) := inferInstanceAs (Decidable ('\n' ∉ cs))

@[simp] theorem oneLine_nil : OneLine [] := List.not_mem_nil

@[simp] theorem oneLine_append {cs ds : List Char} : OneLine (cs ++ ds) ↔ OneLine cs ∧ OneLine ds := by
  simp [OneLine]

@[simp] theorem oneLine_cons {c : Char} {cs : List Char} : OneLine (c :: cs) ↔ c ≠ '\n' ∧ OneLine cs := by
  simp [OneLine, eq_comm]

theorem OneLine.append {cs ds : List Char} (h : OneLine cs) (h' : OneLine ds) : OneLine (cs ++ ds) :=
  oneLine_append.2 ⟨h, h'⟩

theorem OneLine.cons {c : Char} {cs : List Char} (h : OneLine cs) (hc : c ≠ '\n') : OneLine (c :: cs) :=
  oneLine_cons.2 ⟨hc, h⟩

theorem OneLine.enclosed {c d : Char} {cs : List Char} (h : OneLine cs) (hc : c ≠ '\n') (hd : d ≠ '\n') :
    OneLine (c :: (cs ++ [d])) :=
  (h.append (oneLine_nil.cons hd)).cons hc

theorem oneLine_flatMap {α : Type} {xs : List α} {f : α → List Char} (h : ∀ x ∈ xs, OneLine (f x)) :
    OneLine (xs.flatMap f) := by
  intro hmem
  obtain ⟨x, hx, hfx⟩ := List.mem_flatMap.1 hmem
  exact h x hx hfx

theorem oneLine_commas {texts : List (List Char)} (h : ∀ t ∈ texts, OneLine t) : OneLine (commas texts) := by
  cases texts with
  | nil => exact oneLine_nil
  | cons t ts =>
    rw [List.forall_mem_cons] at h
    rw [commas, intercalate_cons, oneLine_append]
    refine ⟨h.1, oneLine_flatMap fun u hu => oneLine_append.2 ⟨by decide, h.2 u hu⟩⟩

theorem oneLine_quoted (s : List Char) : OneLine (quotedChars s) := by
  have hchar (c : Char) : OneLine (quotedChar c) := by
    unfold quotedChar
    repeat' split
    all_goals simp_all
  simp only [quotedChars, oneLine_cons, oneLine_append]
  exact ⟨by decide, oneLine_flatMap fun c _ => hchar c, by decide, oneLine_nil⟩

theorem oneLine_template (s : List Char) : OneLine (templateChars s) := by
  induction s with
  | nil => exact oneLine_nil
  | cons c s ih =>
    rw [templateChars, oneLine_append]
    refine ⟨?_, ih⟩
    repeat' split
    all_goals simp_all

theorem oneLine_number (x : Binary64) : OneLine (numberChars x) := by
  have hpositional (d : Decimal) : OneLine d.positional := by
    intro hmem
    rcases positional_weak d _ hmem with h | h
    · exact absurd h (by decide)
    · exact absurd h (by decide)
  unfold numberChars
  split
  · decide
  · rw [oneLine_append]
    constructor
    · split <;> decide
    · split
      · decide
      · exact hpositional _

theorem oneLine_name {x : String} (h : isName x = true) : OneLine x.toList := by
  intro hmem
  have hcontinues := continuesName_of_mem h hmem
  rw [continuesName_of_lt (by decide)] at hcontinues
  exact absurd hcontinues (by decide)

/-- After any text on its first line, a statement breaks no line, unless that text did. -/
def Unbroken (t : Stmt) : Prop := ∀ level lead, OneLine lead → ∀ l ∈ t.lines level lead, OneLine l.chars

theorem unbroken_linesAll {ts : List Stmt} (h : ∀ t ∈ ts, Unbroken t) (level : Nat) :
    ∀ l ∈ Stmt.linesAll level ts, OneLine l.chars := by
  rw [Stmt.linesAll_eq_flatMap]
  intro l hl
  obtain ⟨t, ht, hl⟩ := List.mem_flatMap.1 hl
  exact h t ht level [] oneLine_nil l hl

/-- Lines in braces break none if they break none themselves. -/
theorem unbroken_braced (level : Nat) {lead : List Char} {ls : List Line} (hlead : OneLine lead)
    (hls : ∀ l ∈ ls, OneLine l.chars) :
    (∀ l ∈ (braced level lead ls).done, OneLine l.chars) ∧ OneLine (braced level lead ls).lead := by
  cases ls with
  | nil =>
    constructor
    · intro l hl
      cases hl
    · exact oneLine_append.2 ⟨hlead, by decide⟩
  | cons l ls =>
    constructor
    · exact List.forall_mem_cons.2 ⟨oneLine_append.2 ⟨hlead, by decide⟩, hls⟩
    · exact (by decide : OneLine ['\x7d'])

/-- A statement that ends with a list in braces. -/
theorem unbroken_of_braced {t : Stmt} (head : List Char) {body : List Stmt}
    (hlines : ∀ level lead,
      t.lines level lead = (braced level (lead ++ head) (Stmt.linesAll (level + 1) body)).lines level)
    (hhead : OneLine head) (hbody : ∀ u ∈ body, Unbroken u) : Unbroken t := by
  intro level lead hlead
  obtain ⟨hdone, hrest⟩ := unbroken_braced level (oneLine_append.2 ⟨hlead, hhead⟩)
    (unbroken_linesAll hbody (level + 1))
  rw [hlines, Opened.lines]
  exact List.forall_mem_append.2 ⟨hdone, List.forall_mem_singleton.2 hrest⟩

end Script

namespace Lowering

open TreeScript.Script (OneLine Unbroken oneLine_append oneLine_nil oneLine_commas)

theorem textual_oneLine : Textual OneLine where
  plain h hmem := by
    have hplain := Script.forall_mem_eq_false h _ hmem
    simp at hplain
  name := Script.oneLine_name
  number := Script.oneLine_number
  quoted := Script.oneLine_quoted
  append := OneLine.append
  commas := oneLine_commas
  round h := h.enclosed (by decide) (by decide)
  square h := h.enclosed (by decide) (by decide)
  curly h := OneLine.append (OneLine.append (by decide) h) (by decide)
  braces := by decide

theorem oneLine_charsAll_parts {ps : List Script.TemplatePart} (h : ∀ e, .expr e ∈ ps → OneLine e.chars) :
    OneLine (Script.TemplatePart.charsAll ps) := by
  induction ps with
  | nil => exact oneLine_nil
  | cons p ps ih =>
    have hps := ih fun e he => h e (List.mem_cons_of_mem _ he)
    cases p with
    | text t => exact oneLine_append.2 ⟨Script.oneLine_template t.toList, hps⟩
    | expr e => exact (OneLine.append (by decide) (h e List.mem_cons_self)).append (hps.cons (by decide))

theorem compositional_unbroken : CompositionalStmt (fun x => OneLine x.toList) (fun e => OneLine e.chars) Unbroken where
  toCompositional := textual_oneLine.compositional
  argument := textual_oneLine.argument
  declare kind x e hx he := by
    intro level lead hlead l hl
    cases kind <;> simp_all [Script.Stmt.lines, Tree.VarKind.keyword]
  function {x params body} hx hparams hbody := by
    refine Script.unbroken_of_braced
      ("function ".toList ++ x.toList ++ '(' :: (Script.commas (params.map String.toList) ++ ") ".toList)) ?_ ?_ hbody
    · intro level lead
      rw [Script.Stmt.lines]
    · simp [hx, oneLine_commas (List.forall_mem_map.2 hparams)]
  branch {e body} he hbody := by
    refine Script.unbroken_of_braced ("if (".toList ++ e.chars ++ ") ".toList) ?_ (by simp [he]) hbody
    intro level lead
    rw [Script.Stmt.lines]
  branchElse {e body alternate} he hbody halternate := by
    intro level lead hlead
    have hhead : OneLine (lead ++ ("if (".toList ++ e.chars ++ ") ".toList)) := by simp [hlead, he]
    obtain ⟨hdone, hrest⟩ := Script.unbroken_braced level hhead (Script.unbroken_linesAll hbody (level + 1))
    rw [Script.Stmt.lines]
    exact List.forall_mem_append.2 ⟨hdone, halternate level _ (oneLine_append.2 ⟨hrest, by decide⟩)⟩
  ret he := by
    intro level lead hlead l hl
    simp_all [Script.Stmt.lines]
  raise message := by
    intro level lead hlead l hl
    simp_all [Script.Stmt.lines, Script.oneLine_quoted]
  evaluate he := by
    intro level lead hlead l hl
    simp_all [Script.Stmt.lines]
  block {body} hbody := by
    refine Script.unbroken_of_braced [] ?_ oneLine_nil hbody
    intro level lead
    rw [Script.Stmt.lines, List.append_nil]

end Lowering

/-! ## Texts -/

namespace Script

theorem Stmt.lines_ne_nil : (t : Stmt) → ∀ level lead, t.lines level lead ≠ []
  | .branch _ _ (some alternate), level, lead => by
    rw [Stmt.lines]
    exact List.append_ne_nil_of_right_ne_nil _ (alternate.lines_ne_nil _ _)
  | .declare _ _ _, _, _ | .ret _, _, _ | .throwError _, _, _ | .expr _, _, _ => by simp [Stmt.lines]
  | .function _ _ _, _, _ | .branch _ _ none, _, _ | .block _, _, _ => by simp [Stmt.lines, Opened.lines]

/-- The lines of an unbroken statement are the lines of its text. -/
theorem Unbroken.text_add {t : Stmt} (h : Unbroken t) (n k : Nat) : t.text (n + k) = indented k (t.text n) := by
  have hlines : ∀ cs ∈ (t.lines n []).map Line.padded, '\n' ∉ cs := by
    refine List.forall_mem_map.2 fun l hl => ?_
    have hpad : OneLine (pad l.level) := fun hmem => absurd (List.eq_of_mem_replicate hmem) (by decide)
    exact oneLine_append.2 ⟨hpad, h n [] oneLine_nil l hl⟩
  have hsplit := List.splitOn_intercalate '\n' hlines (by simpa using t.lines_ne_nil n [])
  rw [indented, Stmt.text, Stmt.text, String.toList_ofList, Stmt.chars, Stmt.chars]
  unfold unlines
  rw [hsplit, Stmt.lines_add, List.map_map, List.map_map]
  simp only [Function.comp_def, Line.padded_deeper]

end Script

namespace Lowering

open TreeScript.Script (OneLine)

/-- A statement fails at every level or at none, and with the same failure; if no name in it and no name that it
takes from the library has a line feed, its text `k` levels deeper is its text with `k` levels of indentation
before every line, and each of its expressions is on one line. -/
theorem text_indented (s : Scope) (t : Tree.Stmt) (hnames : ∀ n ∈ t.nodes, ∀ x ∈ n.names, '\n' ∉ x.toList)
    (hwritten : ∀ site ∈ stmtSites s t, ∀ x, Written site.scope site.expr.nodes x → '\n' ∉ x.toList) (n k : Nat) :
    (stmt s t).map (Script.Stmt.text (n + k)) =
        ((stmt s t).map (Script.Stmt.text n)).map (Script.indented k) ∧
      ∀ site ∈ stmtSites s t, '\n' ∉ (expr site.scope site.expr).text.toList := by
  have hsites : SitesHave (fun e => OneLine e.chars) (stmtSites s t) := by
    intro site hsite
    refine textual_oneLine.compositional.expr site.expr fun n hn => ⟨?_, ?_, ?_⟩
    · exact hnames (.expr n) (List.mem_cons_of_mem _ ((sites_stmt s t hsite).2 n hn))
    · intro x hx
      exact hwritten site hsite x ⟨n, hn, hx⟩
    · intro ps _ hparts
      exact (oneLine_charsAll_parts hparts).enclosed (by decide) (by decide)
  constructor
  · cases h : stmt s t with
    | error failure => rfl
    | ok t' =>
      have hunbroken := compositional_unbroken.stmt t h hsites fun u hu => hnames (.stmt u) hu
      exact congrArg Except.ok (hunbroken.text_add n k)
  · intro site hsite
    rw [Script.Expr.text, String.toList_ofList]
    exact hsites site hsite

/-- A branch with a line feed in a string, in a key, in a symbol and in an interpolated string. -/
def breaking : Tree.Stmt :=
  .branch (.binary .eq (.identifier "x") (.literal (.string "a\nb")))
    [.function "f" ["y"] [.expr (.object [⟨"k\n", .literal (.symbol "\n"), false⟩])]]
    (some (.ret (.interpolated [.text "\n", .expr (.call (.identifier "String") [.identifier "x"])])))

theorem text_indented_breaking :
    let s : Scope := ⟨.standard, []⟩
    ((∀ n ∈ breaking.nodes, ∀ x ∈ n.names, '\n' ∉ x.toList) ∧
      ∀ site ∈ stmtSites s breaking, ∀ x, Written site.scope site.expr.nodes x → '\n' ∉ x.toList) ∧
      ∃ t', stmt s breaking = .ok t' ∧ t'.text 3 = Script.indented 2 (t'.text 1) := by
  intro s
  have hnames : ∀ n ∈ breaking.nodes, ∀ x ∈ n.names, '\n' ∉ x.toList := by decide +kernel
  have hwritten : ∀ site ∈ stmtSites s breaking, ∀ x, Written site.scope site.expr.nodes x → '\n' ∉ x.toList := by
    intro site hsite x hx
    obtain ⟨n, hn, hx⟩ := hx
    have hall : ∀ site ∈ stmtSites s breaking, ∀ n ∈ site.expr.nodes, ∀ x ∈ written? site.scope n, '\n' ∉ x.toList := by
      decide +kernel
    exact hall site hsite n hn x hx
  exact ⟨⟨hnames, hwritten⟩, _, rfl, Except.ok.inj (text_indented s breaking hnames hwritten 1 2).1⟩

end Lowering

end TreeScript
