/-
  TreeScript.Proofs.Spelling — the tokens of an expression are read from its text.

  `Expr.tokens` is the token list that an expression is meant to have, with the literal
  texts of a template joined. `Expr.spells` says that `lex` reads exactly these from the
  expression's text, before any rest that cannot be taken for a part of it, with two
  exceptions. A template may be split: each literal part is escaped by itself, so a `$`
  that ends one part and a brace that starts the text after it open a substitution.
  `Expr.unsplit` rules this out. And what looks like a name may be no identifier; `proper`
  rules this out. Where one of the two fails, no reading of the text has the stretches of
  template text that the tokens have. Both halves go through the same induction, so they are
  stated together (`Yields`).

  What the text must grant beside that is `Expr.legible`: names look like names, the object
  of an access does not end in a number, and the operand of a sign does not start with a
  sign.
-/

import TreeScript.Proofs.Lexemes

namespace TreeScript.Script

/-! ## The tokens that are meant -/

def numberTokens (x : Binary64) : List Token :=
  if x.isNaN then [.name "NaN"]
  else
    (if x.negative then [.mark "-"] else []) ++ [if x.isInfinite then .name "Infinity" else .number ⟨false, x.rank⟩]

def keyToken (key : String) : Token := if isName key then .name key else .string key

def commaTokens (pieces : List (List Token)) : List Token := List.intercalate [.mark ","] pieces

mutual

def Expr.tokens : Expr → List Token
  | .name name => [.name name]
  | .number value => numberTokens value
  | .boolean value => [.name (if value then "true" else "false")]
  | .null => [.name "null"]
  | .undefined => [.name "undefined"]
  | .string value => [.string value]
  | .template parts => TemplatePart.tokens true [] parts
  | .array elements => [.mark "["] ++ commaTokens (Expr.tokensAll elements) ++ [.mark "]"]
  | .object entries => [.mark "\x7b"] ++ commaTokens (Entry.tokensAll entries) ++ [.mark "\x7d"]
  | .paren inner => [.mark "("] ++ inner.tokens ++ [.mark ")"]
  | .call callee args => callee.tokens ++ [.mark "("] ++ commaTokens (Expr.tokensAll args) ++ [.mark ")"]
  | .member object property => object.tokens ++ [.mark ".", .name property]
  | .index object position => object.tokens ++ [.mark "["] ++ position.tokens ++ [.mark "]"]
  | .construct className args =>
    [.name "new", .name className, .mark "("] ++ commaTokens (Expr.tokensAll args) ++ [.mark ")"]
  | .unary op operand => [.mark op.symbol] ++ operand.tokens
  | .binary op left right => left.tokens ++ [.mark op.token] ++ right.tokens
  | .conditional test consequent alternate =>
    test.tokens ++ [.mark "?"] ++ consequent.tokens ++ [.mark ":"] ++ alternate.tokens

def Expr.tokensAll : List Expr → List (List Token)
  | [] => []
  | e :: es => e.tokens :: Expr.tokensAll es

def Entry.tokensAll : List Entry → List (List Token)
  | [] => []
  | .bare key :: es => [.name key] :: Entry.tokensAll es
  | .keyed key value :: es => ([keyToken key, .mark ":"] ++ value.tokens) :: Entry.tokensAll es

/-- The tokens of a template, from a stretch on of which `text` stands already. -/
def TemplatePart.tokens (first : Bool) (text : List Char) : List TemplatePart → List Token
  | [] => [.quasi first (.ofList text) true]
  | .text t :: ps => TemplatePart.tokens first (text ++ t.toList) ps
  | .expr value :: ps => [.quasi first (.ofList text) false] ++ value.tokens ++ TemplatePart.tokens false [] ps

end

/-! ## Legible and unsplit expressions -/

/-- Whether an access or a call can follow an expression's text. -/
def Expr.accessible : Expr → Bool
  | .number _ | .unary _ _ | .binary _ _ _ | .conditional _ _ _ => false
  | _ => true

/-- Whether an expression's text can follow a sign. -/
def Expr.unsigned : Expr → Bool
  | .number value => !value.negative
  | e => e.accessible

/-- The literal text that a template's parts begin with. -/
def TemplatePart.lead : List TemplatePart → List Char
  | .text t :: ps => t.toList ++ TemplatePart.lead ps
  | _ => []

mutual

def Expr.legible : Expr → Bool
  | .name name => isName name
  | .number _ | .boolean _ | .null | .undefined | .string _ => true
  | .template parts => TemplatePart.legibleAll parts
  | .array elements => Expr.legibleAll elements
  | .object entries => Entry.legibleAll entries
  | .paren inner => inner.legible
  | .call callee args => callee.accessible && callee.legible && Expr.legibleAll args
  | .member object property => object.accessible && object.legible && isName property
  | .index object position => object.accessible && object.legible && position.legible
  | .construct className args => isName className && Expr.legibleAll args
  | .unary _ operand => operand.unsigned && operand.legible
  | .binary _ left right => left.legible && right.legible
  | .conditional test consequent alternate => test.legible && consequent.legible && alternate.legible

def Expr.legibleAll : List Expr → Bool
  | [] => true
  | e :: es => e.legible && Expr.legibleAll es

def Entry.legibleAll : List Entry → Bool
  | [] => true
  | .bare key :: es => isName key && Entry.legibleAll es
  | .keyed _ value :: es => value.legible && Entry.legibleAll es

def TemplatePart.legibleAll : List TemplatePart → Bool
  | [] => true
  | .text _ :: ps => TemplatePart.legibleAll ps
  | .expr value :: ps => value.legible && TemplatePart.legibleAll ps

end

mutual

/-- Whether in every template no `$` at the end of a literal part is split from a brace after it. -/
def Expr.unsplit : Expr → Bool
  | .name _ | .number _ | .boolean _ | .null | .undefined | .string _ => true
  | .template parts => TemplatePart.unsplitAll parts
  | .array elements => Expr.unsplitAll elements
  | .object entries => Entry.unsplitAll entries
  | .paren inner => inner.unsplit
  | .call callee args => callee.unsplit && Expr.unsplitAll args
  | .member object _ => object.unsplit
  | .index object position => object.unsplit && position.unsplit
  | .construct _ args => Expr.unsplitAll args
  | .unary _ operand => operand.unsplit
  | .binary _ left right => left.unsplit && right.unsplit
  | .conditional test consequent alternate => test.unsplit && consequent.unsplit && alternate.unsplit

def Expr.unsplitAll : List Expr → Bool
  | [] => true
  | e :: es => e.unsplit && Expr.unsplitAll es

def Entry.unsplitAll : List Entry → Bool
  | [] => true
  | .bare _ :: es => Entry.unsplitAll es
  | .keyed _ value :: es => value.unsplit && Entry.unsplitAll es

def TemplatePart.unsplitAll : List TemplatePart → Bool
  | [] => true
  | .text t :: ps => !glues t.toList (TemplatePart.lead ps) && TemplatePart.unsplitAll ps
  | .expr value :: ps => value.unsplit && TemplatePart.unsplitAll ps

end

/-! ## Readings -/

def Token.isQuasi : Token → Bool
  | .quasi _ _ _ => true
  | _ => false

/-- The stretches of template text among tokens. -/
def quasis (ts : List Token) : List Token := ts.filter Token.isQuasi

theorem quasis_append (ts us : List Token) : quasis (ts ++ us) = quasis ts ++ quasis us := List.filter_append ..

/-- Whether a token that is a name is an identifier. -/
@[simp] def Token.isProper : Token → Bool
  | .name text => isIdentifierName text
  | _ => true

/-- Whether all names among tokens are identifiers. -/
def proper (ts : List Token) : Bool := ts.all Token.isProper

@[simp] theorem proper_nil : proper [] = true := rfl

@[simp] theorem proper_cons (t : Token) (ts : List Token) : proper (t :: ts) = (t.isProper && proper ts) := rfl

@[simp] theorem proper_append (ts us : List Token) : proper (ts ++ us) = (proper ts && proper us) := List.all_append

@[simp] theorem proper_commaTokens (tss : List (List Token)) : proper (commaTokens tss) = tss.all proper := by
  induction tss with
  | nil => rfl
  | cons ts tss ih =>
    cases tss with
    | nil => simp [commaTokens]
    | cons us tss =>
      have hcommas : commaTokens (ts :: us :: tss) = ts ++ [.mark ","] ++ commaTokens (us :: tss) :=
        List.intercalate_cons_cons
      rw [hcommas, proper_append, proper_append, ih, List.all_cons]
      simp

/-- Some text is read as `tokens` and then as what is read `after` it, if it is `good` and the names among the tokens
are identifiers; if not, no reading of it begins with the stretches of template text among `tokens`. -/
structure Yields (good : Bool) (read : Option (List Token)) (tokens : List Token) (after : Option (List Token)) :
    Prop where
  reads : (good && proper tokens) = true → read = after.map (tokens ++ ·)
  differs : (good && proper tokens) = false → ∀ ts, read = some ts → ¬quasis tokens <+: quasis ts

namespace Yields

variable {good good' : Bool} {read between after : Option (List Token)} {ts us : List Token}

theorem of_eq (h : read = after.map (ts ++ ·)) (hp : proper ts = true) : Yields true read ts after := by
  refine ⟨fun _ => h, fun hnot => ?_⟩
  rw [hp] at hnot
  cases hnot

theorem trans (h : Yields good read ts between) (h' : Yields good' between us after) :
    Yields (good && good') read (ts ++ us) after := by
  have hboth : (good && good' && proper (ts ++ us)) = (good && proper ts && (good' && proper us)) := by
    rw [proper_append, Bool.and_assoc, Bool.and_assoc, Bool.and_left_comm good']
  constructor
  · intro hg
    rw [hboth] at hg
    obtain ⟨hg, hg'⟩ := Bool.and_eq_true_iff.mp hg
    rw [h.reads hg, h'.reads hg', Option.map_map]
    congr 1
    funext vs
    exact (List.append_assoc ts us vs).symm
  · intro hg vs hv hpre
    rw [hboth] at hg
    rw [quasis_append] at hpre
    cases hfirst : (good && proper ts) with
    | false => exact h.differs hfirst vs hv ((List.prefix_append _ _).trans hpre)
    | true =>
      rw [h.reads hfirst] at hv
      obtain ⟨ws, hw, rfl⟩ := Option.map_eq_some_iff.mp hv
      rw [quasis_append, List.prefix_append_right_inj] at hpre
      exact h'.differs (by simpa [hfirst] using hg) ws hw hpre

/-- Something that splits no template stands before. -/
theorem before (h : Yields true read ts between) (h' : Yields good between us after) :
    Yields good read (ts ++ us) after := h.trans h'

/-- Something that splits no template stands after. -/
theorem andThen (h : Yields good read ts between) (h' : Yields true between us after) :
    Yields good read (ts ++ us) after := by
  have := h.trans h'
  rwa [Bool.and_true] at this

end Yields

/-! ## What follows an expression -/

def Closes (rest : List Char) : Prop := ∀ c, rest.head? = some c → c ∈ closers

def Follows (e : Expr) (rest : List Char) : Prop :=
  ∀ c, rest.head? = some c → c ∈ closers ∨ (e.accessible = true ∧ c ∈ accessors)

theorem Closes.follows {rest : List Char} (h : Closes rest) (e : Expr) : Follows e rest := fun c hc => .inl (h c hc)

theorem closes_nil : Closes [] := by
  intro c hc
  cases hc

theorem closes_cons {c : Char} (h : c ∈ closers) (rest : List Char) : Closes (c :: rest) := by
  intro d hd
  cases hd
  exact h

theorem Closes.endsNumber {rest : List Char} (h : Closes rest) : EndsNumber rest := fun c hc =>
  closers_plain c (h c hc)

theorem Follows.endsName {e : Expr} {rest : List Char} (h : Follows e rest) :
    ∀ c, rest.head? = some c → continuesIdentifier c = false := by
  intro c hc
  apply continuesIdentifier_closers
  rcases h c hc with h | h
  · exact List.mem_append_left _ h
  · exact List.mem_append_right _ h.2

theorem Follows.closes {e : Expr} {rest : List Char} (h : Follows e rest) (he : e.accessible = false) : Closes rest := by
  intro c hc
  rcases h c hc with h | h
  · exact h
  · rw [he] at h
    exact nomatch h.1

theorem follows_cons {e : Expr} {c : Char} (he : e.accessible = true) (hc : c ∈ accessors) (rest : List Char) :
    Follows e (c :: rest) := by
  intro d hd
  cases hd
  exact .inr ⟨he, hc⟩


/-! ## Pieces of expressions -/

section Pieces

variable {stack : List Bracket} {rest : List Char}

/-- What is read from inside a template, where `text` stands already in the stretch at hand. -/
def lexQuasi (first : Bool) (text : List Char) (stack : List Bracket) (cs : List Char) : Option (List Token) :=
  (quasiText cs).bind fun (t, last, rest) =>
    (lex (if last then stack else .hole :: stack) rest).map ([.quasi first (.ofList (text ++ t)) last] ++ ·)

theorem lex_eq_lexQuasi {first : Bool} {stack' : List Bracket} {c : Char} {cs : List Char}
    (h : next stack c cs = takeQuasi first stack' cs) : lex stack (c :: cs) = lexQuasi first [] stack' cs := by
  cases hq : quasiText cs with
  | none =>
    rw [takeQuasi, hq] at h
    rw [lex_cons_none h, lexQuasi, hq]
    rfl
  | some r =>
    rw [takeQuasi, hq] at h
    rw [lex_cons h, lexQuasi, hq]
    rfl

theorem lex_template (cs : List Char) : lex stack ('\x60' :: cs) = lexQuasi true [] stack cs := by
  have hs : startsIdentifier '\x60' = false := startsIdentifier_of_lt (by decide)
  have hb : blank.contains '\x60' = false := by decide
  apply lex_eq_lexQuasi
  rw [next, hs, hb]
  rfl

theorem lex_hole_close (cs : List Char) : lex (.hole :: stack) ('\x7d' :: cs) = lexQuasi false [] stack cs := by
  have hs : startsIdentifier '\x7d' = false := startsIdentifier_of_lt (by decide)
  have hb : blank.contains '\x7d' = false := by decide
  apply lex_eq_lexQuasi
  rw [next, hs, hb]
  rfl

theorem positional_unsigned (d : Decimal) : ∃ c cs, d.positional = c :: cs ∧ c ∉ ['+', '-', '='] := by
  obtain ⟨c, cs, h, hd⟩ := positional_head d
  refine ⟨c, cs, h, fun hm => ?_⟩
  have hsign : ∀ c ∈ ['+', '-', '='], c.isDigit = false := forall_mem_eq_false (by decide)
  rw [hsign c hm] at hd
  cases hd

theorem lex_numberChars (x : Binary64) (hr : Closes rest) :
    lex stack (numberChars x ++ rest) = (lex stack rest).map (numberTokens x ++ ·) := by
  have hname := (hr.follows .null).endsName
  have hinf : isIdentifierChars "Infinity".toList = true := by decide +kernel
  unfold numberChars numberTokens
  split
  · exact lex_name (by decide +kernel) hname
  rename_i hnan
  -- the magnitude first: a name or a decimal, which a minus sign does not go on with
  obtain ⟨c, cs, hchars, hc⟩ : ∃ c cs, (if x.isInfinite then "Infinity".toList else x.shortest.positional) = c :: cs ∧
      c ∉ ['+', '-', '='] := by
    split
    · exact ⟨'I', _, rfl, by decide⟩
    · exact positional_unsigned x.shortest
  have hmag : lex stack ((if x.isInfinite then "Infinity".toList else x.shortest.positional) ++ rest) =
      (lex stack rest).map ([if x.isInfinite then Token.name "Infinity" else .number ⟨false, x.rank⟩] ++ ·) := by
    split
    · exact lex_name hinf hname
    · rename_i hfin
      refine lex_number ?_ hr.endsNumber
      simp only [Binary64.isNaN, Binary64.isInfinite, Binary64.isFinite, decide_eq_true_eq] at hnan hfin ⊢
      omega
  rw [List.append_assoc]
  split
  · rw [hchars] at hmag ⊢
    show lex stack (Tree.UnaryOp.neg.symbol.toList ++ c :: (cs ++ rest)) = _
    rw [lex_sign .neg hc]
    show Option.map _ (lex stack (c :: cs ++ rest)) = _
    rw [hmag, Option.map_map]
    rfl
  · exact hmag

theorem proper_numberTokens (x : Binary64) : proper (numberTokens x) = true := by
  have hnames : isIdentifierName "NaN" = true ∧ isIdentifierName "Infinity" = true := by decide +kernel
  unfold numberTokens
  split
  · simp [hnames]
  · rw [proper_append]
    cases x.negative <;> cases x.isInfinite <;> simp [hnames]

theorem yields_name {n : String} (h : isName n = true) (hr : ∀ c, rest.head? = some c → continuesIdentifier c = false) :
    Yields true (lex stack (n.toList ++ rest)) [.name n] (lex stack rest) := by
  have hproper : proper [.name n] = isIdentifierChars n.toList := Bool.and_true _
  constructor
  · intro hgood
    rw [Bool.true_and, hproper] at hgood
    have hlex := @lex_name stack rest n.toList hgood hr
    rwa [String.ofList_toList] at hlex
  · intro hgood ts hts
    rw [Bool.true_and, hproper] at hgood
    rw [lex_stray h hgood] at hts
    cases hts

theorem isName_head {n : String} (h : isName n = true) : ∃ c cs, n.toList = c :: cs ∧ startsName c = true := by
  unfold isName at h
  cases hn : n.toList with
  | nil => simp [hn, isNameChars] at h
  | cons c cs =>
    rw [hn, isNameChars, Bool.and_eq_true] at h
    exact ⟨c, cs, rfl, h.1⟩

theorem yields_property {n : String} (h : isName n = true)
    (hr : ∀ c, rest.head? = some c → continuesIdentifier c = false) :
    Yields true (lex stack ('.' :: (n.toList ++ rest))) [.mark ".", .name n] (lex stack rest) := by
  obtain ⟨c, cs, hn, hc⟩ := isName_head h
  have hdot : c ≠ '.' := by
    rintro rfl
    exact startsName_plain hc (by decide)
  have hlex : lex stack ('.' :: (n.toList ++ rest)) = (lex stack (n.toList ++ rest)).map ([.mark "."] ++ ·) := by
    rw [hn]
    exact lex_dot hdot
  exact .before (.of_eq hlex rfl) (yields_name h hr)

theorem endsName_cons {c : Char} (h : continuesAscii c = false) (hlt : c.toNat < 0x80) :
    ∀ d, (c :: rest).head? = some d → continuesIdentifier d = false := by
  intro d hd
  cases hd
  rw [continuesIdentifier_of_lt hlt, h]

theorem yields_new {n : String} (h : isName n = true) :
    Yields true (lex stack ("new ".toList ++ (n.toList ++ '(' :: rest))) [.name "new", .name n, .mark "("]
      (lex (.round :: stack) rest) := by
  have hnew : Yields true (lex stack ("new".toList ++ ' ' :: (n.toList ++ '(' :: rest))) [.name "new"]
      (lex stack (' ' :: (n.toList ++ '(' :: rest))) :=
    yields_name (n := "new") (by decide +kernel) (endsName_cons (by decide) (by decide))
  rw [lex_space] at hnew
  exact hnew.before ((yields_name h (endsName_cons (by decide) (by decide))).before (.of_eq lex_round rfl))

theorem yields_key (key : String) (rest : List Char) :
    Yields true (lex stack (keyChars key ++ ": ".toList ++ rest)) [keyToken key, .mark ":"] (lex stack rest) := by
  have hcolon : Yields true (lex stack (": ".toList ++ rest)) [.mark ":"] (lex stack rest) := .of_eq lex_colon rfl
  rw [List.append_assoc]
  unfold keyChars keyToken
  split
  · rename_i h
    exact (yields_name h (endsName_cons (by decide) (by decide))).before hcolon
  · have hquoted : Yields true (lex stack (quotedChars key.toList ++ (": ".toList ++ rest))) [.string key]
        (lex stack (": ".toList ++ rest)) := by
      refine .of_eq ?_ rfl
      rw [lex_string, String.ofList_toList]
    exact hquoted.before hcolon

/-- One more piece before a list of pieces. -/
theorem yields_commas {good goods : Bool} {piece : List Char} {pieces : List (List Char)} {ts : List Token}
    {tss : List (List Token)} (hlen : pieces.length = tss.length)
    (h : ∀ rest, Closes rest → Yields good (lex stack (piece ++ rest)) ts (lex stack rest))
    (hs : Yields goods (lex stack (commas pieces ++ rest)) (commaTokens tss) (lex stack rest)) (hr : Closes rest) :
    Yields (good && goods) (lex stack (commas (piece :: pieces) ++ rest)) (commaTokens (ts :: tss)) (lex stack rest) := by
  cases pieces with
  | nil =>
    obtain rfl := List.length_eq_zero_iff.mp hlen.symm
    have hpiece : commas [piece] = piece ++ commas [] := by simp [commas]
    have hts : commaTokens [ts] = ts ++ commaTokens [] := by simp [commaTokens]
    rw [hpiece, hts, List.append_assoc]
    exact (h _ hr).trans hs
  | cons p ps =>
    cases tss with
    | nil => cases hlen
    | cons us tss =>
      have hpiece : commas (piece :: p :: ps) ++ rest = piece ++ (',' :: ' ' :: (commas (p :: ps) ++ rest)) := by
        simp [commas, List.intercalate]
      have hts : commaTokens (ts :: us :: tss) = ts ++ ([.mark ","] ++ commaTokens (us :: tss)) := by
        simp [commaTokens, List.intercalate]
      rw [hpiece, hts]
      exact (h _ (closes_cons (by decide) _)).trans (.before (.of_eq lex_comma rfl) hs)

end Pieces

/-! ## The first character of an operand -/

theorem Expr.unsigned_of_accessible {e : Expr} (h : e.accessible = true) : e.unsigned = true := by
  cases e <;> first | exact h | exact nomatch h

theorem numberChars_head {x : Binary64} (hx : x.negative = false) :
    ∃ c cs, numberChars x = c :: cs ∧ c ∉ ['+', '-', '='] := by
  simp only [numberChars, hx, Bool.false_eq_true, if_false, List.nil_append]
  split
  · exact ⟨'N', _, rfl, by decide⟩
  split
  · exact ⟨'I', _, rfl, by decide⟩
  · exact positional_unsigned x.shortest

/-- An expression that can follow a sign does not start with one. -/
theorem Expr.head_unsigned : (e : Expr) → e.legible = true → e.unsigned = true →
    ∃ c cs, e.chars = c :: cs ∧ c ∉ ['+', '-', '=']
  | .name n, hl, _ => by
    obtain ⟨c, cs, h, hc⟩ := isName_head (n := n) hl
    refine ⟨c, cs, h, fun hm => startsName_plain hc ?_⟩
    exact (show ['+', '-', '='] ⊆ symbols by decide) hm
  | .number x, _, hu => numberChars_head (x := x) (by simpa [unsigned] using hu)
  | .boolean b, _, _ => by cases b <;> exact ⟨_, _, rfl, by decide⟩
  | .null, _, _ => ⟨'n', _, rfl, by decide⟩
  | .undefined, _, _ => ⟨'u', _, rfl, by decide⟩
  | .string _, _, _ => ⟨'"', _, rfl, by decide⟩
  | .template _, _, _ => ⟨'\x60', _, rfl, by decide⟩
  | .array _, _, _ => ⟨'[', _, rfl, by decide⟩
  | .object [], _, _ => ⟨'\x7b', _, rfl, by decide⟩
  | .object (_ :: _), _, _ => ⟨'\x7b', _, rfl, by decide⟩
  | .paren _, _, _ => ⟨'(', _, rfl, by decide⟩
  | .call f args, hl, _ => by
    simp only [legible, Bool.and_eq_true] at hl
    obtain ⟨c, cs, h, hc⟩ := head_unsigned f hl.1.2 (unsigned_of_accessible hl.1.1)
    exact ⟨c, cs ++ '(' :: (commas (charsAll args) ++ [')']), congrArg (· ++ _) h, hc⟩
  | .member o p, hl, _ => by
    simp only [legible, Bool.and_eq_true] at hl
    obtain ⟨c, cs, h, hc⟩ := head_unsigned o hl.1.2 (unsigned_of_accessible hl.1.1)
    exact ⟨c, cs ++ '.' :: p.toList, congrArg (· ++ _) h, hc⟩
  | .index o i, hl, _ => by
    simp only [legible, Bool.and_eq_true] at hl
    obtain ⟨c, cs, h, hc⟩ := head_unsigned o hl.1.2 (unsigned_of_accessible hl.1.1)
    exact ⟨c, cs ++ '[' :: (i.chars ++ [']']), congrArg (· ++ _) h, hc⟩
  | .construct _ _, _, _ => ⟨'n', _, rfl, by decide⟩

/-! ## Templates -/

/-- The first stretch of a template goes on from the text that it has. -/
theorem TemplatePart.tokens_head (first : Bool) (text : List Char) (ps : List TemplatePart) :
    ∃ t last ts, tokens first text ps = [.quasi first (.ofList (text ++ t)) last] ++ ts := by
  induction ps generalizing text with
  | nil => exact ⟨[], true, [], by simp [tokens]⟩
  | cons p ps ih =>
    cases p with
    | text s =>
      obtain ⟨t, last, ts, h⟩ := ih (text ++ s.toList)
      exact ⟨s.toList ++ t, last, ts, by rw [tokens, h, List.append_assoc]⟩
    | expr e => exact ⟨[], false, e.tokens ++ tokens false [] ps, by rw [tokens, List.append_nil, List.append_assoc]⟩

theorem templateChars_head_iff (s : List Char) : (templateChars s).head? = some '\x7b' ↔ s.head? = some '\x7b' := by
  refine ⟨templateChars_head, fun h => ?_⟩
  obtain ⟨s, rfl⟩ := List.head?_eq_some_iff.mp h
  rfl

/-- Written out, the parts of a template start with a brace just when their literal text does. -/
theorem TemplatePart.charsAll_head (ps : List TemplatePart) (rest : List Char) :
    (charsAll ps ++ '\x60' :: rest).head? = some '\x7b' ↔ (lead ps).head? = some '\x7b' := by
  induction ps with
  | nil => exact ⟨(nomatch ·), (nomatch ·)⟩
  | cons p ps ih =>
    cases p with
    | text s =>
      show (templateChars s.toList ++ charsAll ps ++ '\x60' :: rest).head? = some '\x7b' ↔
        (s.toList ++ lead ps).head? = some '\x7b'
      by_cases hs : s.toList = []
      · rw [hs]
        exact ih
      · rw [List.append_assoc, List.head?_append_of_ne_nil _ (templateChars_ne_nil hs),
          List.head?_append_of_ne_nil _ hs]
        exact templateChars_head_iff s.toList
    | expr e => exact ⟨(nomatch ·), (nomatch ·)⟩

theorem glues_charsAll (s : List Char) (ps : List TemplatePart) (rest : List Char) :
    glues s (TemplatePart.charsAll ps ++ '\x60' :: rest) = glues s (TemplatePart.lead ps) := by
  unfold glues
  rw [decide_eq_decide.mpr (TemplatePart.charsAll_head ps rest)]

section Templates

variable {stack : List Bracket} {first : Bool} {text s cs : List Char} {after : Option (List Token)} {ts : List Token}

theorem lexQuasi_template (h : glues s cs = false) :
    lexQuasi first text stack (templateChars s ++ cs) = lexQuasi first (text ++ s) stack cs := by
  unfold lexQuasi
  rw [quasiText_template h]
  cases quasiText cs with
  | none => rfl
  | some r =>
    show Option.map _ _ = Option.map _ _
    rw [List.append_assoc]

theorem lexQuasi_hole :
    lexQuasi first text stack ('$' :: '\x7b' :: cs) =
      (lex (.hole :: stack) cs).map ([.quasi first (.ofList text) false] ++ ·) := by
  unfold lexQuasi
  rw [quasiText_hole]
  show Option.map _ _ = _
  rw [List.append_nil]
  rfl

/-- Where a `$` is split from a brace, the stretch ends too early. -/
theorem yields_glued (h : glues s cs = true)
    (hts : ∃ t last us, ts = [.quasi first (.ofList (text ++ s ++ t)) last] ++ us) :
    Yields false (lexQuasi first text stack (templateChars s ++ cs)) ts after := by
  obtain ⟨t, last, us, rfl⟩ := hts
  refine ⟨(nomatch ·), fun _ vs hv hpre => ?_⟩
  unfold lexQuasi at hv
  rw [quasiText_glued h] at hv
  obtain ⟨ws, -, rfl⟩ := Option.map_eq_some_iff.mp hv
  have hhead := (List.cons_prefix_cons.mp hpre).1
  have hlen := congrArg List.length (String.ofList_injective (Token.quasi.inj hhead).2.1)
  have hs : s.getLast? = some '$' := by
    simp only [glues, Bool.and_eq_true, decide_eq_true_eq] at h
    exact h.1
  have hpos : 0 < s.length := by
    cases s with
    | nil => cases hs
    | cons c cs => simp
  simp only [List.length_append, List.length_dropLast] at hlen
  omega

end Templates

/-! ## Expressions -/

theorem Entry.lengths (es : List Entry) : (charsAll es).length = (tokensAll es).length := by
  induction es with
  | nil => rfl
  | cons e es ih => cases e <;> exact congrArg Nat.succ ih

theorem Expr.lengths (es : List Expr) : (charsAll es).length = (tokensAll es).length := by
  induction es with
  | nil => rfl
  | cons e es ih => exact congrArg Nat.succ ih

mutual

/-- The text of an expression is read as its tokens, unless a template in it is split or a name in it is no identifier. -/
theorem Expr.spells : (e : Expr) → e.legible = true → ∀ (stack : List Bracket) (rest : List Char), Follows e rest →
    Yields e.unsplit (lex stack (e.chars ++ rest)) e.tokens (lex stack rest)
  | .name n, hl, stack, rest, hr => yields_name (n := n) hl hr.endsName
  | .number x, _, stack, rest, hr => .of_eq (lex_numberChars x (hr.closes rfl)) (proper_numberTokens x)
  | .boolean b, _, stack, rest, hr => by
    cases b
    · exact yields_name (n := "false") (by decide +kernel) hr.endsName
    · exact yields_name (n := "true") (by decide +kernel) hr.endsName
  | .null, _, stack, rest, hr => yields_name (n := "null") (by decide +kernel) hr.endsName
  | .undefined, _, stack, rest, hr => yields_name (n := "undefined") (by decide +kernel) hr.endsName
  | .string s, _, stack, rest, _ => by
    refine .of_eq ?_ rfl
    show lex stack (quotedChars s.toList ++ rest) = _
    rw [lex_string, String.ofList_toList]
    rfl
  | .template ps, hl, stack, rest, _ => by
    show Yields _ (lex stack ('\x60' :: (TemplatePart.charsAll ps ++ ['\x60'] ++ rest))) _ _
    rw [lex_template, List.append_assoc]
    exact TemplatePart.spells ps hl true [] stack rest
  | .array es, hl, stack, rest, _ => by
    show Yields _ (lex stack ('[' :: (commas (Expr.charsAll es) ++ [']'] ++ rest)))
      ([.mark "["] ++ commaTokens (Expr.tokensAll es) ++ [.mark "]"]) _
    rw [List.append_assoc, List.append_assoc]
    refine .before (.of_eq lex_square rfl) (.andThen ?_ (.of_eq lex_square_close rfl))
    exact Expr.spellsAll es hl (.square :: stack) (']' :: rest) (closes_cons (by decide) rest)
  | .object [], _, stack, rest, _ => by
    refine .of_eq ?_ rfl
    show lex stack ('\x7b' :: '\x7d' :: rest) = _
    rw [lex_curly, lex_curly_close, Option.map_map]
    rfl
  | .object (e :: es), hl, stack, rest, _ => by
    show Yields _ (lex stack ('\x7b' :: ' ' :: (commas (Entry.charsAll (e :: es)) ++ [' ', '\x7d'] ++ rest)))
      ([.mark "\x7b"] ++ commaTokens (Entry.tokensAll (e :: es)) ++ [.mark "\x7d"]) _
    rw [List.append_assoc, List.append_assoc]
    refine .before (.of_eq lex_curly rfl) ?_
    rw [lex_space]
    refine .andThen (Entry.spellsAll (e :: es) hl (.curly :: stack) _ (closes_cons (by decide) _)) (.of_eq ?_ rfl)
    show lex _ (' ' :: '\x7d' :: rest) = _
    rw [lex_space, lex_curly_close]
  | .paren e, hl, stack, rest, _ => by
    show Yields _ (lex stack ('(' :: (e.chars ++ [')'] ++ rest))) ([.mark "("] ++ e.tokens ++ [.mark ")"]) _
    rw [List.append_assoc, List.append_assoc]
    refine .before (.of_eq lex_round rfl) (.andThen ?_ (.of_eq lex_round_close rfl))
    exact Expr.spells e hl (.round :: stack) (')' :: rest) ((closes_cons (by decide) rest).follows e)
  | .call f args, hl, stack, rest, _ => by
    simp only [Expr.legible, Bool.and_eq_true] at hl
    show Yields (f.unsplit && Expr.unsplitAll args)
      (lex stack (f.chars ++ '(' :: (commas (Expr.charsAll args) ++ [')']) ++ rest))
      (f.tokens ++ [.mark "("] ++ commaTokens (Expr.tokensAll args) ++ [.mark ")"]) _
    simp only [List.append_assoc, List.cons_append]
    refine (Expr.spells f hl.1.2 stack _ (follows_cons hl.1.1 (by decide) _)).trans ?_
    refine .before (.of_eq lex_round rfl) (.andThen ?_ (.of_eq lex_round_close rfl))
    exact Expr.spellsAll args hl.2 (.round :: stack) (')' :: rest) (closes_cons (by decide) rest)
  | .member o p, hl, stack, rest, hr => by
    simp only [Expr.legible, Bool.and_eq_true] at hl
    show Yields o.unsplit (lex stack (o.chars ++ '.' :: p.toList ++ rest)) (o.tokens ++ [.mark ".", .name p]) _
    simp only [List.append_assoc, List.cons_append]
    exact .andThen (Expr.spells o hl.1.2 stack _ (follows_cons hl.1.1 (by decide) _)) (yields_property hl.2 hr.endsName)
  | .index o i, hl, stack, rest, _ => by
    simp only [Expr.legible, Bool.and_eq_true] at hl
    show Yields (o.unsplit && i.unsplit) (lex stack (o.chars ++ '[' :: (i.chars ++ [']']) ++ rest))
      (o.tokens ++ [.mark "["] ++ i.tokens ++ [.mark "]"]) _
    simp only [List.append_assoc, List.cons_append]
    refine (Expr.spells o hl.1.2 stack _ (follows_cons hl.1.1 (by decide) _)).trans ?_
    refine .before (.of_eq lex_square rfl) (.andThen ?_ (.of_eq lex_square_close rfl))
    exact Expr.spells i hl.2 (.square :: stack) (']' :: rest) ((closes_cons (by decide) rest).follows i)
  | .construct c args, hl, stack, rest, _ => by
    simp only [Expr.legible, Bool.and_eq_true] at hl
    show Yields (Expr.unsplitAll args)
      (lex stack ("new ".toList ++ c.toList ++ '(' :: (commas (Expr.charsAll args) ++ [')']) ++ rest))
      ([.name "new", .name c, .mark "("] ++ commaTokens (Expr.tokensAll args) ++ [.mark ")"]) _
    simp only [List.append_assoc, List.cons_append]
    refine .before (yields_new hl.1) (.andThen ?_ (.of_eq lex_round_close rfl))
    exact Expr.spellsAll args hl.2 (.round :: stack) (')' :: rest) (closes_cons (by decide) rest)
  | .unary op e, hl, stack, rest, hr => by
    simp only [Expr.legible, Bool.and_eq_true] at hl
    obtain ⟨c, cs, hchars, hc⟩ := e.head_unsigned hl.2 hl.1
    have he := Expr.spells e hl.2 stack rest ((hr.closes rfl).follows e)
    show Yields e.unsplit (lex stack (op.symbol.toList ++ e.chars ++ rest)) ([.mark op.symbol] ++ e.tokens) _
    refine .before (.of_eq ?_ rfl) he
    rw [List.append_assoc, hchars]
    exact lex_sign op hc
  | .binary op l r, hl, stack, rest, hr => by
    simp only [Expr.legible, Bool.and_eq_true] at hl
    show Yields (l.unsplit && r.unsplit) (lex stack (l.chars ++ ' ' :: (op.token.toList ++ ' ' :: r.chars) ++ rest))
      (l.tokens ++ [.mark op.token] ++ r.tokens) _
    simp only [List.append_assoc, List.cons_append]
    refine (Expr.spells l hl.1 stack _ ((closes_cons (by decide) _).follows l)).trans ?_
    rw [lex_space]
    exact .before (.of_eq (lex_operator op) rfl) (Expr.spells r hl.2 stack rest ((hr.closes rfl).follows r))
  | .conditional t c a, hl, stack, rest, hr => by
    simp only [Expr.legible, Bool.and_eq_true] at hl
    show Yields (t.unsplit && c.unsplit && a.unsplit)
      (lex stack (t.chars ++ [' ', '?', ' '] ++ c.chars ++ [' ', ':', ' '] ++ a.chars ++ rest))
      (t.tokens ++ [.mark "?"] ++ c.tokens ++ [.mark ":"] ++ a.tokens) _
    rw [Bool.and_assoc]
    simp only [List.append_assoc, List.cons_append, List.nil_append]
    refine (Expr.spells t hl.1.1 stack _ ((closes_cons (by decide) _).follows t)).trans ?_
    rw [lex_space]
    refine .before (.of_eq lex_question rfl) ?_
    refine (Expr.spells c hl.1.2 stack _ ((closes_cons (by decide) _).follows c)).trans ?_
    rw [lex_space]
    exact .before (.of_eq lex_colon rfl) (Expr.spells a hl.2 stack rest ((hr.closes rfl).follows a))

theorem Expr.spellsAll : (es : List Expr) → Expr.legibleAll es = true → ∀ (stack : List Bracket) (rest : List Char),
    Closes rest → Yields (Expr.unsplitAll es) (lex stack (commas (Expr.charsAll es) ++ rest))
      (commaTokens (Expr.tokensAll es)) (lex stack rest)
  | [], _, stack, rest, _ => .of_eq (by simp [Expr.charsAll, commas, Expr.tokensAll, commaTokens]) rfl
  | e :: es, hl, stack, rest, hr => by
    simp only [Expr.legibleAll, Bool.and_eq_true] at hl
    exact yields_commas (Expr.lengths es) (fun rest hr => Expr.spells e hl.1 stack rest (hr.follows e))
      (Expr.spellsAll es hl.2 stack rest hr) hr

theorem Entry.spellsAll : (es : List Entry) → Entry.legibleAll es = true → ∀ (stack : List Bracket) (rest : List Char),
    Closes rest → Yields (Entry.unsplitAll es) (lex stack (commas (Entry.charsAll es) ++ rest))
      (commaTokens (Entry.tokensAll es)) (lex stack rest)
  | [], _, stack, rest, _ => .of_eq (by simp [Entry.charsAll, commas, Entry.tokensAll, commaTokens]) rfl
  | .bare key :: es, hl, stack, rest, hr => by
    simp only [Entry.legibleAll, Bool.and_eq_true] at hl
    have hes := Entry.spellsAll es hl.2 stack rest hr
    have := yields_commas (Entry.lengths es)
      (fun rest hr => yields_name (n := key) hl.1 (hr.follows .null).endsName) hes hr
    rwa [Bool.true_and] at this
  | .keyed key value :: es, hl, stack, rest, hr => by
    simp only [Entry.legibleAll, Bool.and_eq_true] at hl
    refine yields_commas (Entry.lengths es) (fun rest hr => ?_) (Entry.spellsAll es hl.2 stack rest hr) hr
    rw [List.append_assoc]
    exact .before (yields_key key _) (Expr.spells value hl.1 stack rest (hr.follows value))

theorem TemplatePart.spells : (ps : List TemplatePart) → TemplatePart.legibleAll ps = true →
    ∀ (first : Bool) (text : List Char) (stack : List Bracket) (rest : List Char),
    Yields (TemplatePart.unsplitAll ps) (lexQuasi first text stack (TemplatePart.charsAll ps ++ '\x60' :: rest))
      (TemplatePart.tokens first text ps) (lex stack rest)
  | [], _, first, text, stack, rest => by
    refine .of_eq ?_ rfl
    show lexQuasi first text stack ('\x60' :: rest) = _
    unfold lexQuasi
    rw [quasiText_tick]
    show Option.map _ _ = _
    rw [List.append_nil]
    rfl
  | .text s :: ps, hl, first, text, stack, rest => by
    show Yields (!glues s.toList (TemplatePart.lead ps) && TemplatePart.unsplitAll ps)
      (lexQuasi first text stack (templateChars s.toList ++ TemplatePart.charsAll ps ++ '\x60' :: rest))
      (TemplatePart.tokens first (text ++ s.toList) ps) _
    have hps := TemplatePart.spells ps hl first (text ++ s.toList) stack rest
    rw [List.append_assoc, ← glues_charsAll s.toList ps rest]
    cases hg : glues s.toList (TemplatePart.charsAll ps ++ '\x60' :: rest) with
    | true => exact yields_glued hg (TemplatePart.tokens_head first (text ++ s.toList) ps)
    | false =>
      rw [lexQuasi_template hg]
      exact hps
  | .expr e :: ps, hl, first, text, stack, rest => by
    simp only [TemplatePart.legibleAll, Bool.and_eq_true] at hl
    show Yields (e.unsplit && TemplatePart.unsplitAll ps)
      (lexQuasi first text stack ('$' :: '\x7b' :: (e.chars ++ '\x7d' :: TemplatePart.charsAll ps ++ '\x60' :: rest)))
      ([.quasi first (.ofList text) false] ++ e.tokens ++ TemplatePart.tokens false [] ps) _
    simp only [List.append_assoc]
    refine .before (.of_eq lexQuasi_hole rfl) ?_
    refine (Expr.spells e hl.1 (.hole :: stack) _ ((closes_cons (by decide) _).follows e)).trans ?_
    rw [lex_hole_close]
    exact TemplatePart.spells ps hl.2 false [] stack rest

end

namespace Expr

variable {e : Expr}

theorem spells_text (hl : e.legible = true) : Yields e.unsplit (lex [] e.text.toList) e.tokens (some []) := by
  have h := spells e hl [] [] (closes_nil.follows e)
  rwa [List.append_nil, lex_nil, ← String.toList_ofList (l := e.chars)] at h

theorem lex_text (hl : e.legible = true) (hu : e.unsplit = true) (hp : proper e.tokens = true) :
    lex [] e.text.toList = some e.tokens := by
  rw [(spells_text hl).reads (by rw [hu, hp]; rfl)]
  exact congrArg some (List.append_nil _)

theorem quasis_ne_of_misread (hl : e.legible = true) (h : ¬(e.unsplit = true ∧ proper e.tokens = true)) {ts : List Token}
    (hlex : lex [] e.text.toList = some ts) : quasis ts ≠ quasis e.tokens := by
  intro heq
  rw [← Bool.and_eq_true_iff, Bool.not_eq_true] at h
  exact (spells_text hl).differs h ts hlex (heq ▸ List.prefix_rfl)

/-- An expression's own tokens are read from its text just when none of its templates is split and all of its names
are identifiers. -/
theorem lex_text_iff (hl : e.legible = true) :
    lex [] e.text.toList = some e.tokens ↔ e.unsplit = true ∧ proper e.tokens = true := by
  refine ⟨fun hlex => ?_, fun h => lex_text hl h.1 h.2⟩
  by_contra hnot
  exact quasis_ne_of_misread hl hnot hlex rfl

end Expr

end TreeScript.Script
