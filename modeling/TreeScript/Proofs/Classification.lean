/-
  TreeScript.Proofs.Classification — what is wrong with a text, and the header it gets.

  The statements of a program are read in turn, and the first that cannot be read is the
  one reported. `FirstUnknown` says that its first fault is the tag of a node. Such a text is
  refused for that tag (`FirstUnknown.refused`), and every other refusal is ordinary
  (`parse_eq_error`); so the header is right but for the strings that `Headers` names
  (`readProgram_header_iff`).
-/

import TreeScript.Proofs.FirstFault

namespace TreeScript

namespace Json

mutual

/-- A draft that has a value is the draft of that value. -/
theorem draft_of_value : (d : Draft) → {v : Value} → d.value = .ok v → d = v.draft
  | .null, _, h => by
    cases h
    rfl
  | .boolean _, _, h => by
    cases h
    rfl
  | .number _, _, h => by
    cases h
    rfl
  | .text _, _, h => by
    cases h
    rfl
  | .items ds, v, h => by
    rw [Draft.value] at h
    cases hvs : Draft.values ds with
    | error fault =>
      rw [hvs] at h
      cases h
    | ok vs =>
      rw [hvs] at h
      cases h
      rw [draft_items, ← drafts_of_values ds hvs]
  | .entries es, v, h => by
    rw [Draft.value] at h
    cases hvs : Draft.entryValues es with
    | error fault =>
      rw [hvs] at h
      cases h
    | ok vs =>
      rw [hvs] at h
      cases h
      rw [draft_entries, ← draftEntries_of_values es hvs]
  | .void _, _, h => by cases h
  | .fault _, _, h => by cases h

theorem drafts_of_values : (ds : List Draft) → {vs : List Value} → Draft.values ds = .ok vs → ds = vs.map Value.draft
  | [], _, h => by
    cases h
    rfl
  | d :: ds, _, h => by
    rw [Draft.values] at h
    obtain ⟨v, hv, h⟩ := Lowering.bind_eq_ok.1 h
    obtain ⟨vs, hvs, h⟩ := Lowering.bind_eq_ok.1 h
    cases h
    rw [List.map_cons, ← draft_of_value d hv, ← drafts_of_values ds hvs]

theorem draftEntries_of_values : (es : List (Key × Draft)) → {vs : List (String × Value)} →
    Draft.entryValues es = .ok vs → es = vs.map draftEntry
  | [], _, h => by
    cases h
    rfl
  | (.error _, _) :: _, _, h => by cases h
  | (.ok key, d) :: es, _, h => by
    rw [Draft.entryValues] at h
    obtain ⟨v, hv, h⟩ := Lowering.bind_eq_ok.1 h
    obtain ⟨vs, hvs, h⟩ := Lowering.bind_eq_ok.1 h
    cases h
    rw [List.map_cons, draftEntry, ← draft_of_value d hv, ← draftEntries_of_values es hvs]

end

end Json

namespace Reading

open Json (Draft Key Value draftEntry)
open Lowering (bind_eq_ok)

/-! ## Statements -/

/-- The first fault of a statement at the top level is a node with an unknown tag: its own, which counts as soon as
it has come, or that of a node within, once the statement has been read whole. -/
inductive UnknownIn : Node → String → Draft → Prop
  | object {t : String} {es es' : List (Key × Draft)} {vs : List (String × Value)} :
      Draft.entryValues es = .ok vs → (∀ e ∈ vs, e.1 ≠ tagKey) → t ∉ Node.stmt.tags →
      UnknownIn .stmt t (.entries (es ++ (.ok tagKey, .text t) :: es'))
  | list {t : String} {ds : List Draft} : t ∉ Node.stmt.tags → UnknownIn .stmt t (.items (.text t :: ds))
  | within {n : Node} {t name : String} {d : Draft} {v w : Value} :
      d.value = .ok v → Bears name v → Comes n w (.node .stmt) v → Bears t w → t ∉ n.tags → UnknownIn n t d

theorem wrongDraft_eq_error {α : Type} (d : Draft) (wanted : String) {r : Refusal}
    (h : (wrongDraft d wanted : Except Refusal α) = .error r) (hwanted : '\x60' ∉ wanted.toList) : r.Ordinary := by
  match d with
  | .null | .boolean _ | .number (.integer _) | .number (.double _) | .text _ | .items _ | .entries _ =>
    cases h
    exact hwanted
  | .void _ | .fault _ =>
    cases h
    trivial

theorem ofFault_eq_error {α : Type} {x : Except Json.Fault α} {r : Refusal} (h : ofFault x = .error r) : r.Ordinary := by
  cases x with
  | ok => cases h
  | error =>
    cases h
    trivial

theorem ofFault_eq_ok {α : Type} {x : Except Json.Fault α} {a : α} (h : ofFault x = .ok a) : x = .ok a := by
  cases x with
  | ok =>
    cases h
    rfl
  | error => cases h

theorem entryValues_cons {key : String} {d : Draft} {v : Value} {es : List (Key × Draft)} {vs : List (String × Value)}
    (hv : ofFault d.value = .ok v) (hvs : Draft.entryValues es = .ok vs) :
    Draft.entryValues ((.ok key, d) :: es) = .ok ((key, v) :: vs) := by
  rw [Draft.entryValues, ofFault_eq_ok hv, hvs]
  rfl

theorem ofMismatch_eq_error {α : Type} {x : Except Mismatch α} {r : Refusal} :
    ofMismatch x = .error r ↔ ∃ c, x = .error c ∧ r = .mismatch c := by
  cases x with
  | ok a => simp [ofMismatch]
  | error c => simp [ofMismatch, refuse, eq_comm]

theorem stmtVariant_eq_ok {d : Draft} {v : Variant Tree.Stmt} (h : stmtVariant d = .ok v) :
    ∃ name, d = .text name ∧ variantOf .stmt (.name name) = .ok v := by
  match d with
  | .text name =>
    refine ⟨name, rfl, ?_⟩
    have hof : ofMismatch (variantOf .stmt (.name name)) = .ok v := h
    cases hvariant : variantOf .stmt (.name name) with
    | ok v' =>
      rw [hvariant] at hof
      cases hof
      rfl
    | error c =>
      rw [hvariant] at hof
      cases hof
  | .null | .boolean _ | .number (.integer _) | .number (.double _) | .items _ | .entries _ | .void _ | .fault _ =>
    cases h

theorem stmtVariant_of_ne {d : Draft} (h : ∀ t, d ≠ .text t) : stmtVariant d = wrongDraft d "variant identifier" := by
  cases d with
  | text t => exact absurd rfl (h t)
  | null | boolean | number | items | entries | void | fault => rfl

theorem stmtVariant_eq_error {d : Draft} {r : Refusal} (h : stmtVariant d = .error r) :
    r.Ordinary ∨ ∃ t, d = .text t ∧ t ∉ Node.stmt.tags ∧ r = .mismatch (.unknownVariant t Node.stmt.tags) := by
  by_cases htext : ∃ t, d = .text t
  · obtain ⟨t, rfl⟩ := htext
    obtain ⟨c, hc, rfl⟩ := ofMismatch_eq_error.1 h
    rcases variantOf_eq_error hc with h | ⟨_, ⟨⟩, ht, rfl⟩
    · exact .inl h
    · exact .inr ⟨t, rfl, ht, rfl⟩
  · rw [stmtVariant_of_ne fun t heq => htext ⟨t, heq⟩] at h
    exact .inl (wrongDraft_eq_error d _ h (by decide))

/-- Without a tag, a statement is read up to its tag. -/
theorem stmtEntries_none_eq_error {read : List (String × Value)} {es : List (Key × Draft)} {r : Refusal}
    (h : stmtEntries none read es = .error r) :
    r.Ordinary ∨ ∃ es₁ vs d es₂, es = es₁ ++ (.ok tagKey, d) :: es₂ ∧ Draft.entryValues es₁ = .ok vs ∧
      (∀ e ∈ vs, e.1 ≠ tagKey) ∧
      (stmtVariant d >>= fun v => stmtEntries (some v) (vs.reverse ++ read) es₂) = .error r := by
  induction es generalizing read with
  | nil =>
    cases h
    left
    show Plain tagKey.toList
    decide
  | cons e es ih =>
    obtain ⟨key | key, d⟩ := e
    · cases h
      exact .inl trivial
    · rw [stmtEntries] at h
      split at h
      · next hkey =>
        subst hkey
        exact .inr ⟨[], [], d, es, rfl, rfl, by simp, h⟩
      · next hkey =>
        rcases bind_eq_error.1 h with h | ⟨v, hv, h⟩
        · exact .inl (ofFault_eq_error h)
        · rcases ih h with h | ⟨es₁, vs, d', es₂, rfl, hvs, hkeys, h⟩
          · exact .inl h
          · refine .inr ⟨(.ok key, d) :: es₁, (key, v) :: vs, d', es₂, rfl, entryValues_cons hv hvs,
              List.forall_mem_cons.2 ⟨hkey, hkeys⟩, ?_⟩
            simpa using h

/-- With its tag, a statement is read whole, and then for its fields. -/
theorem stmtEntries_some_eq_error {variant : Variant Tree.Stmt} {read : List (String × Value)} {es : List (Key × Draft)}
    {r : Refusal} (h : stmtEntries (some variant) read es = .error r) :
    r.Ordinary ∨ ∃ vs c, Draft.entryValues es = .ok vs ∧ (∀ e ∈ vs, e.1 ≠ tagKey) ∧
      fields variant (layer (.entries (read.reverse ++ vs))) = .error c ∧ r = .mismatch c := by
  induction es generalizing read with
  | nil =>
    obtain ⟨c, hc, rfl⟩ := ofMismatch_eq_error.1 h
    refine .inr ⟨[], c, rfl, by simp, ?_, rfl⟩
    rw [List.append_nil]
    exact hc
  | cons e es ih =>
    obtain ⟨key | key, d⟩ := e
    · cases h
      exact .inl trivial
    · rw [stmtEntries] at h
      split at h
      · cases h
        left
        show Plain tagKey.toList
        decide
      · next hkey =>
        rcases bind_eq_error.1 h with h | ⟨v, hv, h⟩
        · exact .inl (ofFault_eq_error h)
        · rcases ih h with h | ⟨vs, c, hvs, hkeys, hc, rfl⟩
          · exact .inl h
          · refine .inr ⟨(key, v) :: vs, c, entryValues_cons hv hvs, List.forall_mem_cons.2 ⟨hkey, hkeys⟩, ?_, rfl⟩
            simpa using hc

theorem Bears.value_eq {t : String} {before after : List (String × Value)} {u : Value}
    (h : Bears t (.entries (before ++ (tagKey, u) :: after))) (hbefore : ∀ e ∈ before, e.1 ≠ tagKey) : u = .text t := by
  have hfind : ∀ {es₁ : List (String × Value)}, (∀ e ∈ es₁, e.1 ≠ tagKey) → ∀ (x : Value) (es₂ : List (String × Value)),
      (es₁ ++ (tagKey, x) :: es₂).find? (·.1 = tagKey) = some (tagKey, x) := by
    intro es₁ hes₁ x es₂
    have hnone : es₁.find? (·.1 = tagKey) = none := by
      rw [List.find?_eq_none]
      intro e he heq
      exact hes₁ e he (of_decide_eq_true heq)
    rw [List.find?_append, hnone, Option.none_or]
    simp
  generalize hes : before ++ (tagKey, u) :: after = es at h
  cases h with
  | object hes₁ =>
    have hsome := hfind hbefore u after
    rw [hes, hfind hes₁] at hsome
    exact (Prod.mk.inj (Option.some.inj hsome)).2.symm

/-- A statement with the tag of a variant is what its fields make it. -/
theorem Opens.stmt_eq {v rest : Value} {variant : Variant Node.stmt.Denote} (h : Opens Node.stmt v variant rest)
    {name : String} (hname : Bears name v) : stmt v.draft = ofMismatch (fields variant (layer rest)) := by
  cases h with
  | @object before after u tag _ hother htag hv =>
    rw [List.forall_mem_append] at hother
    obtain rfl := hname.value_eq hother.1
    cases htag
    rw [Json.draft_entries, List.map_append, List.map_cons]
    show stmtEntries none [] (before.map draftEntry ++ (.ok tagKey, .text name) :: after.map draftEntry) = _
    have hvariant : stmtVariant (.text name) = .ok variant := by
      rw [stmtVariant, hv]
      rfl
    have hread : (after.reverse ++ (before.reverse ++ [])).reverse = before ++ after := by simp
    rw [stmtEntries_append hother.1, stmtEntries, if_pos rfl, hvariant, ← List.append_nil (after.map draftEntry)]
    show stmtEntries (some variant) (before.reverse ++ []) (after.map draftEntry ++ []) = _
    rw [stmtEntries_append hother.2, stmtEntries, hread]
    rfl
  | @list u vs tag _ htag hv =>
    cases hname with
    | list =>
      cases htag
      have hvariant : stmtVariant (.text name) = .ok variant := by
        rw [stmtVariant, hv]
        rfl
      have hvalues : Draft.values (vs.map Value.draft) = .ok vs := Json.values_draft fun v _ => Json.value_draft v
      rw [Json.draft_items, List.map_cons]
      show stmt (.items (.text name :: vs.map Value.draft)) = _
      rw [stmt, hvariant, hvalues]
      rfl

theorem UnknownIn.refused {n : Node} {t : String} {d : Draft} (h : UnknownIn n t d) :
    stmt d = .error (.mismatch (.unknownVariant t n.tags)) := by
  -- the statement's own tag
  have hobject : ∀ {t : String} {vs : List (String × Value)} {es : List (Key × Draft)}, (∀ e ∈ vs, e.1 ≠ tagKey) →
      t ∉ Node.stmt.tags → stmt (.entries (vs.map draftEntry ++ (.ok tagKey, .text t) :: es)) =
        .error (.mismatch (.unknownVariant t Node.stmt.tags)) := by
    intro t vs es hvs ht
    show stmtEntries none [] _ = _
    rw [stmtEntries_append hvs, stmtEntries, if_pos rfl]
    exact bind_eq_error.2 (.inl (ofMismatch_eq_error.2 ⟨_, variantOf_of_notMem ht, rfl⟩))
  have hlist : ∀ {t : String} {ds : List Draft}, t ∉ Node.stmt.tags →
      stmt (.items (.text t :: ds)) = .error (.mismatch (.unknownVariant t Node.stmt.tags)) := by
    intro t ds ht
    exact bind_eq_error.2 (.inl (ofMismatch_eq_error.2 ⟨_, variantOf_of_notMem ht, rfl⟩))
  cases h with
  | object hvs hkeys ht =>
    rw [Json.draftEntries_of_values _ hvs]
    exact hobject hkeys ht
  | list ht => exact hlist ht
  | @within _ _ name _ v w hv hname hcomes hw ht =>
    rw [Json.draft_of_value d hv]
    cases hcomes with
    | here =>
      cases hw with
      | object hbefore =>
        rw [Json.draft_entries, List.map_append, List.map_cons]
        exact hobject hbefore ht
      | list =>
        rw [Json.draft_items]
        exact hlist ht
    | node hopens hreaches hcomes =>
      rw [hopens.stmt_eq hname]
      exact ofMismatch_eq_error.2 ⟨_, hreaches.fields_error (hcomes.refused hw ht), rfl⟩

/-- A statement that has been read whole is refused for its fields. -/
theorem unknownIn_of_fields {d : Draft} {v rest : Value} {variant : Variant Tree.Stmt} {name : String} {c : Mismatch}
    (hv : d.value = .ok v) (hname : Bears name v) (hopens : Opens Node.stmt v variant rest)
    (hc : fields variant (layer rest) = .error c) :
    (Refusal.mismatch c).Ordinary ∨
      ∃ n t, UnknownIn n t d ∧ Refusal.mismatch c = .mismatch (.unknownVariant t n.tags) := by
  rw [← hopens.meaning_eq] at hc
  rcases meaning_eq_error hc with h | ⟨n, w, t, hcomes, hw, ht, rfl⟩
  · exact .inl h
  · exact .inr ⟨n, t, .within hv hname hcomes hw ht, rfl⟩

theorem stmt_eq_error {d : Draft} {r : Refusal} (h : stmt d = .error r) :
    r.Ordinary ∨ ∃ n t, UnknownIn n t d ∧ r = .mismatch (.unknownVariant t n.tags) := by
  match d with
  | .entries es =>
    rcases stmtEntries_none_eq_error h with hr | ⟨es₁, vs, d', es₂, rfl, hvs, hkeys, hrest⟩
    · exact .inl hr
    rcases bind_eq_error.1 hrest with htag | ⟨variant, hvariant, hrest⟩
    · rcases stmtVariant_eq_error htag with hr | ⟨t, rfl, ht, rfl⟩
      · exact .inl hr
      · exact .inr ⟨.stmt, t, .object hvs hkeys ht, rfl⟩
    rcases stmtEntries_some_eq_error hrest with hr | ⟨vs', c, hvs', hkeys', hc, rfl⟩
    · exact .inl hr
    obtain ⟨name, rfl, hname⟩ := stmtVariant_eq_ok hvariant
    have hread : (vs.reverse ++ []).reverse ++ vs' = vs ++ vs' := by simp
    rw [hread] at hc
    have hvalue : (Draft.entries (es₁ ++ (.ok tagKey, .text name) :: es₂)).value =
        .ok (.entries (vs ++ (tagKey, .text name) :: vs')) := by
      rw [Json.draftEntries_of_values es₁ hvs, Json.draftEntries_of_values es₂ hvs', ← Json.value_draft,
        Json.draft_entries, List.map_append, List.map_cons]
      rfl
    exact unknownIn_of_fields hvalue (.object hkeys)
      (.object (List.forall_mem_append.2 ⟨hkeys, hkeys'⟩) rfl hname) hc
  | .items [] =>
    cases h
    left
    show Plain tagKey.toList
    decide
  | .items (d' :: ds) =>
    rcases bind_eq_error.1 h with htag | ⟨variant, hvariant, hrest⟩
    · rcases stmtVariant_eq_error htag with hr | ⟨t, rfl, ht, rfl⟩
      · exact .inl hr
      · exact .inr ⟨.stmt, t, .list ht, rfl⟩
    rcases bind_eq_error.1 hrest with hfault | ⟨vs, hvs, hrest⟩
    · exact .inl (ofFault_eq_error hfault)
    obtain ⟨name, rfl, hname⟩ := stmtVariant_eq_ok hvariant
    obtain ⟨c, hc, rfl⟩ := ofMismatch_eq_error.1 hrest
    have hvalue : (Draft.items (.text name :: ds)).value = .ok (.items (.text name :: vs)) := by
      rw [Json.drafts_of_values ds (ofFault_eq_ok hvs), ← Json.value_draft, Json.draft_items, List.map_cons]
      rfl
    exact unknownIn_of_fields hvalue .list (.list rfl hname) hc
  | .null | .boolean _ | .number (.integer _) | .number (.double _) | .text _ | .void _ | .fault _ =>
    unfold stmt at h
    exact .inl (wrongDraft_eq_error _ "internally tagged enum Stmt" h (by decide))

/-! ## Programs -/

/-- An entry of a program that is passed over. -/
def Skipped (e : Key × Draft) : Prop := ∃ key, e.1 = .ok key ∧ key ≠ "body" ∧ e.2.skip = .ok ()

/-- Where the statements of a program are read from. -/
inductive Bodied : Draft → Draft → Prop
  | object {before after : List (Key × Draft)} {d : Draft} :
      (∀ e ∈ before, Skipped e) → Bodied (.entries (before ++ (.ok "body", d) :: after)) d
  | list {d : Draft} {more : List Draft} : Bodied (.items (d :: more)) d

/-- The first fault of a text is a node with an unknown tag. -/
def FirstUnknown (text : String) (n : Node) (t : String) : Prop :=
  ∃ before d after, Bodied (Json.read text).root (.items (before ++ d :: after)) ∧ (∀ x ∈ before, ∃ s, stmt x = .ok s) ∧
    UnknownIn n t d

theorem Bodied.program_error {root d : Draft} (h : Bodied root d) {r : Refusal} (hd : body d = .error r) :
    program root = .error r := by
  cases h with
  | @object before after _ hbefore =>
    show programEntries none _ = _
    induction before with
    | nil =>
      rw [List.nil_append, programEntries, if_pos rfl]
      exact bind_eq_error.2 (.inl hd)
    | cons e before ih =>
      rw [List.forall_mem_cons] at hbefore
      obtain ⟨⟨key, hkey, hne, hskip⟩, hbefore⟩ := hbefore
      obtain ⟨_, d'⟩ := e
      subst hkey
      rw [List.cons_append, programEntries, if_neg hne]
      exact bind_eq_error.2 (.inr ⟨(), by rw [hskip]; rfl, ih hbefore⟩)
  | list => exact bind_eq_error.2 (.inl hd)

theorem FirstUnknown.refused {text : String} {n : Node} {t : String} (h : FirstUnknown text n t) :
    parse text = .error (.mismatch (.unknownVariant t n.tags)) := by
  obtain ⟨before, d, after, hbodied, hbefore, hd⟩ := h
  have hbody : body (.items (before ++ d :: after)) = .error (.mismatch (.unknownVariant t n.tags)) :=
    mapM_eq_error.2 ⟨before, d, after, rfl, hbefore, hd.refused⟩
  exact bind_eq_error.2 (.inl (hbodied.program_error hbody))

theorem body_eq_error {d : Draft} {r : Refusal} (h : body d = .error r) :
    r.Ordinary ∨ ∃ before x after, d = .items (before ++ x :: after) ∧ (∀ y ∈ before, ∃ s, stmt y = .ok s) ∧
      stmt x = .error r := by
  match d with
  | .items ds =>
    obtain ⟨before, x, after, rfl, hbefore, hx⟩ := mapM_eq_error.1 h
    exact .inr ⟨before, x, after, rfl, hbefore, hx⟩
  | .null | .boolean _ | .number (.integer _) | .number (.double _) | .text _ | .entries _ | .void _ | .fault _ =>
    unfold body at h
    exact .inl (wrongDraft_eq_error _ "a sequence" h (by decide))

/-- Once the body has been read, only the rest of the text can be wrong. -/
theorem programEntries_some_eq_error {b : List Tree.Stmt} {es : List (Key × Draft)} {r : Refusal}
    (h : programEntries (some b) es = .error r) : r.Ordinary := by
  induction es with
  | nil => cases h
  | cons e es ih =>
    obtain ⟨fault | key, d⟩ := e
    · cases h
      trivial
    · rw [programEntries] at h
      split at h
      · cases h
        show Plain "body".toList
        decide
      · rcases bind_eq_error.1 h with h | ⟨_, -, h⟩
        · exact ofFault_eq_error h
        · exact ih h

theorem programEntries_none_eq_error {es : List (Key × Draft)} {r : Refusal} (h : programEntries none es = .error r) :
    r.Ordinary ∨ ∃ before d after, es = before ++ (.ok "body", d) :: after ∧ (∀ e ∈ before, Skipped e) ∧
      body d = .error r := by
  induction es with
  | nil =>
    cases h
    left
    show Plain "body".toList
    decide
  | cons e es ih =>
    obtain ⟨fault | key, d⟩ := e
    · cases h
      exact .inl trivial
    · rw [programEntries] at h
      split at h
      · next hkey =>
        subst hkey
        rcases bind_eq_error.1 h with h | ⟨b, -, h⟩
        · exact .inr ⟨[], d, es, rfl, by simp, h⟩
        · exact .inl (programEntries_some_eq_error h)
      · next hkey =>
        rcases bind_eq_error.1 h with h | ⟨_, hskip, h⟩
        · exact .inl (ofFault_eq_error h)
        · rcases ih h with h | ⟨before, d', after, rfl, hbefore, hd⟩
          · exact .inl h
          · exact .inr ⟨(.ok key, d) :: before, d', after, rfl,
              List.forall_mem_cons.2 ⟨⟨key, rfl, hkey, ofFault_eq_ok hskip⟩, hbefore⟩, hd⟩

theorem program_eq_error {root : Draft} {r : Refusal} (h : program root = .error r) :
    r.Ordinary ∨ ∃ d, Bodied root d ∧ body d = .error r := by
  match root with
  | .entries es =>
    rcases programEntries_none_eq_error h with hr | ⟨before, d, after, rfl, hbefore, hd⟩
    · exact .inl hr
    · exact .inr ⟨d, .object hbefore, hd⟩
  | .items [] =>
    cases h
    left
    show '\x60' ∉ programShape.toList
    decide
  | .items (d :: ds) =>
    rcases bind_eq_error.1 h with hd | ⟨b, -, hrest⟩
    · exact .inr ⟨d, .list, hd⟩
    · left
      split at hrest
      · cases hrest
      · cases hrest
        trivial
      · cases hrest
        trivial
  | .null | .boolean _ | .number (.integer _) | .number (.double _) | .text _ | .void _ | .fault _ =>
    unfold program at h
    exact .inl (wrongDraft_eq_error _ programShape h (by decide))

/-- A text is refused for the tag of a node if that is its first fault, and otherwise for something ordinary. -/
theorem parse_eq_error {text : String} {r : Refusal} (h : parse text = .error r) :
    r.Ordinary ∨ ∃ n t, FirstUnknown text n t ∧ r = .mismatch (.unknownVariant t n.tags) := by
  have hdocument : document (Json.read text) = .error r := h
  rcases bind_eq_error.1 hdocument with hprogram | ⟨p, -, hsurplus⟩
  · rcases program_eq_error hprogram with hr | ⟨d, hbodied, hd⟩
    · exact .inl hr
    rcases body_eq_error hd with hr | ⟨before, x, after, rfl, hbefore, hx⟩
    · exact .inl hr
    rcases stmt_eq_error hx with hr | ⟨n, t, hunknown, rfl⟩
    · exact .inl hr
    · exact .inr ⟨n, t, ⟨before, x, after, hbodied, hbefore, hunknown⟩, rfl⟩
  · left
    split at hsurplus
    · cases hsurplus
      trivial
    · cases hsurplus

theorem tags_injective {m n : Node} (h : m.tags = n.tags) : m = n := by
  cases m <;> cases n <;> first | rfl | exact absurd h (by decide +kernel)

theorem not_ordinary_tags (n : Node) (t : String) : ¬ (Refusal.mismatch (.unknownVariant t n.tags)).Ordinary := by
  rintro (⟨set, h⟩ | h)
  · revert h
    cases n <;> cases set <;> decide +kernel
  · revert h
    cases n <;> decide +kernel

theorem firstUnknown_iff {text : String} {n : Node} {t : String} :
    FirstUnknown text n t ↔ parse text = .error (.mismatch (.unknownVariant t n.tags)) := by
  constructor
  · exact FirstUnknown.refused
  · intro h
    rcases parse_eq_error h with hr | ⟨n', t', hfirst, heq⟩
    · exact absurd hr (not_ordinary_tags n t)
    · obtain ⟨rfl, htags⟩ := Mismatch.unknownVariant.inj (Refusal.mismatch.inj heq)
      rw [tags_injective htags]
      exact hfirst

/-- Why a text is refused. -/
def refusal? (text : String) : Option Refusal :=
  match parse text with
  | .ok _ => none
  | .error r => some r

theorem refusal?_eq_some {text : String} {r : Refusal} : refusal? text = some r ↔ parse text = .error r := by
  rw [refusal?]
  cases parse text <;> simp

end Reading

open Reading

theorem readProgram_of_error {text : String} {r : Refusal} (h : parse text = .error r) :
    readProgram text = .error r.diagnostic := by
  rw [readProgram, h]
  rfl

/-- The header of a text that cannot be read. If its first fault is a node with an unknown tag, the header names the
tag unless the tag has a back-tick in it or ends in the words `unknown variant` and a blank. Otherwise the text is
reported as malformed, unless the word or the string that the message shows poses as such a tag. -/
theorem readProgram_header_iff (text : String) :
    (∀ n t, FirstUnknown text n t → ∃ d, readProgram text = .error d ∧
      (d.header = "unrecognized node variant \x60" ++ t ++ "\x60" ↔
        '\x60' ∉ t.toList ∧ ¬ "unknown variant ".toList <:+ t.toList)) ∧
    ∀ r, parse text = .error r → (∀ n t, ¬ FirstUnknown text n t) → ∃ d, readProgram text = .error d ∧
      (d.header = "malformed syntax tree" ↔ ¬ Poses r.shown) := by
  constructor
  · intro n t hfirst
    exact ⟨_, readProgram_of_error hfirst.refused, header_of_unknown_node n t⟩
  · intro r hr hnone
    refine ⟨_, readProgram_of_error hr, ?_⟩
    rcases parse_eq_error hr with hordinary | ⟨n, t, hfirst, -⟩
    · exact header_of_ordinary hordinary
    · exact absurd hfirst (hnone n t)

/-- A return of an expression with an unknown tag. -/
def awaiting : String :=
  "\x7b\"body\":[\x7b\"type\":\"ReturnStatement\",\"value\":\x7b\"type\":\"Await\"\x7d\x7d]\x7d"

/-- A declaration by a word that is no keyword. -/
def declaredBy (word : String) : String :=
  "\x7b\"body\":[\x7b\"type\":\"VariableDeclaration\",\"kind\":\"" ++ word ++ "\"\x7d]\x7d"

theorem not_firstUnknown {text : String} {r : Refusal} (hr : refusal? text = some r) (hordinary : r.Ordinary)
    (n : Node) (t : String) : ¬ FirstUnknown text n t := by
  intro hfirst
  have heq := (refusal?_eq_some.1 hr).symm.trans hfirst.refused
  rw [Except.error.inj heq] at hordinary
  exact not_ordinary_tags n t hordinary

theorem readProgram_header_iff_awaiting :
    FirstUnknown awaiting .expr "Await" ∧
      (∃ d, readProgram awaiting = .error d ∧ d.header = "unrecognized node variant \x60Await\x60") ∧
    (∀ n t, ¬ FirstUnknown (declaredBy "x\x60y\x60z") n t) ∧
      ∃ d, readProgram (declaredBy "x\x60y\x60z") = .error d ∧ d.header = "malformed syntax tree" := by
  have hfirst : FirstUnknown awaiting .expr "Await" := firstUnknown_iff.2 (refusal?_eq_some.1 (by decide +kernel))
  have hword : refusal? (declaredBy "x\x60y\x60z") =
      some (.mismatch (.unknownVariant "x\x60y\x60z" (WordSet.varKind.words.map (·.1)))) := by decide +kernel
  have hnone := not_firstUnknown hword (.inl ⟨.varKind, rfl⟩)
  obtain ⟨d, hd, hheader⟩ := (readProgram_header_iff awaiting).1 .expr "Await" hfirst
  obtain ⟨d', hd', hheader'⟩ := (readProgram_header_iff (declaredBy "x\x60y\x60z")).2 _ (refusal?_eq_some.1 hword) hnone
  refine ⟨hfirst, ⟨d, hd, hheader.2 (by decide)⟩, hnone, d', hd', hheader'.2 ?_⟩
  rw [← isSome_nodeOf?]
  decide +kernel

/-- A tag with a back-tick is not named, and a word with two is taken for a tag. -/
theorem header_misled_by_back_ticks :
    (∃ text d, FirstUnknown text .stmt "A\x60b" ∧ readProgram text = .error d ∧ d.header = "malformed syntax tree") ∧
    ∃ text d, (∀ n t, ¬ FirstUnknown text n t) ∧ readProgram text = .error d ∧
      d.header = "unrecognized node variant \x60x\x60" := by
  have htag : refusal? "\x7b\"body\":[\x7b\"type\":\"A\x60b\"\x7d]\x7d" =
      some (.mismatch (.unknownVariant "A\x60b" Node.stmt.tags)) := by decide +kernel
  have hword : refusal? (declaredBy "x\x60y\x60Z") =
      some (.mismatch (.unknownVariant "x\x60y\x60Z" (WordSet.varKind.words.map (·.1)))) := by decide +kernel
  constructor
  · exact ⟨_, _, firstUnknown_iff.2 (refusal?_eq_some.1 htag), readProgram_of_error (refusal?_eq_some.1 htag),
      by decide +kernel⟩
  · exact ⟨_, _, not_firstUnknown hword (.inl ⟨.varKind, rfl⟩), readProgram_of_error (refusal?_eq_some.1 hword),
      by decide +kernel⟩

end TreeScript
