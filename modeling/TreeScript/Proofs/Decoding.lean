/-
  TreeScript.Proofs.Decoding — a tree is read from every value that has its form.

  The fields of a node may come in any order, because entries that go to different fields
  can be read one before the other or the other way round (`enter_comm`). So it is enough
  to look at the order in which the form names them, where reading goes through fields and
  slots side by side (`Fits`). Then each node is one application of `means_node`, and a
  tree is read by induction.
-/

import TreeScript.Compile
import TreeScript.Proofs.Clauses
import TreeScript.Proofs.JsonReading
import TreeScript.Proofs.Serialized

namespace TreeScript.Reading

open Json (Layer Value)
open Lowering (bind_eq_ok)

/-! ## Fields in any order -/

/-- The names that a field goes by. -/
def Field.names (f : Field) : List String := f.name :: f.otherName.toList

theorem isCalled_iff {f : Field} {key : String} : f.isCalled key = true ↔ key ∈ f.names := by
  cases h : f.otherName <;> simp [Field.isCalled, Field.names, h]

section

variable {f : Field} {fs : List Field}

/-- An entry is read into the first field if it has its name, and otherwise into the others. -/
theorem enter_cons {slot : Option f.kind.Denote} {slots : Slots fs} {e : String × Meaning} {t : Slots (f :: fs)} :
    Slots.enter (f :: fs) (slot, slots) e = .ok t ↔
      (f.isCalled e.1 = true ∧ slot = none ∧ ∃ x, e.2 f.kind = .ok x ∧ t = (some x, slots)) ∨
      (f.isCalled e.1 = false ∧ ∃ slots', Slots.enter fs slots e = .ok slots' ∧ t = (slot, slots')) := by
  obtain ⟨key, r⟩ := e
  cases hkey : f.isCalled key with
  | true =>
    cases slot with
    | some x => simp [Slots.enter, hkey]
    | none =>
      have henter : Slots.enter (f :: fs) (none, slots) (key, r) = (r f.kind >>= fun x => .ok (some x, slots)) := by
        simp only [Slots.enter, hkey, if_true]
        rfl
      rw [henter, bind_eq_ok]
      constructor
      · rintro ⟨x, hx, h⟩
        cases h
        exact .inl ⟨rfl, rfl, x, hx, rfl⟩
      · rintro (⟨-, -, x, hx, rfl⟩ | ⟨h, -⟩)
        · exact ⟨x, hx, rfl⟩
        · cases h
  | false =>
    have henter : Slots.enter (f :: fs) (slot, slots) (key, r) =
        (Slots.enter fs slots (key, r) >>= fun slots => .ok (slot, slots)) := by
      simp only [Slots.enter, hkey]
      rfl
    rw [henter, bind_eq_ok]
    constructor
    · rintro ⟨slots', hslots, h⟩
      cases h
      exact .inr ⟨rfl, slots', hslots, rfl⟩
    · rintro (⟨h, -⟩ | ⟨-, slots', hslots, rfl⟩)
      · cases h
      · exact ⟨slots', hslots, rfl⟩

/-- Two entries that can be read one after the other can be read in the other order. -/
theorem enter_comm {slots t : Slots fs} {d e : String × Meaning}
    (h : (Slots.enter fs slots d >>= fun slots => Slots.enter fs slots e) = .ok t) :
    (Slots.enter fs slots e >>= fun slots => Slots.enter fs slots d) = .ok t := by
  induction fs with
  | nil => exact h
  | cons f fs ih =>
    obtain ⟨slot, slots⟩ := slots
    obtain ⟨⟨slot₁, slots₁⟩, hd, he⟩ := bind_eq_ok.1 h
    rcases enter_cons.1 hd with ⟨hcd, rfl, x, hx, heq⟩ | ⟨hcd, slots₂, hslots, heq⟩ <;> cases heq
    · rcases enter_cons.1 he with ⟨-, hnone, -⟩ | ⟨hce, slots₂, hslots, rfl⟩
      · cases hnone
      · exact bind_eq_ok.2 ⟨(none, slots₂), enter_cons.2 (.inr ⟨hce, slots₂, hslots, rfl⟩),
          enter_cons.2 (.inl ⟨hcd, rfl, x, hx, rfl⟩)⟩
    · rcases enter_cons.1 he with ⟨hce, rfl, x, hx, rfl⟩ | ⟨hce, slots₃, hslots', rfl⟩
      · exact bind_eq_ok.2 ⟨(some x, slots), enter_cons.2 (.inl ⟨hce, rfl, x, hx, rfl⟩),
          enter_cons.2 (.inr ⟨hcd, slots₁, hslots, rfl⟩)⟩
      · obtain ⟨slots₄, he', hd'⟩ := bind_eq_ok.1 (ih (bind_eq_ok.2 ⟨slots₁, hslots, hslots'⟩))
        exact bind_eq_ok.2 ⟨(slot, slots₄), enter_cons.2 (.inr ⟨hce, slots₄, he', rfl⟩),
          enter_cons.2 (.inr ⟨hcd, slots₃, hd', rfl⟩)⟩

theorem foldlM_enter_perm {es es' : List (String × Meaning)} (hes : es.Perm es') {slots t : Slots fs}
    (h : es.foldlM (Slots.enter fs) slots = .ok t) : es'.foldlM (Slots.enter fs) slots = .ok t := by
  induction hes generalizing slots with
  | nil => exact h
  | cons e _ ih =>
    rw [List.foldlM_cons] at h ⊢
    obtain ⟨slots₁, he, h⟩ := bind_eq_ok.1 h
    exact bind_eq_ok.2 ⟨slots₁, he, ih h⟩
  | swap d e es =>
    simp only [List.foldlM_cons, ← bind_assoc] at h ⊢
    obtain ⟨slots₁, hde, h⟩ := bind_eq_ok.1 h
    exact bind_eq_ok.2 ⟨slots₁, enter_comm hde, h⟩
  | trans _ _ ih ih' => exact ih' (ih h)

/-- Entries that do not have the name of the first field are read into the others. -/
theorem foldlM_enter_cons {es : List (String × Meaning)} (hes : ∀ e ∈ es, f.isCalled e.1 = false)
    {slots t : Slots fs} (h : es.foldlM (Slots.enter fs) slots = .ok t) (slot : Option f.kind.Denote) :
    es.foldlM (Slots.enter (f :: fs)) (slot, slots) = .ok (slot, t) := by
  induction es generalizing slots with
  | nil =>
    cases h
    rfl
  | cons e es ih =>
    rw [List.foldlM_cons] at h ⊢
    obtain ⟨slots₁, he, h⟩ := bind_eq_ok.1 h
    exact bind_eq_ok.2 ⟨(slot, slots₁), enter_cons.2 (.inr ⟨hes e List.mem_cons_self, slots₁, he, rfl⟩),
      ih (fun e' he' => hes e' (List.mem_cons_of_mem e he')) h⟩

end

/-! ## Meanings -/

theorem meaning_items (vs : List Value) : meaning (.items vs) = interpret (.items (vs.map meaning)) := by
  rw [meaning, Value.fold, Value.foldItems_eq_map]
  rfl

/-- An entry with the meaning of its value. -/
def meaningEntry (e : String × Value) : String × Meaning := (e.1, meaning e.2)

theorem meaning_entries (es : List (String × Value)) :
    meaning (.entries es) = interpret (.entries (es.map meaningEntry)) := by
  rw [meaning, Value.fold, Value.foldEntries_eq_map]
  rfl

/-- Every value of a form is read as `x`. -/
def Means (k : Kind) (f : Form) (x : k.Denote) : Prop := ∀ v, Writes f v → meaning v k = .ok x

theorem means_text (s : String) : Means .text (.text s) s := by
  intro v hv
  cases hv
  rfl

theorem means_flag (b : Bool) : Means .flag (.flag b) b := by
  intro v hv
  cases hv
  rfl

theorem means_word (set : WordSet) {w : String} {x : set.Denote} (h : wordOf set w = .ok x) :
    Means (.word set) (.text w) x := by
  intro v hv
  cases hv
  exact h

theorem toBinary64_whole {x : Binary64} {m : Nat} (h : x.Whole m) :
    (Json.Number.whole x.negative m).toBinary64 = x := by
  have hround : Binary64.ofNat m = ⟨false, x.rank⟩ := by
    rw [← Binary64.ofRatio_ratio x h.finite]
    apply Binary64.ofRatio_congr Nat.one_pos
    · exact Nat.two_pow_pos _
    · rw [h.ratio, Nat.mul_one]
  obtain ⟨negative, rank⟩ := x
  cases negative with
  | false =>
    show Binary64.ofInt m = _
    rw [Binary64.ofInt, if_neg (by omega), Int.natAbs_natCast, hround]
  | true =>
    by_cases hm : m = 0
    · subst hm
      exact congrArg Binary64.neg hround
    · have hwhole : Json.Number.whole true m = .integer (-m) := by simp [Json.Number.whole, hm]
      show (Json.Number.whole true m).toBinary64 = _
      rw [hwhole]
      show Binary64.ofInt (-m) = _
      rw [Binary64.ofInt, if_pos (by omega), Int.natAbs_neg, Int.natAbs_natCast, hround]
      rfl

theorem means_number (x : Binary64) : Means .number (.number x) x := by
  intro v hv
  cases hv with
  | number h => exact congrArg Except.ok (toBinary64_whole h)

theorem means_list {k : Kind} {fs : List Form} {xs : List k.Denote} (h : List.Forall₂ (Means k) fs xs) :
    Means (.list k) (.list fs) xs := by
  intro v hv
  cases hv with
  | @list _ vs hvs =>
    rw [meaning_items]
    show (vs.map meaning).mapM (fun r => r k) = .ok xs
    induction h generalizing vs with
    | nil =>
      cases hvs
      rfl
    | cons hx _ ih =>
      cases hvs with
      | cons hv hvs =>
        rw [List.map_cons, List.mapM_cons, hx _ hv, ih hvs]
        rfl

/-! ## Nodes -/

/-- Slots that have the names of fields and contents for them. -/
def Fits : (fs : List Field) → List (Slot Form) → Row fs → Prop
  | [], ss, () => ss = []
  | f :: fs, ss, (x, row) =>
    ∃ s rest, ss = s :: rest ∧ s.name = f.name ∧ s.otherName = f.otherName ∧ Means f.kind s.content x ∧
      (s.omittable = true → f.absent = some x) ∧ Fits fs rest row

theorem mem_names_of_entries {fs : List Field} {ss : List (Slot Form)} {row : Row fs} (hfits : Fits fs ss row)
    {es : List (String × Value)} (hes : Slot.Entries Writes ss es) : ∀ e ∈ es, e.1 ∈ fs.flatMap Field.names := by
  induction fs generalizing ss es with
  | nil =>
    cases hfits
    cases hes
    simp
  | cons f fs ih =>
    obtain ⟨s, rest, rfl, hname, hother, -, -, hrest⟩ := hfits
    rw [List.flatMap_cons]
    cases hes with
    | omitted _ hes => exact fun e he => List.mem_append_right _ (ih hrest hes e he)
    | @written _ _ es name v hcalled _ hes =>
      refine List.forall_mem_cons.2 ⟨List.mem_append_left _ ?_, fun e he => List.mem_append_right _ (ih hrest hes e he)⟩
      rw [hname, hother] at hcalled
      rcases hcalled with rfl | hcalled
      · exact List.mem_cons_self
      · exact List.mem_cons_of_mem _ (Option.mem_toList.2 hcalled.symm)

/-- Entries in the order of the fields are read into a row. -/
theorem foldlM_enter_entries {fs : List Field} (hnames : (fs.flatMap Field.names).Nodup) {ss : List (Slot Form)}
    {row : Row fs} (hfits : Fits fs ss row) {es : List (String × Value)} (hes : Slot.Entries Writes ss es) :
    ∃ slots, (es.map meaningEntry).foldlM (Slots.enter fs) (Slots.empty fs) = .ok slots ∧ slots.row = .ok row := by
  induction fs generalizing ss es with
  | nil =>
    cases hfits
    cases hes
    exact ⟨(), rfl, rfl⟩
  | cons f fs ih =>
    obtain ⟨x, row⟩ := row
    rw [List.flatMap_cons, List.nodup_append] at hnames
    obtain ⟨-, hnodup, hapart⟩ := hnames
    obtain ⟨s, rest, rfl, hname, hother, hmeans, habsent, hrest⟩ := hfits
    -- The entries of later slots pass by this field.
    have hlater : ∀ {es}, Slot.Entries Writes rest es → ∀ slot, ∃ slots,
        (es.map meaningEntry).foldlM (Slots.enter (f :: fs)) (slot, Slots.empty fs) = .ok (slot, slots) ∧
          slots.row = .ok row := by
      intro es hes slot
      obtain ⟨slots, hslots, hrow⟩ := ih hnodup hrest hes
      refine ⟨slots, foldlM_enter_cons ?_ hslots slot, hrow⟩
      refine List.forall_mem_map.2 fun e he => ?_
      have hkey := mem_names_of_entries hrest hes e he
      rw [← Bool.not_eq_true, isCalled_iff]
      exact fun h => hapart e.1 h e.1 hkey rfl
    cases hes with
    | omitted homit hes =>
      obtain ⟨slots, hslots, hrow⟩ := hlater hes none
      refine ⟨(none, slots), hslots, ?_⟩
      have hslot : (none <|> f.absent) = some x := habsent homit
      rw [Slots.row, hslot]
      exact bind_eq_ok.2 ⟨row, hrow, rfl⟩
    | @written _ _ es name v hcalled hv hes =>
      obtain ⟨slots, hslots, hrow⟩ := hlater hes (some x)
      have hcalled : f.isCalled name = true := by
        rw [hname, hother] at hcalled
        simpa [Field.isCalled] using hcalled
      have hfirst : Slots.enter (f :: fs) (none, Slots.empty fs) (meaningEntry (name, v)) =
          .ok (some x, Slots.empty fs) :=
        enter_cons.2 (.inl ⟨hcalled, rfl, x, hmeans v hv, rfl⟩)
      refine ⟨(some x, slots), ?_, ?_⟩
      · rw [List.map_cons, List.foldlM_cons]
        exact bind_eq_ok.2 ⟨_, hfirst, hslots⟩
      · exact bind_eq_ok.2 ⟨row, hrow, rfl⟩

theorem fields_entries {α : Type} {v : Variant α} (hnames : (v.fields.flatMap Field.names).Nodup)
    {ss : List (Slot Form)} {row : Row v.fields} (hfits : Fits v.fields ss row) {es es' : List (String × Value)}
    (hes : Slot.Entries Writes ss es) (hperm : es.Perm es') :
    fields v (.entries (es'.map meaningEntry)) = .ok (v.build row) := by
  obtain ⟨slots, hslots, hrow⟩ := foldlM_enter_entries hnames hfits hes
  have hslots := foldlM_enter_perm (hperm.map meaningEntry) hslots
  exact bind_eq_ok.2 ⟨slots, hslots, bind_eq_ok.2 ⟨row, hrow, rfl⟩⟩

/-- The names of the fields of a node differ from each other and from the tag's. -/
theorem nodup_names (n : Node) : ∀ v ∈ n.variants, (tagKey :: v.fields.flatMap Field.names).Nodup := by
  cases n <;> decide

theorem nodup_groupNames (g : Group) : (g.variant.fields.flatMap Field.names).Nodup := by
  cases g <;> decide

/-- An entry that has to be there comes first, as its slot does. -/
theorem entries_field {name : String} {content : Form} {ss : List (Slot Form)} {es : List (String × Value)}
    (h : Slot.Entries Writes (.field name content :: ss) es) :
    ∃ v rest, es = (name, v) :: rest ∧ Writes content v ∧ Slot.Entries Writes ss rest := by
  cases h with
  | omitted homit => cases homit
  | @written _ _ rest _ v hname hv hrest =>
    rcases hname with rfl | hname
    · exact ⟨v, rest, rfl, hv, hrest⟩
    · cases hname

/-- In an arrangement of a list, its first member stands among the others. -/
theorem exists_split_of_perm {α : Type} {a : α} {l l' : List α} (h : (a :: l).Perm l') :
    ∃ before after, l' = before ++ a :: after ∧ l.Perm (before ++ after) := by
  obtain ⟨before, after, rfl⟩ := List.append_of_mem (h.subset List.mem_cons_self)
  exact ⟨before, after, rfl, (h.trans List.perm_middle).cons_inv⟩

/-- The entries of a node: its tag among the others, which are all its slots' entries. -/
theorem entries_of_node {tag : String} {ss : List (Slot Form)} {v : Value} (h : Writes (.node tag ss) v) :
    ∃ before after es, v = .entries (before ++ (tagKey, .text tag) :: after) ∧ Slot.Entries Writes ss es ∧
      es.Perm (before ++ after) := by
  cases h with
  | object hes hperm =>
    obtain ⟨_, rest, rfl, htag, hrest⟩ := entries_field hes
    cases htag
    obtain ⟨before, after, rfl, hsplit⟩ := exists_split_of_perm hperm
    exact ⟨before, after, rest, rfl, hrest, hsplit⟩

theorem filter_tag {α : Type} {before after : List (String × α)} (h : ∀ e ∈ before ++ after, e.1 ≠ tagKey) (a : α) :
    (before ++ (tagKey, a) :: after).filter (·.1 = tagKey) = [(tagKey, a)] ∧
      (before ++ (tagKey, a) :: after).filter (·.1 ≠ tagKey) = before ++ after := by
  rw [List.forall_mem_append] at h
  have hnone {es : List (String × α)} (hes : ∀ e ∈ es, e.1 ≠ tagKey) :
      es.filter (·.1 = tagKey) = [] ∧ es.filter (·.1 ≠ tagKey) = es := by
    constructor
    · exact List.filter_eq_nil_iff.2 fun e he => by simpa using hes e he
    · exact List.filter_eq_self.2 fun e he => by simpa using hes e he
  obtain ⟨hbefore, hbefore'⟩ := hnone h.1
  obtain ⟨hafter, hafter'⟩ := hnone h.2
  rw [List.filter_append, List.filter_append, List.filter_cons, List.filter_cons, hbefore, hbefore', hafter, hafter']
  simp

/-- Every value of a form is an object in which a tag stands among the entries that make up `x`. -/
def Tagged (n : Node) (f : Form) (x : n.Denote) : Prop :=
  ∀ w, Writes f w → ∃ tag v before after, w = .entries (before ++ (tagKey, .text tag) :: after) ∧
    variantOf n (.name tag) = .ok v ∧ (∀ e ∈ before ++ after, e.1 ≠ tagKey) ∧
    fields v (.entries ((before ++ after).map meaningEntry)) = .ok x

theorem tagged_node {n : Node} {v : Variant n.Denote} {tag : String} (hfind : n.variants.find? (·.tag = tag) = some v)
    {ss : List (Slot Form)} {row : Row v.fields} (hfits : Fits v.fields ss row) {x : n.Denote} (hx : v.build row = x) :
    Tagged n (.node tag ss) x := by
  intro w hw
  obtain ⟨before, after, es, rfl, hes, hperm⟩ := entries_of_node hw
  have hnames := nodup_names n v (List.mem_of_find?_eq_some hfind)
  rw [List.nodup_cons] at hnames
  refine ⟨tag, v, before, after, rfl, by simp only [variantOf, hfind], ?_, ?_⟩
  · intro e he hkey
    exact hnames.1 (hkey ▸ mem_names_of_entries hfits hes e (hperm.symm.subset he))
  · rw [← hx]
    exact fields_entries hnames.2 hfits hes hperm

theorem Tagged.means {n : Node} {f : Form} {x : n.Denote} (h : Tagged n f x) : Means (.node n) f x := by
  intro w hw
  obtain ⟨tag, v, before, after, rfl, hv, hother, hfields⟩ := h w hw
  have hother : ∀ e ∈ before.map meaningEntry ++ after.map meaningEntry, e.1 ≠ tagKey := by
    rw [← List.map_append]
    exact List.forall_mem_map.2 hother
  obtain ⟨htag, hrest⟩ := filter_tag hother (meaning (.text tag))
  rw [meaning_entries, List.map_append, List.map_cons]
  show node n (.entries (before.map meaningEntry ++ (tagKey, meaning (.text tag)) :: after.map meaningEntry)) = _
  simp only [node, htag]
  refine bind_eq_ok.2 ⟨.name tag, rfl, bind_eq_ok.2 ⟨v, hv, ?_⟩⟩
  rw [List.isEmpty_nil, if_pos rfl, hrest, ← List.map_append]
  exact hfields

/-- What means a node somewhere means the same where the node may be absent. -/
theorem Tagged.optional {n : Node} {f : Form} {x : n.Denote} (h : Tagged n f x) :
    Means (.optional (.node n)) f (some x) := by
  intro w hw
  have hmeans := h.means w hw
  obtain ⟨tag, v, before, after, rfl, -⟩ := h w hw
  rw [meaning_entries] at hmeans ⊢
  show (interpret _ (.node n)).map some = _
  rw [hmeans]
  rfl

theorem means_group {g : Group} {ss : List (Slot Form)} {row : Row g.variant.fields}
    (hfits : Fits g.variant.fields ss row) {x : g.Denote} (hx : g.variant.build row = x) :
    Means (.group g) (.object ss) x := by
  intro w hw
  cases hw with
  | object hes hperm =>
    rw [meaning_entries, ← hx]
    exact fields_entries (nodup_groupNames g) hfits hes hperm

/-! ## Fields and slots side by side -/

section

variable {fs : List Field} {ss : List (Slot Form)} {row : Row fs}

theorem fits_nil : Fits [] [] () := rfl

theorem Fits.field {f : Field} {content : Form} {x : f.kind.Denote} (hx : Means f.kind content x)
    (h : Fits fs ss row) : Fits (f :: fs) (⟨f.name, content, f.otherName, false⟩ :: ss) (x, row) :=
  ⟨_, ss, rfl, rfl, rfl, hx, (nomatch ·), h⟩

theorem Fits.absent {n : Node} {name : String} (h : Fits fs ss row) :
    Fits (⟨name, .optional (.node n), none, some none⟩ :: fs) (.absent name :: ss) (none, row) := by
  refine ⟨_, ss, rfl, rfl, rfl, ?_, fun _ => rfl, h⟩
  intro w hw
  cases hw
  rfl

end

/-! ## Trees -/

theorem wordOf_keyword (k : Tree.VarKind) : wordOf .varKind k.keyword = .ok k := by
  cases k <;> rfl

theorem wordOf_binary (op : Tree.BinaryOp) : wordOf .binaryOp op.symbol = .ok op := by
  cases op <;> rfl

theorem wordOf_unary (op : Tree.UnaryOp) : wordOf .unaryOp op.symbol = .ok op := by
  cases op <;> rfl

theorem tagged_literal (l : Tree.Literal) : Tagged .literal l.form l := by
  cases l with
  | number x => exact tagged_node rfl (.field (means_number x) fits_nil) rfl
  | boolean b => exact tagged_node rfl (.field (means_flag b) fits_nil) rfl
  | nil => exact tagged_node rfl fits_nil rfl
  | string s => exact tagged_node rfl (.field (means_text s) fits_nil) rfl
  | symbol s => exact tagged_node rfl (.field (means_text s) fits_nil) rfl

theorem tagged_pattern (p : Tree.Pattern) : Tagged .pattern p.form p := by
  cases p with
  | literal l => exact tagged_node rfl (.field (tagged_literal l).means fits_nil) rfl
  | wildcard => exact tagged_node rfl fits_nil rfl
  | binding s => exact tagged_node rfl (.field (means_text s) fits_nil) rfl

theorem tagged_literalExpr (l : Tree.Literal) : Tagged .expr l.form (.literal l) := by
  cases l with
  | number x => exact tagged_node rfl (.field (means_number x) fits_nil) rfl
  | boolean b => exact tagged_node rfl (.field (means_flag b) fits_nil) rfl
  | nil => exact tagged_node rfl fits_nil rfl
  | string s => exact tagged_node rfl (.field (means_text s) fits_nil) rfl
  | symbol s => exact tagged_node rfl (.field (means_text s) fits_nil) rfl

theorem means_part {content : Form} {k : Kind} {x : k.Denote} {name : String} {p : Tree.Part}
    (hpart : ∀ r : Meaning, r k = .ok x → part (.entries [(name, r)]) = .ok p) (h : Means k content x) :
    Means .part (.object [.field name content]) p := by
  intro w hw
  cases hw with
  | object hes hperm =>
    obtain ⟨v, _, rfl, hv, hrest⟩ := entries_field hes
    cases hrest
    rw [List.perm_singleton.1 hperm.symm, meaning_entries]
    exact hpart _ (h v hv)

theorem means_property {key : String} {value : Tree.Expr} {content : Form} (h : Means (.node .expr) content value)
    (shorthand : Bool) :
    Means (.group .property) (.object [.field "key" (.text key), .field "value" content,
      ⟨"shorthand", .flag shorthand, none, !shorthand⟩]) (⟨key, value, shorthand⟩ : Tree.Property) := by
  have hshorthand : Fits [⟨"shorthand", .flag, none, some false⟩] [⟨"shorthand", .flag shorthand, none, !shorthand⟩]
      (shorthand, ()) := by
    refine ⟨_, [], rfl, rfl, rfl, means_flag shorthand, ?_, fits_nil⟩
    cases shorthand <;> simp
  exact means_group (g := .property) (.field (means_text key) (.field h hshorthand)) rfl

mutual

theorem tagged_expr : (e : Tree.Expr) → Tagged .expr e.form e
  | .conditional test consequent alternate =>
    tagged_node rfl (.field (tagged_expr test).means (.field (tagged_expr consequent).means
      (.field (tagged_expr alternate).means fits_nil))) rfl
  | .binary op left right =>
    tagged_node rfl (.field (means_word _ (wordOf_binary op)) (.field (tagged_expr left).means
      (.field (tagged_expr right).means fits_nil))) rfl
  | .unary op operand =>
    tagged_node rfl (.field (means_word _ (wordOf_unary op)) (.field (tagged_expr operand).means fits_nil)) rfl
  | .call callee args =>
    tagged_node rfl (.field (tagged_expr callee).means (.field (means_list (means_exprs args)) fits_nil)) rfl
  | .member object property =>
    tagged_node rfl (.field (tagged_expr object).means (.field (means_text property) fits_nil)) rfl
  | .index object position =>
    tagged_node rfl (.field (tagged_expr object).means (.field (tagged_expr position).means fits_nil)) rfl
  | .range first last none =>
    tagged_node rfl (.field (tagged_expr first).means (.field (tagged_expr last).means (.absent fits_nil))) rfl
  | .range first last (some step) =>
    tagged_node rfl (.field (tagged_expr first).means (.field (tagged_expr last).means
      (.field (tagged_expr step).optional fits_nil))) rfl
  | .array elements => tagged_node rfl (.field (means_list (means_exprs elements)) fits_nil) rfl
  | .object properties => tagged_node rfl (.field (means_list (means_properties properties)) fits_nil) rfl
  | .identifier name => tagged_node rfl (.field (means_text name) fits_nil) rfl
  | .literal value => tagged_literalExpr value
  | .undefined => tagged_node rfl fits_nil rfl
  | .interpolated parts => tagged_node rfl (.field (means_list (means_parts parts)) fits_nil) rfl

theorem means_exprs : (es : List Tree.Expr) → List.Forall₂ (Means (.node .expr)) (Tree.Expr.forms es) es
  | [] => .nil
  | e :: es => .cons (tagged_expr e).means (means_exprs es)

theorem means_properties : (ps : List Tree.Property) →
    List.Forall₂ (Means (.group .property)) (Tree.Property.forms ps) ps
  | [] => .nil
  | ⟨_, value, shorthand⟩ :: ps => .cons (means_property (tagged_expr value).means shorthand) (means_properties ps)

theorem means_parts : (ps : List Tree.Part) → List.Forall₂ (Means .part) (Tree.Part.forms ps) ps
  | [] => .nil
  | .text text :: ps => .cons (means_part (fun _ h => by simp [part, h, Except.map]) (means_text text)) (means_parts ps)
  | .expr value :: ps =>
    .cons (means_part (fun _ h => by simp [part, h, Except.map]) (tagged_expr value).means) (means_parts ps)

end

theorem means_params (params : List String) : List.Forall₂ (Means .text) (params.map .text) params := by
  rw [List.forall₂_map_left_iff, List.forall₂_same]
  exact fun s _ => means_text s

theorem means_patterns (patterns : List Tree.Pattern) :
    List.Forall₂ (Means (.node .pattern)) (patterns.map Tree.Pattern.form) patterns := by
  rw [List.forall₂_map_left_iff, List.forall₂_same]
  exact fun p _ => (tagged_pattern p).means

theorem means_block {forms : List Form} {body : List Tree.Stmt} (h : List.Forall₂ (Means (.node .stmt)) forms body) :
    Means (.group .block) (.block forms) body :=
  means_group (g := .block) (.field (means_list h) fits_nil) rfl

theorem fits_guard (guard : Option Tree.Expr) {fs : List Field} {ss : List (Slot Form)} {row : Row fs}
    (h : Fits fs ss row) :
    Fits (optionalExprField "guard" :: fs) (.optional "guard" (guard.map Tree.Expr.form) :: ss) (guard, row) := by
  cases guard with
  | none => exact .absent h
  | some e => exact .field (tagged_expr e).optional h

mutual

theorem tagged_stmt : (s : Tree.Stmt) → Tagged .stmt s.form s
  | .declare kind name value =>
    tagged_node rfl (.field (means_word _ (wordOf_keyword kind)) (.field (means_text name)
      (.field (tagged_expr value).means fits_nil))) rfl
  | .function name params body =>
    tagged_node rfl (.field (means_text name) (.field (means_list (means_params params))
      (.field (means_block (means_stmts body)) fits_nil))) rfl
  | .clause c => tagged_node rfl (fits_clause c) (by cases c; rfl)
  | .dispatch name clauses =>
    tagged_node rfl (.field (means_text name) (.field (means_list (means_clauses clauses)) fits_nil)) rfl
  | .branch test consequent none =>
    tagged_node rfl (.field (tagged_expr test).means (.field (means_block (means_stmts consequent))
      (.absent fits_nil))) rfl
  | .branch test consequent (some alternate) =>
    tagged_node rfl (.field (tagged_expr test).means (.field (means_block (means_stmts consequent))
      (.field (tagged_stmt alternate).optional fits_nil))) rfl
  | .unless test consequent =>
    tagged_node rfl (.field (tagged_expr test).means (.field (means_block (means_stmts consequent)) fits_nil)) rfl
  | .ret value => tagged_node rfl (.field (tagged_expr value).means fits_nil) rfl
  | .expr value =>
    tagged_node rfl (.field (tagged_expr value).means fits_nil) rfl
  | .block body => tagged_node rfl (.field (means_list (means_stmts body)) fits_nil) rfl

theorem means_stmts : (ss : List Tree.Stmt) → List.Forall₂ (Means (.node .stmt)) (Tree.Stmt.forms ss) ss
  | [] => .nil
  | s :: ss => .cons (tagged_stmt s).means (means_stmts ss)

theorem fits_clause : (c : Tree.Clause) →
    Fits clauseVariant.fields c.slots (c.name, c.patterns, c.guard, c.body, ())
  | ⟨name, patterns, guard, body⟩ =>
    .field (means_text name) (.field (means_list (means_patterns patterns)) (fits_guard guard
      (.field (means_block (means_stmts body)) fits_nil)))

theorem means_clauses : (cs : List Tree.Clause) → List.Forall₂ (Means (.group .clause)) (Tree.Clause.forms cs) cs
  | [] => .nil
  | c :: cs => .cons (means_group (g := .clause) (fits_clause c) (by cases c; rfl)) (means_clauses cs)

end

end TreeScript.Reading
