/-
  TreeScript.Proofs.FirstFault — where reading first goes wrong.

  A value is read part by part, so what is wrong with it is what is wrong with the first
  part that cannot be read, or with the value itself. `Comes` follows the reader down to a
  node, past parts that can be read. If the node's tag is no tag there, that is the refusal
  (`Comes.refused`); and every refusal is of this kind or one that names nothing of the
  input but an unknown word or a string (`refused_cases`).
-/

import TreeScript.Proofs.Headers
import TreeScript.Proofs.RoundTrip

namespace TreeScript.Reading

open Json (Layer Value Draft Key draftEntry)
open Lowering (bind_eq_ok)

/-! ## Failing computations -/

section

variable {ε α β : Type}

theorem bind_eq_error {x : Except ε α} {f : α → Except ε β} {e : ε} :
    (x >>= f) = .error e ↔ x = .error e ∨ ∃ a, x = .ok a ∧ f a = .error e := by
  cases x <;> simp [bind, Except.bind]

theorem map_eq_error {x : Except ε α} {f : α → β} {e : ε} : x.map f = .error e ↔ x = .error e := by
  cases x <;> simp [Except.map]

theorem foldlM_eq_error {f : β → α → Except ε β} {xs : List α} {s : β} {e : ε} :
    xs.foldlM f s = .error e ↔
      ∃ before x after t, xs = before ++ x :: after ∧ before.foldlM f s = .ok t ∧ f t x = .error e := by
  constructor
  · intro h
    induction xs generalizing s with
    | nil => cases h
    | cons x xs ih =>
      rw [List.foldlM_cons, bind_eq_error] at h
      rcases h with h | ⟨t, ht, h⟩
      · exact ⟨[], x, xs, s, rfl, rfl, h⟩
      · obtain ⟨before, y, after, t', rfl, hbefore, hy⟩ := ih h
        exact ⟨x :: before, y, after, t', rfl, by rw [List.foldlM_cons]; exact bind_eq_ok.2 ⟨t, ht, hbefore⟩, hy⟩
  · rintro ⟨before, x, after, t, rfl, hbefore, hx⟩
    rw [List.foldlM_append, hbefore]
    show (x :: after).foldlM f t = _
    rw [List.foldlM_cons]
    exact bind_eq_error.2 (.inl hx)

theorem mapM_eq_error {f : α → Except ε β} {xs : List α} {e : ε} :
    xs.mapM f = .error e ↔
      ∃ before x after, xs = before ++ x :: after ∧ (∀ y ∈ before, ∃ z, f y = .ok z) ∧ f x = .error e := by
  induction xs with
  | nil => simp [pure, Except.pure]
  | cons x xs ih =>
    rw [List.mapM_cons, bind_eq_error]
    constructor
    · rintro (h | ⟨z, hz, h⟩)
      · exact ⟨[], x, xs, rfl, by simp, h⟩
      · rcases bind_eq_error.1 h with h | ⟨_, _, h⟩
        · obtain ⟨before, y, after, rfl, hbefore, hy⟩ := ih.1 h
          exact ⟨x :: before, y, after, rfl, List.forall_mem_cons.2 ⟨⟨z, hz⟩, hbefore⟩, hy⟩
        · cases h
    · rintro ⟨before, y, after, hsplit, hbefore, hy⟩
      cases before with
      | nil =>
        obtain ⟨rfl, rfl⟩ := List.cons.inj hsplit
        exact .inl hy
      | cons b before =>
        obtain ⟨rfl, rfl⟩ := List.cons.inj hsplit
        rw [List.forall_mem_cons] at hbefore
        obtain ⟨⟨z, hz⟩, hbefore⟩ := hbefore
        exact .inr ⟨z, hz, bind_eq_error.2 (.inl (ih.2 ⟨before, y, after, rfl, hbefore, hy⟩))⟩

end

/-! ## Values and their parts -/

/-- A value with the meanings of its parts. -/
def layer : Value → Layer Meaning
  | .null => .null
  | .boolean b => .boolean b
  | .number n => .number n
  | .text s => .text s
  | .items vs => .items (vs.map meaning)
  | .entries es => .entries (es.map meaningEntry)

theorem meaning_eq (v : Value) : meaning v = interpret (layer v) := by
  cases v with
  | null | boolean | number | text => rfl
  | items vs => exact meaning_items vs
  | entries es => exact meaning_entries es

def parts : Value → List Value
  | .items vs => vs
  | .entries es => es.map (·.2)
  | _ => []

theorem induction_parts {P : Value → Prop} (h : ∀ v, (∀ u ∈ parts v, P u) → P v) (v : Value) : P v := by
  induction v using Value.ind with
  | null | boolean | number | text => exact h _ (by simp [parts])
  | items vs ih => exact h _ ih
  | entries es ih =>
    refine h _ fun u hu => ?_
    obtain ⟨e, he, rfl⟩ := List.mem_map.1 hu
    exact ih e he

/-! ## Fields -/

namespace Slots

/-- Whether the field at a place has been read. -/
def filled : (fs : List Field) → Slots fs → Nat → Bool
  | [], _, _ => false
  | _ :: _, (slot, _), 0 => slot.isSome
  | _ :: fs, (_, slots), i + 1 => filled fs slots i

/-- The place of the field that an entry goes to. -/
def place? (fs : List Field) (key : String) : Option Nat := fs.findIdx? (·.isCalled key)

theorem filled_empty (fs : List Field) (i : Nat) : filled fs (empty fs) i = false := by
  induction fs generalizing i with
  | nil => rfl
  | cons f fs ih =>
    cases i with
    | zero => rfl
    | succ i => exact ih i

theorem place?_of_called {f : Field} {key : String} (h : f.isCalled key = true) (fs : List Field) :
    place? (f :: fs) key = some 0 := by
  simp [place?, List.findIdx?_cons, h]

theorem place?_of_not_called {f : Field} {key : String} (h : f.isCalled key = false) (fs : List Field) :
    place? (f :: fs) key = (place? fs key).map (· + 1) := by
  simp [place?, List.findIdx?_cons, h]

theorem filled_enter {fs : List Field} {slots t : Slots fs} {e : String × Meaning} (h : enter fs slots e = .ok t)
    (i : Nat) : filled fs t i = (filled fs slots i || place? fs e.1 == some i) := by
  induction fs generalizing i with
  | nil =>
    cases h
    rfl
  | cons f fs ih =>
    obtain ⟨slot, slots⟩ := slots
    rcases enter_cons.1 h with ⟨hcalled, rfl, x, -, rfl⟩ | ⟨hcalled, slots', hslots, rfl⟩
    · rw [place?_of_called hcalled]
      cases i <;> simp [filled]
    · rw [place?_of_not_called hcalled]
      cases i with
      | zero => cases place? fs e.1 <;> simp [filled]
      | succ i =>
        have hrest := ih hslots i
        cases hplace : place? fs e.1 <;> simpa [filled, hplace] using hrest

theorem filled_foldlM {fs : List Field} {slots t : Slots fs} {es : List (String × Meaning)}
    (h : es.foldlM (enter fs) slots = .ok t) (i : Nat) :
    filled fs t i = (filled fs slots i || es.any fun e => place? fs e.1 == some i) := by
  induction es generalizing slots with
  | nil =>
    cases h
    simp
  | cons e es ih =>
    rw [List.foldlM_cons] at h
    obtain ⟨slots₁, he, h⟩ := bind_eq_ok.1 h
    rw [ih h, filled_enter he, List.any_cons, Bool.or_assoc]

/-- An entry is refused for its value, or because its field has been read. -/
theorem enter_eq_error {fs : List Field} {slots : Slots fs} {e : String × Meaning} {c : Mismatch} :
    enter fs slots e = .error c ↔ ∃ i f, place? fs e.1 = some i ∧ fs[i]? = some f ∧
      (filled fs slots i = true ∧ c = .duplicateField f.name ∨ filled fs slots i = false ∧ e.2 f.kind = .error c) := by
  obtain ⟨key, r⟩ := e
  induction fs with
  | nil => simp [enter, place?]
  | cons f fs ih =>
    obtain ⟨slot, slots⟩ := slots
    cases hcalled : f.isCalled key with
    | true =>
      rw [place?_of_called hcalled]
      cases slot with
      | some x =>
        have henter : enter (f :: fs) (some x, slots) (key, r) = .error (.duplicateField f.name) := by
          simp only [enter, hcalled, if_true]
        rw [henter]
        constructor
        · rintro ⟨⟩
          exact ⟨0, f, rfl, rfl, .inl ⟨rfl, rfl⟩⟩
        · rintro ⟨i, g, hi, hg, h⟩
          cases hi
          cases hg
          rcases h with ⟨-, rfl⟩ | ⟨h, -⟩
          · rfl
          · cases h
      | none =>
        have henter : enter (f :: fs) (none, slots) (key, r) = (r f.kind >>= fun x => .ok (some x, slots)) := by
          simp only [enter, hcalled, if_true]
          rfl
        rw [henter, bind_eq_error]
        simp [filled]
    | false =>
      have henter : enter (f :: fs) (slot, slots) (key, r) =
          (enter fs slots (key, r) >>= fun slots => .ok (slot, slots)) := by
        simp only [enter, hcalled]
        rfl
      rw [henter, bind_eq_error, ih, place?_of_not_called hcalled]
      constructor
      · rintro (⟨i, g, hi, hg, h⟩ | ⟨_, _, h⟩)
        · exact ⟨i + 1, g, by rw [hi]; rfl, by simpa using hg, h⟩
        · cases h
      · rintro ⟨i, g, hi, hg, h⟩
        obtain ⟨j, hj, rfl⟩ := Option.map_eq_some_iff.1 hi
        exact .inl ⟨j, g, hj, by simpa using hg, h⟩

theorem row_eq_error {fs : List Field} {slots : Slots fs} {c : Mismatch} (h : row fs slots = .error c) :
    ∃ f ∈ fs, c = .missingField f.name := by
  induction fs with
  | nil => cases h
  | cons f fs ih =>
    obtain ⟨slot, slots⟩ := slots
    rw [row] at h
    split at h
    · rcases bind_eq_error.1 h with h | ⟨_, _, h⟩
      · obtain ⟨g, hg, rfl⟩ := ih h
        exact ⟨g, List.mem_cons_of_mem f hg, rfl⟩
      · cases h
    · cases h
      exact ⟨f, List.mem_cons_self, rfl⟩

end Slots

/-- Reading fields comes to a part of a value, at a place of some kind: what stands before it can be read. -/
inductive Reaches (fs : List Field) : Value → Kind → Value → Prop
  | entry {before after : List (String × Value)} {key : String} {u : Value} {i : Nat} {f : Field} {slots : Slots fs} :
      (before.map meaningEntry).foldlM (Slots.enter fs) (Slots.empty fs) = .ok slots →
      Slots.place? fs key = some i → fs[i]? = some f → (∀ e ∈ before, Slots.place? fs e.1 ≠ some i) →
      Reaches fs (.entries (before ++ (key, u) :: after)) f.kind u
  | item {read : List Field} {f : Field} {unread : List Field} {before after : List Value} {u : Value} :
      fs = read ++ f :: unread → List.Forall₂ (fun f v => ∃ x, meaning v f.kind = .ok x) read before →
      Reaches fs (.items (before ++ u :: after)) f.kind u

theorem Reaches.mem_parts {fs : List Field} {v u : Value} {k : Kind} (h : Reaches fs v k u) : u ∈ parts v := by
  cases h <;> simp [parts]

theorem rowOfItems_eq_error {short : Nat → Mismatch} {fs : List Field} {position : Nat} {vs : List Value} {c : Mismatch}
    (h : rowOfItems short fs position (vs.map meaning) = .error c) :
    (∃ i, c = short i) ∨ ∃ read f unread before u after, fs = read ++ f :: unread ∧ vs = before ++ u :: after ∧
      List.Forall₂ (fun f v => ∃ x, meaning v f.kind = .ok x) read before ∧ meaning u f.kind = .error c := by
  induction fs generalizing position vs with
  | nil => cases h
  | cons f fs ih =>
    cases vs with
    | nil =>
      rw [List.map_nil, rowOfItems] at h
      split at h
      · rcases bind_eq_error.1 h with h | ⟨_, _, h⟩
        · rcases @ih (position + 1) [] h with h | ⟨read, g, unread, before, u, after, -, hvs, -⟩
          · exact .inl h
          · simp at hvs
        · cases h
      · cases h
        exact .inl ⟨position, rfl⟩
    | cons v vs =>
      rw [List.map_cons, rowOfItems] at h
      rcases bind_eq_error.1 h with h | ⟨x, hx, h⟩
      · exact .inr ⟨[], f, fs, [], v, vs, rfl, rfl, .nil, h⟩
      · rcases bind_eq_error.1 h with h | ⟨_, _, h⟩
        · rcases ih h with h | ⟨read, g, unread, before, u, after, rfl, rfl, hbefore, hu⟩
          · exact .inl h
          · exact .inr ⟨f :: read, g, unread, v :: before, u, after, rfl, rfl, .cons ⟨x, hx⟩ hbefore, hu⟩
        · cases h

theorem rowOfItems_of_error {short : Nat → Mismatch} {fs read : List Field} {f : Field} {unread : List Field}
    (hfs : fs = read ++ f :: unread) {before : List Value} {u : Value} {c : Mismatch}
    (hbefore : List.Forall₂ (fun f v => ∃ x, meaning v f.kind = .ok x) read before)
    (hu : meaning u f.kind = .error c) (after : List Value) (position : Nat) :
    rowOfItems short fs position ((before ++ u :: after).map meaning) = .error c := by
  subst hfs
  induction hbefore generalizing position with
  | nil => exact bind_eq_error.2 (.inl hu)
  | cons hv _ ih =>
    obtain ⟨x, hx⟩ := hv
    exact bind_eq_error.2 (.inr ⟨x, hx, bind_eq_error.2 (.inl (ih (position + 1)))⟩)

/-- Whether the texts of a variant can stand in messages. -/
def Variant.isPlain {α : Type} (v : Variant α) : Bool :=
  decide ('\x60' ∉ v.shape.toList) && v.fields.all fun f => decide (Plain f.name.toList)

section

variable {α : Type} {variant : Variant α} {v : Value} {c : Mismatch}

/-- Fields are refused for a part, or for what the variant says of them. -/
theorem fields_eq_error (hplain : variant.isPlain = true) (h : fields variant (layer v) = .error c) :
    c.Ordinary ∨ ∃ k u, Reaches variant.fields v k u ∧ meaning u k = .error c := by
  rw [Variant.isPlain, Bool.and_eq_true, decide_eq_true_eq, List.all_eq_true] at hplain
  obtain ⟨hshape, hnames⟩ := hplain
  have hname : ∀ f ∈ variant.fields, Plain f.name.toList := fun f hf => of_decide_eq_true (hnames f hf)
  cases v with
  | null | boolean | text =>
    cases h
    exact .inl hshape
  | number n =>
    cases h
    exact .inl hshape
  | items vs =>
    rcases bind_eq_error.1 h with h | ⟨⟨row, rest⟩, -, h⟩
    · rcases rowOfItems_eq_error h with ⟨i, rfl⟩ | ⟨read, f, unread, before, u, after, hfs, rfl, hbefore, hu⟩
      · exact .inl hshape
      · exact .inr ⟨f.kind, u, .item hfs hbefore, hu⟩
    · simp only at h
      split at h
      · cases h
      · cases h
        exact .inl trivial
  | entries es =>
    rcases bind_eq_error.1 h with h | ⟨slots, -, h⟩
    · obtain ⟨before, e, after, slots, hsplit, hbefore, he⟩ := foldlM_eq_error.1 h
      obtain ⟨before, rest, rfl, rfl, hrest⟩ := List.map_eq_append_iff.1 hsplit
      obtain ⟨⟨key, u⟩, after, rfl, rfl, rfl⟩ := List.map_eq_cons_iff.1 hrest
      obtain ⟨i, f, hi, hf, ⟨-, rfl⟩ | ⟨hfree, hu⟩⟩ := Slots.enter_eq_error.1 he
      · exact .inl (hname f (List.mem_of_getElem? hf))
      · rw [Slots.filled_foldlM hbefore, Slots.filled_empty, Bool.false_or, List.any_map, List.any_eq_false] at hfree
        refine .inr ⟨f.kind, u, .entry hbefore hi hf ?_, hu⟩
        intro e he heq
        exact hfree e he (beq_iff_eq.2 heq)
    · rcases bind_eq_error.1 h with h | ⟨_, _, h⟩
      · obtain ⟨f, hf, rfl⟩ := Slots.row_eq_error h
        exact .inl (hname f hf)
      · cases h

theorem Reaches.fields_error {k : Kind} {u : Value} (h : Reaches variant.fields v k u) (hu : meaning u k = .error c) :
    fields variant (layer v) = .error c := by
  cases h with
  | @item _ _ _ before after u hfs hbefore => exact bind_eq_error.2 (.inl (rowOfItems_of_error hfs hbefore hu after 0))
  | @entry before after key u i f slots hbefore hi hf hfree =>
    refine bind_eq_error.2 (.inl (foldlM_eq_error.2 ?_))
    refine ⟨before.map meaningEntry, meaningEntry (key, u), after.map meaningEntry, slots, by simp, hbefore, ?_⟩
    refine Slots.enter_eq_error.2 ⟨i, f, hi, hf, .inr ⟨?_, hu⟩⟩
    rw [Slots.filled_foldlM hbefore, Slots.filled_empty, Bool.false_or, List.any_map, List.any_eq_false]
    intro e he heq
    exact hfree e he (beq_iff_eq.1 heq)

end

theorem isPlain_variants (n : Node) : ∀ v ∈ n.variants, v.isPlain = true := by
  cases n <;> decide +kernel

theorem isPlain_groups (g : Group) : g.variant.isPlain = true := by
  cases g <;> decide +kernel

/-! ## Places without nodes -/

theorem ordinary_of_wrong {α β : Type} {layer : Layer α} {wanted : String} {c : Mismatch}
    (h : (wrong layer wanted : Except Mismatch β) = .error c) (hwanted : '\x60' ∉ wanted.toList) : c.Ordinary := by
  cases h
  exact hwanted

theorem leaf_eq_error {k : Kind} (hk : k ∈ [Kind.text, .number, .flag, .unit, .tag]) {v : Value} {c : Mismatch}
    (h : meaning v k = .error c) : c.Ordinary := by
  rw [meaning_eq] at h
  simp only [List.mem_cons, List.not_mem_nil, or_false] at hk
  rcases hk with rfl | rfl | rfl | rfl | rfl
  · cases v with
    | text => cases h
    | null | boolean | number | items | entries => exact ordinary_of_wrong h (by decide)
  · cases v with
    | number => cases h
    | null | boolean | text | items | entries => exact ordinary_of_wrong h (by decide)
  · cases v with
    | boolean => cases h
    | null | number | text | items | entries => exact ordinary_of_wrong h (by decide)
  · match v with
    | .null | .entries [] => cases h
    | .boolean _ | .number _ | .text _ | .items _ | .entries (_ :: _) => exact ordinary_of_wrong h (by decide)
  · match v with
    | .text _ | .number (.integer (.ofNat _)) => cases h
    | .null | .boolean _ | .number (.double _) | .number (.integer (.negSucc _)) | .items _ | .entries _ =>
      exact ordinary_of_wrong h (by decide)

theorem wordOf_eq_error {set : WordSet} {word : String} {c : Mismatch} (h : wordOf set word = .error c) : c.Ordinary := by
  rw [wordOf] at h
  split at h
  · cases h
  · cases h
    exact .inl ⟨set, rfl⟩

theorem word_eq_error {set : WordSet} {v : Value} {c : Mismatch} (h : meaning v (.word set) = .error c) :
    c.Ordinary := by
  rw [meaning_eq] at h
  match v with
  | .text s => exact wordOf_eq_error h
  | .entries [(key, u)] =>
    rcases bind_eq_error.1 h with h | ⟨x, -, h⟩
    · exact wordOf_eq_error h
    rcases bind_eq_error.1 h with h | ⟨_, -, h⟩
    · exact leaf_eq_error (by decide) h
    · cases h
  | .entries [] | .entries (_ :: _ :: _) =>
    cases h
    trivial
  | .null | .boolean _ | .number _ | .items _ => exact ordinary_of_wrong h (by decide)

/-! ## Parts, lists and absent values -/

/-- A part of a string is refused for its expression, if it has one. -/
theorem part_eq_error {v : Value} {c : Mismatch} (h : meaning v .part = .error c) :
    c.Ordinary ∨ ∃ u, v = .entries [("expr", u)] ∧ meaning u (.node .expr) = .error c := by
  rw [meaning_eq] at h
  match v with
  | .text s =>
    have hpart : part (.text s) = .error c := h
    left
    rw [part] at hpart
    split at hpart
    · cases hpart
      show '\x60' ∉ "newtype variant".toList
      decide
    · cases hpart
      exact .inr rfl
  | .entries [(key, u)] =>
    have hpart : part (.entries [(key, meaning u)]) = .error c := h
    rw [part] at hpart
    split at hpart
    · have hu : meaning u .text = .error c := map_eq_error.1 hpart
      exact .inl (leaf_eq_error (by decide) hu)
    split at hpart
    · next hkey =>
      subst hkey
      exact .inr ⟨u, rfl, map_eq_error.1 hpart⟩
    · cases hpart
      exact .inl (.inr rfl)
  | .entries [] | .entries (_ :: _ :: _) =>
    cases h
    exact .inl trivial
  | .null | .boolean _ | .number _ | .items _ => exact .inl (ordinary_of_wrong h (by decide))

/-- A list is refused for its first item that cannot be read. -/
theorem list_eq_error {k : Kind} {v : Value} {c : Mismatch} (h : meaning v (.list k) = .error c) :
    c.Ordinary ∨ ∃ before u after, v = .items (before ++ u :: after) ∧ (∀ x ∈ before, ∃ y, meaning x k = .ok y) ∧
      meaning u k = .error c := by
  rw [meaning_eq] at h
  cases v with
  | null | boolean | number | text | entries => exact .inl (ordinary_of_wrong h (by decide))
  | items vs =>
    have hitems : (vs.map meaning).mapM (fun r => r k) = .error c := h
    obtain ⟨before', r, after', hsplit, hbefore, hr⟩ := mapM_eq_error.1 hitems
    obtain ⟨before, rest, rfl, rfl, hrest⟩ := List.map_eq_append_iff.1 hsplit
    obtain ⟨u, after, rfl, rfl, rfl⟩ := List.map_eq_cons_iff.1 hrest
    exact .inr ⟨before, u, after, rfl, fun x hx => hbefore _ (List.mem_map_of_mem hx), hr⟩

theorem meaning_optional {k : Kind} {v : Value} (hv : v ≠ .null) : meaning v (.optional k) = (meaning v k).map some := by
  rw [meaning_eq]
  cases v with
  | null => exact absurd rfl hv
  | boolean | number | text | items | entries => rfl

/-! ## Nodes -/

/-- A value for a node with a name for its tag. -/
inductive Bears (t : String) : Value → Prop
  | object {before after : List (String × Value)} :
      (∀ e ∈ before, e.1 ≠ tagKey) → Bears t (.entries (before ++ (tagKey, .text t) :: after))
  | list {vs : List Value} : Bears t (.items (.text t :: vs))

/-- A value for a node with the tag of a variant, and what is left of it for the fields. -/
inductive Opens (n : Node) : Value → Variant n.Denote → Value → Prop
  | object {before after : List (String × Value)} {u : Value} {tag : Tag} {v : Variant n.Denote} :
      (∀ e ∈ before ++ after, e.1 ≠ tagKey) → meaning u .tag = .ok tag → variantOf n tag = .ok v →
      Opens n (.entries (before ++ (tagKey, u) :: after)) v (.entries (before ++ after))
  | list {u : Value} {vs : List Value} {tag : Tag} {v : Variant n.Denote} :
      meaning u .tag = .ok tag → variantOf n tag = .ok v → Opens n (.items (u :: vs)) v (.items vs)

theorem variantOf_eq_error {n : Node} {tag : Tag} {c : Mismatch} (h : variantOf n tag = .error c) :
    c.Ordinary ∨ ∃ t, tag = .name t ∧ t ∉ n.tags ∧ c = .unknownVariant t n.tags := by
  cases tag with
  | name t =>
    cases hfind : n.variants.find? (·.tag = t) with
    | some v => simp only [variantOf, hfind] at h; cases h
    | none =>
      simp only [variantOf, hfind] at h
      cases h
      refine .inr ⟨t, rfl, ?_, rfl⟩
      intro ht
      obtain ⟨v, hv, rfl⟩ := List.mem_map.1 ht
      exact absurd (decide_eq_true rfl) (List.find?_eq_none.1 hfind v hv)
  | position i =>
    cases hvariant : n.variants[i]? with
    | some v => simp only [variantOf, hvariant] at h; cases h
    | none =>
      simp only [variantOf, hvariant] at h
      cases h
      exact .inl trivial

theorem variantOf_of_notMem {n : Node} {t : String} (h : t ∉ n.tags) :
    variantOf n (.name t) = .error (.unknownVariant t n.tags) := by
  have hfind : n.variants.find? (·.tag = t) = none := by
    rw [List.find?_eq_none]
    intro v hv heq
    exact h (List.mem_map.2 ⟨v, hv, of_decide_eq_true heq⟩)
  simp only [variantOf, hfind]
  rfl

theorem mem_variants_of_variantOf {n : Node} {tag : Tag} {v : Variant n.Denote} (h : variantOf n tag = .ok v) :
    v ∈ n.variants := by
  cases tag with
  | name t =>
    cases hfind : n.variants.find? (·.tag = t) with
    | some v' =>
      simp only [variantOf, hfind] at h
      cases h
      exact List.mem_of_find?_eq_some hfind
    | none => simp only [variantOf, hfind] at h; cases h
  | position i =>
    cases hvariant : n.variants[i]? with
    | some v' =>
      simp only [variantOf, hvariant] at h
      cases h
      exact List.mem_of_getElem? hvariant
    | none => simp only [variantOf, hvariant] at h; cases h

theorem meaning_tag_eq_name {u : Value} {t : String} (h : meaning u .tag = .ok (.name t)) : u = .text t := by
  rw [meaning_eq] at h
  match u with
  | .text s =>
    cases h
    rfl
  | .null | .boolean _ | .items _ | .entries _ => cases h
  | .number (.double _) => cases h
  | .number (.integer (.ofNat i)) => cases h
  | .number (.integer (.negSucc i)) => cases h

theorem Opens.mem_variants {n : Node} {v rest : Value} {variant : Variant n.Denote} (h : Opens n v variant rest) :
    variant ∈ n.variants := by
  cases h with
  | object _ _ hv => exact mem_variants_of_variantOf hv
  | list _ hv => exact mem_variants_of_variantOf hv

theorem Opens.subset_parts {n : Node} {v rest : Value} {variant : Variant n.Denote} (h : Opens n v variant rest) :
    parts rest ⊆ parts v := by
  cases h with
  | @object before after u =>
    intro x hx
    simp only [parts, List.map_append, List.map_cons, List.mem_append, List.mem_cons] at hx ⊢
    tauto
  | list => exact List.subset_cons_self _ _

/-- With a variant's tag, what a value means is up to its fields. -/
theorem Opens.meaning_eq {n : Node} {v rest : Value} {variant : Variant n.Denote} (h : Opens n v variant rest) :
    meaning v (.node n) = fields variant (layer rest) := by
  cases h with
  | @object before after u tag _ hother htag hv =>
    have hother' : ∀ e ∈ before.map meaningEntry ++ after.map meaningEntry, e.1 ≠ tagKey := by
      rw [← List.map_append]
      intro e he
      obtain ⟨e', he', rfl⟩ := List.mem_map.1 he
      exact hother e' he'
    obtain ⟨hfilter, hrest⟩ := filter_tag hother' (meaning u)
    rw [meaning_entries, List.map_append, List.map_cons]
    show node n (.entries (before.map meaningEntry ++ (tagKey, meaning u) :: after.map meaningEntry)) = _
    simp only [node, hfilter, htag, bind, Except.bind, hv, List.isEmpty_nil, if_true, hrest, ← List.map_append]
    rfl
  | @list u vs tag _ htag hv =>
    rw [meaning_items, List.map_cons]
    show node n (.items (meaning u :: vs.map meaning)) = _
    simp only [node, htag, bind, Except.bind, hv]
    rfl

/-- A node is refused for its tag, or for its fields. -/
theorem node_eq_error {n : Node} {v : Value} {c : Mismatch} (h : meaning v (.node n) = .error c) :
    c.Ordinary ∨ (∃ t, Bears t v ∧ t ∉ n.tags ∧ c = .unknownVariant t n.tags) ∨
      ∃ variant rest, Opens n v variant rest ∧ fields variant (layer rest) = .error c := by
  -- what is wrong with a tag that can be read
  have htagged : ∀ {u : Value} {tag : Tag}, meaning u .tag = .ok tag → variantOf n tag = .error c →
      (∀ t, u = .text t → Bears t v) → c.Ordinary ∨ ∃ t, Bears t v ∧ t ∉ n.tags ∧ c = .unknownVariant t n.tags := by
    intro u tag htag hvariant hbears
    rcases variantOf_eq_error hvariant with h | ⟨t, rfl, ht, rfl⟩
    · exact .inl h
    · exact .inr ⟨t, hbears t (meaning_tag_eq_name htag), ht, rfl⟩
  have hmissing : (Mismatch.missingField tagKey).Ordinary := by
    show Plain tagKey.toList
    decide
  have hwhole := h
  rw [meaning_eq] at h
  cases v with
  | null | boolean | number | text =>
    cases h
    left
    show '\x60' ∉ ("internally tagged enum " ++ n.name).toList
    cases n <;> decide
  | items vs =>
    cases vs with
    | nil =>
      cases h
      exact .inl hmissing
    | cons u vs =>
      rcases bind_eq_error.1 h with h | ⟨tag, htag, h⟩
      · exact .inl (leaf_eq_error (by decide) h)
      rcases bind_eq_error.1 h with h | ⟨variant, hvariant, h⟩
      · rcases htagged htag h (by rintro t rfl; exact .list) with h | h
        · exact .inl h
        · exact .inr (.inl h)
      · exact .inr (.inr ⟨variant, .items vs, .list htag hvariant, h⟩)
  | entries es =>
    have hnode : node n (.entries (es.map meaningEntry)) = .error c := h
    rw [node] at hnode
    cases hfilter : (es.map meaningEntry).filter (·.1 = tagKey) with
    | nil =>
      rw [hfilter] at hnode
      cases hnode
      exact .inl hmissing
    | cons e more =>
      obtain ⟨before', after', hsplit, hbefore, htag, hmore⟩ := List.filter_eq_cons_iff.1 hfilter
      obtain ⟨before, rest, rfl, rfl, hrest⟩ := List.map_eq_append_iff.1 hsplit
      obtain ⟨⟨key, u⟩, after, rfl, rfl, rfl⟩ := List.map_eq_cons_iff.1 hrest
      obtain rfl : key = tagKey := of_decide_eq_true htag
      have hbefore : ∀ e ∈ before, e.1 ≠ tagKey := by
        intro e he heq
        exact hbefore (meaningEntry e) (List.mem_map_of_mem he) (decide_eq_true heq)
      rw [hfilter] at hnode
      rcases bind_eq_error.1 hnode with h | ⟨tag, htag, h⟩
      · exact .inl (leaf_eq_error (by decide) h)
      rcases bind_eq_error.1 h with h | ⟨variant, hvariant, h⟩
      · rcases htagged htag h (by rintro t rfl; exact .object hbefore) with h | h
        · exact .inl h
        · exact .inr (.inl h)
      · cases more with
        | cons e' more =>
          cases h
          exact .inl hmissing
        | nil =>
          have hafter : ∀ e ∈ after, e.1 ≠ tagKey := by
            intro e he heq
            exact List.filter_eq_nil_iff.1 hmore (meaningEntry e) (List.mem_map_of_mem he) (decide_eq_true heq)
          have hopens := Opens.object (List.forall_mem_append.2 ⟨hbefore, hafter⟩) htag hvariant
          exact .inr (.inr ⟨variant, _, hopens, hopens.meaning_eq.symm.trans hwhole⟩)

theorem Bears.node_error {n : Node} {v : Value} {t : String} (h : Bears t v) (ht : t ∉ n.tags) :
    meaning v (.node n) = .error (.unknownVariant t n.tags) := by
  cases h with
  | @object before after hbefore =>
    have hfilter : (before.map meaningEntry).filter (·.1 = tagKey) = [] := by
      rw [List.filter_eq_nil_iff]
      intro e he heq
      obtain ⟨e', he', rfl⟩ := List.mem_map.1 he
      exact hbefore e' he' (of_decide_eq_true heq)
    have hfirst : ((before ++ (tagKey, .text t) :: after).map meaningEntry).filter (·.1 = tagKey) =
        (tagKey, meaning (.text t)) :: (after.map meaningEntry).filter (·.1 = tagKey) := by
      rw [List.map_append, List.filter_append, hfilter]
      simp [meaningEntry]
    rw [meaning_entries]
    show node n _ = _
    rw [node, hfirst]
    exact bind_eq_error.2 (.inr ⟨.name t, rfl, bind_eq_error.2 (.inl (variantOf_of_notMem ht))⟩)
  | list =>
    rw [meaning_items]
    exact bind_eq_error.2 (.inr ⟨.name t, rfl, bind_eq_error.2 (.inl (variantOf_of_notMem ht))⟩)

/-! ## Values -/

/-- Reading `v` at a place comes to `w` at a place for the node `n`: what stands before it can be read. -/
inductive Comes (n : Node) (w : Value) : Kind → Value → Prop
  | here : Comes n w (.node n) w
  | optional {k : Kind} {v : Value} : v ≠ .null → Comes n w k v → Comes n w (.optional k) v
  | item {k : Kind} {before after : List Value} {v : Value} :
      (∀ u ∈ before, ∃ x, meaning u k = .ok x) → Comes n w k v → Comes n w (.list k) (.items (before ++ v :: after))
  | part {v : Value} : Comes n w (.node .expr) v → Comes n w .part (.entries [("expr", v)])
  | node {m : Node} {v rest u : Value} {variant : Variant m.Denote} {k : Kind} :
      Opens m v variant rest → Reaches variant.fields rest k u → Comes n w k u → Comes n w (.node m) v
  | group {g : Group} {v u : Value} {k : Kind} :
      Reaches g.variant.fields v k u → Comes n w k u → Comes n w (.group g) v

/-- If the first node that reading comes to has an unknown tag, that is the refusal. -/
theorem Comes.refused {n : Node} {v w : Value} {k : Kind} (h : Comes n w k v) {t : String} (hw : Bears t w)
    (ht : t ∉ n.tags) : meaning v k = .error (.unknownVariant t n.tags) := by
  induction h with
  | here => exact hw.node_error ht
  | optional hv _ ih =>
    rw [meaning_optional hv]
    exact map_eq_error.2 ih
  | @item k before after v hbefore _ ih =>
    rw [meaning_items]
    refine mapM_eq_error.2 ⟨before.map meaning, meaning v, after.map meaning, by simp, ?_, ih⟩
    intro r hr
    obtain ⟨u, hu, rfl⟩ := List.mem_map.1 hr
    exact hbefore u hu
  | part _ ih =>
    rw [meaning_entries]
    exact map_eq_error.2 ih
  | node hopens hreaches _ ih =>
    rw [hopens.meaning_eq]
    exact hreaches.fields_error ih
  | group hreaches _ ih =>
    rw [meaning_eq]
    exact hreaches.fields_error ih

/-- A refusal is ordinary, or for the first node that reading comes to with an unknown tag. -/
theorem meaning_eq_error {v : Value} {k : Kind} {c : Mismatch} (h : meaning v k = .error c) :
    c.Ordinary ∨ ∃ n w t, Comes n w k v ∧ Bears t w ∧ t ∉ n.tags ∧ c = .unknownVariant t n.tags := by
  induction v using induction_parts generalizing k c with
  | h v ih =>
  -- a refusal of fields is a refusal of a part
  have hfields : ∀ {α : Type} {variant : Variant α} {rest : Value}, variant.isPlain = true → parts rest ⊆ parts v →
      fields variant (layer rest) = .error c → c.Ordinary ∨
        ∃ n w t k' u, Reaches variant.fields rest k' u ∧ Comes n w k' u ∧ Bears t w ∧ t ∉ n.tags ∧
          c = .unknownVariant t n.tags := by
    intro α variant rest hplain hparts h
    rcases fields_eq_error hplain h with h | ⟨k', u, hreaches, hu⟩
    · exact .inl h
    · rcases ih u (hparts hreaches.mem_parts) hu with h | ⟨n, w, t, hcomes, h⟩
      · exact .inl h
      · exact .inr ⟨n, w, t, k', u, hreaches, hcomes, h⟩
  induction k with
  | text | number | flag | unit | tag => exact .inl (leaf_eq_error (by decide) h)
  | word set => exact .inl (word_eq_error h)
  | part =>
    rcases part_eq_error h with h | ⟨u, rfl, hu⟩
    · exact .inl h
    · rcases ih u List.mem_cons_self hu with h | ⟨n, w, t, hcomes, h⟩
      · exact .inl h
      · exact .inr ⟨n, w, t, .part hcomes, h⟩
  | node m =>
    rcases node_eq_error h with h | ⟨t, hbears, ht, rfl⟩ | ⟨variant, rest, hopens, h⟩
    · exact .inl h
    · exact .inr ⟨m, v, t, .here, hbears, ht, rfl⟩
    · rcases hfields (isPlain_variants m variant hopens.mem_variants) hopens.subset_parts h with
        h | ⟨n, w, t, k', u, hreaches, hcomes, h⟩
      · exact .inl h
      · exact .inr ⟨n, w, t, .node hopens hreaches hcomes, h⟩
  | group g =>
    rw [meaning_eq] at h
    rcases hfields (isPlain_groups g) (List.Subset.refl _) h with h | ⟨n, w, t, k', u, hreaches, hcomes, h⟩
    · exact .inl h
    · exact .inr ⟨n, w, t, .group hreaches hcomes, h⟩
  | list k _ =>
    rcases list_eq_error h with h | ⟨before, u, after, rfl, hbefore, hu⟩
    · exact .inl h
    · rcases ih u (by simp [parts]) hu with h | ⟨n, w, t, hcomes, h⟩
      · exact .inl h
      · exact .inr ⟨n, w, t, .item hbefore hcomes, h⟩
  | optional k ihk =>
    by_cases hnull : v = .null
    · subst hnull
      cases h
    · rw [meaning_optional hnull] at h
      rcases ihk (map_eq_error.1 h) with h | ⟨n, w, t, hcomes, h⟩
      · exact .inl h
      · exact .inr ⟨n, w, t, .optional hnull hcomes, h⟩

end TreeScript.Reading
