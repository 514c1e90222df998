/-
  TreeScript.Proofs.Capture — names of the library and names of the program.

  A script binds the exports of the modules that it needs, and refers to them by names that
  the program did not choose: the object that a built-in is called on, the constructor of
  ranges, and what a free name of a facility is spelled. Lowering does not ask whether the
  program has declared these names too. So such a name refers to the import if and only if
  no declaration of the program by that name holds where it is written, and the imports
  share the top level with the program's own declarations if and only if no name is both.
-/

import TreeScript.Proofs.Closure
import TreeScript.Proofs.References

namespace TreeScript

/-! ## Imports -/

namespace Script

def Program.imported (p : Program) : List String := p.imports.flatMap Import.names

/-- Whether the top level of a program declares no name twice. An import declares its names as constants. -/
def Program.declaresOnce (p : Program) : Bool :=
  declaredOnce (p.imported ++ p.body.filterMap Stmt.let?) (p.body.filterMap Stmt.function? ++ vars p.body)

/-- A reference to an import: nothing that the script declares has its name. -/
def Program.Imports (p : Program) (r : Reference) : Prop := r.name ∈ p.imported ∧ r.name ∉ r.visible

theorem declaredOnce_append {names names' others : List String} (h : names.Nodup) :
    declaredOnce (names ++ names') others = true ↔
      declaredOnce names' others = true ∧ ∀ x ∈ names, x ∉ names' ∧ x ∉ others := by
  simp only [declaredOnce, decide_eq_true_eq, List.nodup_append, List.mem_append]
  constructor
  · rintro ⟨⟨-, hnames', hapart⟩, hothers⟩
    exact ⟨⟨hnames', fun x hx => hothers x (.inr hx)⟩,
      fun x hx => ⟨fun hx' => hapart x hx x hx' rfl, hothers x (.inl hx)⟩⟩
  · rintro ⟨⟨hnames', hothers⟩, hapart⟩
    refine ⟨⟨h, hnames', fun x hx y hy heq => (hapart x hx).1 (heq ▸ hy)⟩, fun x hx => ?_⟩
    rcases hx with hx | hx
    · exact (hapart x hx).2
    · exact hothers x hx

theorem mem_lexicals {body : List Stmt} {x : String} :
    x ∈ lexicals body ↔ x ∈ body.filterMap Stmt.let? ∨ x ∈ body.filterMap Stmt.function? := by
  have hlexical (t : Stmt) : t.lexical? = some x ↔ t.let? = some x ∨ t.function? = some x := by
    cases t with
    | declare kind name value => cases kind <;> simp [Stmt.lexical?, Stmt.let?, Stmt.function?]
    | _ => simp [Stmt.lexical?, Stmt.let?, Stmt.function?]
  simp only [lexicals, List.mem_filterMap, hlexical, and_or_left, exists_or]

/-- The imports share the top level with the program's own declarations, if no name is both. -/
theorem Program.declaresOnce_iff {p : Program} (h : p.imported.Nodup) :
    p.declaresOnce = true ↔
      (Program.mk [] p.body).declaresOnce = true ∧ ∀ x ∈ p.imported, x ∉ lexicals p.body ∧ x ∉ vars p.body := by
  unfold declaresOnce
  rw [declaredOnce_append h]
  refine and_congr_right' (forall₂_congr fun x _ => ?_)
  rw [mem_lexicals, List.mem_append]
  tauto

end Script

namespace Library

/-- The names that a module exports; none if there is no such module. -/
def exportsOf (lib : Library) (key : String) : List String := ((lib.module? key).map Module.exports).getD []

theorem exports_iff_mem {lib : Library} {key x : String} : lib.exports key x = true ↔ x ∈ lib.exportsOf key := by
  unfold exports exportsOf
  cases lib.module? key <;> simp

/-- No name is exported twice. -/
structure Unambiguous (lib : Library) : Prop where
  nodup : ∀ e ∈ lib.modules, e.2.exports.Nodup
  apart : ∀ e ∈ lib.modules, ∀ e' ∈ lib.modules, ∀ x ∈ e.2.exports, x ∈ e'.2.exports → e.1 = e'.1

theorem unambiguous_standard : standard.Unambiguous := ⟨by decide, by decide⟩

theorem mem_exportsOf {lib : Library} {key x : String} (h : x ∈ lib.exportsOf key) :
    ∃ m, (key, m) ∈ lib.modules ∧ x ∈ m.exports := by
  obtain ⟨m, hm, hx⟩ := exports_iff.1 (exports_iff_mem.2 h)
  exact ⟨m, mem_of_lookup hm, hx⟩

theorem Unambiguous.nodup_flatMap {lib : Library} (hlib : lib.Unambiguous) {keys : List String} (h : keys.Nodup) :
    (keys.flatMap lib.exportsOf).Nodup := by
  refine List.nodup_flatMap.2 ⟨?_, ?_⟩
  · intro key _
    unfold exportsOf
    cases hm : lib.module? key with
    | none => exact List.nodup_nil
    | some m => exact hlib.nodup _ (mem_of_lookup hm)
  · refine h.imp ?_
    intro key key' hne x hx hx'
    obtain ⟨m, hm, hxm⟩ := mem_exportsOf hx
    obtain ⟨m', hm', hxm'⟩ := mem_exportsOf hx'
    exact hne (hlib.apart _ hm _ hm' x hxm hxm')

/-- What a name of a facility is spelled in a context that does not bind it. -/
def free? (lib : Library) (ctx : Tree.Context) (name : String) : Option String :=
  if name ∉ ctx.bound ∧ lib.facility? name ≠ none then some (lib.spelling name) else none

/-- The name of the library that lowering writes for a mention in a context: the object that a built-in is called
on, the constructor of ranges, or what a free name of a facility is spelled. -/
def runtime? (lib : Library) (ctx : Tree.Context) : Tree.Mention → Option String
  | .identifier name => lib.free? ctx name
  | .called name => ((lib.builtinOwner? name).map lib.spelling).or (lib.free? ctx name)
  | .range => some "_Range"
  | .fixed _ => none

theorem spelled_of_free? {lib : Library} {ctx : Tree.Context} {name x : String} (h : lib.free? ctx name = some x) :
    (Scope.mk lib ctx.bound).spelled name = x := by
  unfold free? at h
  split at h
  · rename_i hfree
    cases h
    exact if_neg hfree.1
  · cases h

theorem written_of_runtime? {lib : Library} {ctx : Tree.Context} {mention : Tree.Mention} {x : String}
    (h : lib.runtime? ctx mention = some x) : mention.written ⟨lib, ctx.bound⟩ = x := by
  cases mention with
  | identifier name => exact spelled_of_free? h
  | called name =>
    cases howner : lib.builtinOwner? name with
    | none =>
      rw [runtime?, howner] at h
      simpa [Tree.Mention.written, howner] using spelled_of_free? h
    | some owner =>
      rw [runtime?, howner] at h
      cases h
      simp [Tree.Mention.written, howner]
  | range =>
    cases h
    rfl
  | fixed name => cases h

/-- A name of the library is exported by a module that is called for by the node that the mention stands for. -/
theorem calls_of_runtime? {lib : Library} (hlib : lib.Coherent) {ctx : Tree.Context} {mention : Tree.Mention}
    {x : String} (h : lib.runtime? ctx mention = some x) :
    ∃ key m, x ∈ lib.exportsOf key ∧ mention.source? = some m ∧
      ∀ n : Tree.Node, n.source? = some m → key ∈ lib.calls n := by
  have hidentifier {name key : String} (hkey : lib.nameModule? (.identifier name) = some key) (n : Tree.Node)
      (hn : n.source? = some (.identifier name)) : key ∈ lib.calls n := by
    cases n with
    | stmt s => cases hn
    | expr e =>
      cases e with
      | identifier name' =>
        cases hn
        simp [calls, hkey]
      | _ => cases hn
  have hfacility {ctx : Tree.Context} {name : String} (hfree : lib.free? ctx name = some x) :
      ∃ key, x ∈ lib.exportsOf key ∧ lib.nameModule? (.identifier name) = some key := by
    unfold free? at hfree
    split at hfree
    · rename_i hfree'
      cases hfree
      obtain ⟨key, hkey⟩ := Option.ne_none_iff_exists'.1 hfree'.2
      obtain ⟨hbuiltin, hexports⟩ := hlib.facilities _ (mem_of_lookup hkey)
      exact ⟨key, exports_iff_mem.1 hexports, by simp [nameModule?, hbuiltin, hkey]⟩
    · cases hfree
  cases mention with
  | identifier name =>
    obtain ⟨key, hx, hkey⟩ := hfacility h
    exact ⟨key, _, hx, rfl, hidentifier hkey⟩
  | called name =>
    cases howner : lib.builtinOwner? name with
    | none =>
      rw [runtime?, howner] at h
      obtain ⟨key, hx, hkey⟩ := hfacility h
      exact ⟨key, _, hx, rfl, hidentifier hkey⟩
    | some owner =>
      rw [runtime?, howner] at h
      cases h
      refine ⟨owner, _, exports_iff_mem.1 (hlib.builtins _ (mem_of_lookup howner)), rfl, hidentifier ?_⟩
      simp [nameModule?, howner]
  | range =>
    cases h
    refine ⟨"RangeLiteral", _, exports_iff_mem.1 hlib.range, rfl, ?_⟩
    obtain ⟨m, hm, -⟩ := exports_iff.1 hlib.range
    intro n hn
    cases n with
    | stmt s => cases hn
    | expr e =>
      cases e with
      | range first last step => simp [calls, nodeModule?, Tree.Expr.kind, hm]
      | _ => cases hn
  | fixed name => cases h

end Library

namespace Lowering

section Compiled

variable {lib : Library} {p : Tree.Program} {out : Output}

theorem imported_eq (h : compile lib p = .ok out) : out.script.imported = out.modules.flatMap lib.exportsOf := by
  obtain ⟨-, -, himports⟩ := compile_eq_ok h
  rw [Script.Program.imported, himports]
  induction out.modules with
  | nil => rfl
  | cons key keys ih =>
    rw [List.flatMap_cons, ← ih]
    cases hm : lib.module? key with
    | none => simp [hm, Library.exportsOf]
    | some m => simp [hm, Library.exportsOf, Library.Module.binding]

theorem mem_imported_of_runtime? (hlib : lib.Coherent) (h : compile lib p = .ok out) {o : Tree.Occurrence} {x : String}
    (ho : o ∈ p.occurrences) (hx : lib.runtime? o.context o.mention = some x) : x ∈ out.script.imported := by
  obtain ⟨-, hmodules, -⟩ := compile_eq_ok h
  obtain ⟨key, m, hkey, hm, hcalls⟩ := Library.calls_of_runtime? hlib hx
  have hsource : m ∈ Tree.nodeSources (Tree.Stmt.nodesAll p.gathered.body) := by
    rw [← Tree.Stmt.sources_occurrencesAll]
    exact List.mem_filterMap.2 ⟨o, ho, hm⟩
  obtain ⟨n, hn, hm'⟩ := List.mem_filterMap.1 hsource
  have hused : key ∈ lib.used p.gathered := Library.mem_used.2 ⟨n, hn, hcalls n hm'⟩
  rw [imported_eq h, hmodules]
  exact List.mem_flatMap.2 ⟨key, Library.used_subset_needed _ _ hused, hkey⟩

theorem nodup_imported (hlib : lib.Unambiguous) (h : compile lib p = .ok out) : out.script.imported.Nodup := by
  obtain ⟨-, hmodules, -⟩ := compile_eq_ok h
  rw [imported_eq h, hmodules]
  exact hlib.nodup_flatMap (Library.nodup_closure _ _)

theorem mem_declarations (h : compile lib p = .ok out) {x : String} :
    x ∈ Script.lexicals out.script.body ∨ x ∈ Script.vars out.script.body ↔
      x ∈ declared p.body ∨ x ∈ Tree.Stmt.hoistedAll p.body := by
  obtain ⟨hvars, hlexicals⟩ := declares_stmts _ _ (compile_eq_ok h).1
  rw [hvars, hlexicals]
  exact Tree.mem_top

end Compiled

theorem ne_argument_of_take {x : String} (h : x.toList.take 4 ≠ "_arg".toList) (i : Nat) : x ≠ argument i := by
  rintro rfl
  exact h (by simp [argument])

/-- No module of the library exports a name that dispatchers have for a parameter. -/
theorem standard_ne_argument {key x : String} (h : x ∈ Library.standard.exportsOf key) (i : Nat) : x ≠ argument i := by
  have hall : ∀ e ∈ Library.standard.modules, ∀ x ∈ e.2.exports, x.toList.take 4 ≠ "_arg".toList := by decide
  obtain ⟨m, hm, hx⟩ := Library.mem_exportsOf h
  exact ne_argument_of_take (hall _ hm x hx) i

theorem mem_visible_of_imported {p : Tree.Program} {out : Output} (h : compile .standard p = .ok out)
    {x : String} (hx : x ∈ out.script.imported) (ctx : Tree.Context) : x ∈ ctx.visible ↔ x ∈ ctx.scope := by
  rw [imported_eq h] at hx
  obtain ⟨key, -, hkey⟩ := List.mem_flatMap.1 hx
  rw [Tree.Context.mem_visible]
  refine or_iff_left ?_
  rintro ⟨f, -, hf⟩
  cases f with
  | dispatcher clauses =>
    obtain ⟨i, -, rfl⟩ := List.mem_map.1 hf
    exact standard_ne_argument hkey i rfl
  | _ => cases hf

end Lowering

/-- The imports of a compiled program share its top level with what the program declares there if and only if no
name is both. Every name of the library that lowering writes is imported, and it refers to the import if and only if
no declaration of the program by that name holds where it is written. -/
theorem imports_captured_iff (p : Tree.Program) (out : Lowering.Output) (h : compileWith .standard p = .ok out) :
    (out.script.declaresOnce = true ↔
        (Script.Program.mk [] out.script.body).declaresOnce = true ∧
          ∀ x ∈ out.script.imported, x ∉ Lowering.declared p.body ∧ x ∉ Tree.Stmt.hoistedAll p.body) ∧
      ∀ (i : Nat) (o : Tree.Occurrence) (x : String), p.occurrences[i]? = some o →
        Library.standard.runtime? o.context o.mention = some x →
        ∃ r : Script.Reference, out.script.references[i]? = some r ∧ r.name = x ∧ x ∈ out.script.imported ∧
          (out.script.Imports r ↔ x ∉ o.context.scope) := by
  have hcompile := Lowering.mapError_eq_ok.1 h
  constructor
  · rw [Script.Program.declaresOnce_iff (Lowering.nodup_imported Library.unambiguous_standard hcompile)]
    refine and_congr_right' (forall₂_congr fun x _ => ?_)
    rw [← not_or, ← not_or, Lowering.mem_declarations hcompile]
  · intro i o x ho hx
    have himported := Lowering.mem_imported_of_runtime? Library.coherent_standard hcompile (List.mem_of_getElem? ho) hx
    have hname : (o.reference .standard).name = x := Library.written_of_runtime? hx
    refine ⟨o.reference .standard, ?_, hname, himported, ?_⟩
    · rw [Lowering.references_compile hcompile, List.getElem?_map, ho, Option.map_some]
    · rw [Script.Program.Imports, hname, and_iff_right himported]
      exact not_congr (Lowering.mem_visible_of_imported hcompile himported o.context)

/-- A built-in and a range under a parameter that has the name of another module. -/
def uncaptured : Tree.Program := ⟨[
  .function "f" ["Integer"] [
    .expr (.call (.identifier "print") [.range (.identifier "Integer") (.identifier "String") none])]]⟩

theorem imports_captured_iff_uncaptured : ∃ out, compileWith .standard uncaptured = .ok out ∧
    out.script.declaresOnce = true ∧ out.script.references.map (·.name) = ["Kernel", "_Range", "Integer", "Str"] ∧
    ∃ r : Script.Reference, out.script.references[1]? = some r ∧ r.name = "_Range" ∧ out.script.Imports r := by
  refine ⟨_, rfl, ?_, by decide, ?_⟩
  · exact (imports_captured_iff uncaptured _ rfl).1.2 (by decide +kernel)
  · obtain ⟨r, hr, hname, -, himports⟩ := (imports_captured_iff uncaptured _ rfl).2 1 _ "_Range" rfl rfl
    exact ⟨r, hr, hname, himports.2 (by decide)⟩

/-- A constant and a parameter with the names of the modules that two calls go to. -/
def capturing : Tree.Program := ⟨[
  .declare .const "Integer" .undefined,
  .function "f" ["Kernel"] [
    .expr (.call (.identifier "print") [.call (.identifier "is_even") [.identifier "Kernel"]])]]⟩

theorem import_captured_by_a_parameter : ∃ (out : Lowering.Output) (o : Tree.Occurrence) (r : Script.Reference),
    compileWith .standard capturing = .ok out ∧
    (Script.Program.mk [] out.script.body).declaresOnce = true ∧ out.script.declaresOnce = false ∧
    "Integer" ∈ out.script.imported ∧ "Integer" ∈ Lowering.declared capturing.body ∧
    capturing.occurrences[0]? = some o ∧ out.script.references[0]? = some r ∧
    Library.standard.runtime? o.context o.mention = some "Kernel" ∧ r.name = "Kernel" ∧
    "Kernel" ∈ out.script.imported ∧ "Kernel" ∈ r.visible :=
  ⟨_, _, _, rfl, by decide, by decide +kernel, by decide +kernel, by decide, rfl, rfl, rfl, rfl, by decide +kernel,
    by decide⟩

end TreeScript
