/-
  TreeScript.Library.Standard — the library that comes with the compiler.
-/

import TreeScript.Library.Basic

namespace TreeScript.Library

def standardSteps : List Step := [
  .module ⟨"Kernel", "kernel", ["Kernel"], ["RangeLiteral"]⟩,
  .module ⟨"RangeLiteral", "range", ["_Range", "Range"], []⟩,
  .module ⟨"Integer", "integer", ["Integer"], []⟩,
  .module ⟨"String", "str", ["Str"], []⟩,
  .facility "Kernel" "Kernel",
  .facility "Range" "RangeLiteral",
  .facility "Integer" "Integer",
  .facility "String" "String",
  .builtins "Kernel" [
    "print",
    "abs", "div", "rem", "round", "trunc", "max", "min",
    "is_sym", "is_binary", "is_boolean", "is_float", "is_integer", "is_list", "is_map", "is_set",
    "is_object", "is_number", "is_range",
    "and", "or", "not",
    "to_string", "inspect", "length",
    "tap", "then"],
  .builtins "Integer" ["is_even", "is_odd"],
  -- `String` is a global constructor in scripts.
  .spelling "String" "Str"]

def standard : Library := standardSteps.foldl add {}

end TreeScript.Library
