import BuildVariants.Config.Reading

/-!
# Layers in any grouping

To lay one configuration over another is associative, and the configuration that says
nothing changes nothing, above or below. So a stack of layers comes to the same
however it is grouped (`Stack.merged_eq`): what counts is which layers there are and
their order. The layers of files are such a stack (`ofFiles_eq`).

The format is part of this. That lines count as silence makes them the neutral
element among the formats, just as absence is among texts.
-/

namespace BuildVariants.Config

/-! ## Two and three layers -/

/-- Formats are laid over each other in any grouping. -/
theorem format_assoc (lower middle upper : OutputFormat) :
    (if upper = .lines then (if middle = .lines then lower else middle) else upper)
      = if (if upper = .lines then middle else upper) = .lines then lower
        else if upper = .lines then middle else upper := by
  cases upper <;> rfl

/-- **Layers are merged in any grouping.** -/
theorem merge_assoc (lower middle upper : Config) :
    (lower.merge middle).merge upper = lower.merge (middle.merge upper) := by
  simp only [merge, Config.mk.injEq, Option.or_assoc, NameMap.overlay_assoc, true_and]
  exact format_assoc lower.format middle.format upper.format

/-- What is laid over nothing stays as it is. -/
theorem default_merge (config : Config) : default.merge config = config := by
  obtain ⟨⟨compiler, buildType, version, target⟩, variants, format⟩ := config
  have hformat : (if format = .lines then .lines else format) = format := by
    cases format <;> rfl
  simp only [merge, default, Option.or_none, NameMap.empty_overlay, hformat]

/-- Nothing, laid over a configuration, leaves it as it is. -/
theorem merge_default (config : Config) : config.merge default = config := by
  simp only [merge, default, Option.none_or, NameMap.overlay_empty, if_true]

instance : Std.Associative merge := ⟨merge_assoc⟩

instance : Std.LawfulIdentity merge default where
  left_id := default_merge
  right_id := merge_default

/-! ## Stacks of layers -/

/-- Configurations that are put together two by two, in some grouping. -/
inductive Stack
  /-- No layer at all. -/
  | nothing
  | layer (config : Config)
  | join (lower upper : Stack)

namespace Stack

/-- The layers of a stack, the lowest first. -/
def layers : Stack → List Config
  | nothing => []
  | layer config => [config]
  | join lower upper => lower.layers ++ upper.layers

/-- What a stack comes to, merged as it is grouped. -/
def merged : Stack → Config
  | nothing => default
  | layer config => config
  | join lower upper => lower.merged.merge upper.merged

end Stack

/-- Layers on top of a configuration can be merged first. -/
theorem foldl_merge (config : Config) (layers : List Config) :
    layers.foldl merge config = config.merge (layers.foldl merge default) :=
  calc layers.foldl merge config
    _ = layers.foldl merge (config.merge default) := by rw [merge_default]
    _ = config.merge (layers.foldl merge default) := List.foldl_assoc

/-- **A stack comes to the same in every grouping**: its layers, merged one after the
other. -/
theorem Stack.merged_eq (stack : Stack) : stack.merged = stack.layers.foldl merge default := by
  induction stack with
  | nothing => rfl
  | layer config => exact (default_merge config).symm
  | join lower upper ihlower ihupper =>
    rw [merged, layers, List.foldl_append, foldl_merge, ihlower, ihupper]

/-! ## Layers of files -/

/-- The layers of files are merged one after the other. -/
theorem ofFiles_eq (files : Files) (paths : List String) :
    ofFiles files paths = (paths.map (layer files)).foldl merge default :=
  List.foldl_map.symm

/-- The layers of some files, and of more files over them. -/
theorem ofFiles_append (files : Files) (paths others : List String) :
    ofFiles files (paths ++ others) = (ofFiles files paths).merge (ofFiles files others) := by
  rw [ofFiles_eq, ofFiles_eq, ofFiles_eq, List.map_append, List.foldl_append, foldl_merge]

/-- The layer of one file. -/
theorem ofFiles_singleton (files : Files) (path : String) : ofFiles files [path] = layer files path :=
  default_merge _

end BuildVariants.Config
