import BuildVariants.Planner

/-!
# Listings

What a package offers and needs, listed for a reader: its variants as aligned
text or as data, and dependencies one on a line.
-/

namespace BuildVariants

/-- A text filled up with blanks to a width. -/
def padRight (width : Nat) (text : String) : String :=
  text ++ .ofList (List.replicate (width - text.length) ' ')

/-- Texts as lines, each with a line end. -/
def unlines (lines : List String) : String := String.join (lines.map (· ++ "\n"))

namespace Variant

/-- A variant as data, by the names of its properties in increasing order. -/
def toData (variant : Variant) : Data :=
  .map [("allowed", .ofTexts variant.domain.allowed), ("default", variant.default.toData),
    ("description", .text variant.description), ("domain", .text variant.domain.render),
    ("multi", .bool variant.multiple), ("name", .text variant.name)]

/-- The two lines of a variant: what it is with its domain and default, and its
description below. -/
def listing (width : Nat) (variant : Variant) : List String :=
  [padRight width variant.name ++ "  [" ++ variant.domain.render
      ++ (if variant.multiple then " (multi)" else "") ++ "] default=" ++ variant.default.render,
    padRight width "" ++ "  " ++ variant.description]

end Variant

namespace Schema

/-- The length of the longest name. -/
def nameWidth (schema : Schema) : Nat :=
  schema.variants.foldl (fun width variant => max width variant.name.length) 0

/-- The variants, their names aligned. -/
def listing (schema : Schema) : List String :=
  schema.variants.flatMap (·.listing schema.nameWidth)

/-- The variants as data. -/
def toData (schema : Schema) : Data := .list (schema.variants.map (·.toData))

end Schema

/-- A dependency with its kind. -/
def Dependency.listing (dependency : Dependency) : String :=
  dependency.render ++ " (" ++ dependency.kind.name ++ ")"

/-- A dependency with its kind and when it is needed. -/
def DependencyRow.listing (row : DependencyRow) : String :=
  row.dependency.listing ++ "    # when: " ++ row.condition.render

end BuildVariants
