import BuildVariants.Dependency
import BuildVariants.Proofs.Text.Words

/-!
# What the text of a dependency tells

A dependency is written without blanks or closing marks around its parts, as in
`kokkos@3.3.01+cuda~wrapper cuda_arch=70`: an `@` stands before the range of
versions, `+` and `~` before what must be on or off, and a variant that must have a
value stands between a blank and an equals sign. As long as the words hold none of
these five marks, the text tells them apart, and so it tells everything there is to
a dependency but what it is needed for (`eq_of_render_eq`).

The text is taken as its first word and the other words with the mark before each
(`Dependency.parts`). The marks tell what is which: only a range of versions stands
behind an `@`, and an equals sign always follows the word behind a blank.
-/

namespace BuildVariants

/-- The words of a constraint, each with the mark before it. -/
def Constraint.parts : Constraint → List (Char × String)
  | .on variant => [('+', variant)]
  | .off variant => [('~', variant)]
  | .value variant setting => [(' ', variant), ('=', setting)]

/-- The words of a constraint: what it is about, and the value that it must have. -/
def Constraint.words : Constraint → List String
  | .on variant => [variant]
  | .off variant => [variant]
  | .value variant setting => [variant, setting]

/-- The text of a constraint is that of its parts. -/
theorem Constraint.toList_render (constraint : Constraint) :
    constraint.render.toList = Text.partsText constraint.parts := by
  cases constraint <;> simp [render, parts, Text.partsText]

/-- **Constraints are told apart by their parts**, for lists of any length. -/
theorem Constraint.eq_of_flatMap_parts_eq {first second : List Constraint}
    (h : first.flatMap parts = second.flatMap parts) : first = second := by
  induction first generalizing second with
  | nil =>
    cases second with
    | nil => rfl
    | cons constraint rest => cases constraint <;> cases h
  | cons constraint rest ih =>
    cases second with
    | nil => cases constraint <;> cases h
    | cons constraint' rest' =>
      suffices hsame : constraint = constraint' ∧ rest.flatMap parts = rest'.flatMap parts by
        rw [hsame.1, ih hsame.2]
      -- the first mark tells the kind of constraint and with it how many words follow
      cases constraint <;> cases constraint' <;>
        simp_all [parts, List.flatMap_cons]

namespace Dependency

/-! ## Words -/

/-- **Whether a character sets the parts of a dependency's text apart.** -/
def isMark (c : Char) : Bool := "@+~ =".toList.contains c

/-- A word of the text holds no marks. -/
def IsWord (text : String) : Prop := ∀ c ∈ text.toList, isMark c = false

instance (text : String) : Decidable (IsWord text) := List.decidableBAll _ text.toList

/-- **What words are made of**: letters, digits, `_`, `.`, `:` and `-` are no
marks. -/
theorem isWord_of_forall {text : String}
    (h : ∀ c ∈ text.toList, (c.isAlphanum || "_.:-".toList.contains c) = true) : IsWord text :=
  Text.contains_eq_false_of_forall (by decide) h

/-! ## Parts -/

/-- The words of a dependency behind its name, each with the mark before it. -/
def parts (dependency : Dependency) : List (Char × String) :=
  dependency.versions.toList.map ('@', ·) ++ dependency.constraints.flatMap Constraint.parts

/-- The text of a dependency is its name and the text of its parts. -/
theorem toList_render (dependency : Dependency) :
    dependency.render.toList = dependency.name.toList ++ Text.partsText dependency.parts := by
  have hconstraints : (String.join (dependency.constraints.map (·.render))).toList
      = Text.partsText (dependency.constraints.flatMap Constraint.parts) := by
    induction dependency.constraints with
    | nil => rfl
    | cons constraint rest ih =>
      rw [List.map_cons, String.join_cons, String.toList_append, ih, List.flatMap_cons,
        Text.partsText_append, Constraint.toList_render]
  rw [render, String.toList_append, String.toList_append, hconstraints, parts,
    Text.partsText_append, List.append_assoc]
  cases dependency.versions with
  | none => rfl
  | some versions => simp [Text.partsText]

/-- A word of a constraint stands behind one of four marks. -/
theorem mark_of_mem_parts {constraints : List Constraint} {part : Char × String}
    (h : part ∈ constraints.flatMap Constraint.parts) : part.1 ∈ "+~ =".toList := by
  obtain ⟨constraint, _, hpart⟩ := List.mem_flatMap.1 h
  cases constraint with
  | on variant =>
    rw [List.mem_singleton.1 hpart]
    exact (by decide : '+' ∈ "+~ =".toList)
  | off variant =>
    rw [List.mem_singleton.1 hpart]
    exact (by decide : '~' ∈ "+~ =".toList)
  | value variant setting =>
    rcases List.mem_cons.1 hpart with rfl | hsetting
    · exact (by decide : ' ' ∈ "+~ =".toList)
    · rw [List.mem_singleton.1 hsetting]
      exact (by decide : '=' ∈ "+~ =".toList)

/-- All words but the name stand behind marks. -/
theorem isMark_of_mem_parts {dependency : Dependency} {part : Char × String}
    (h : part ∈ dependency.parts) : isMark part.1 = true := by
  rcases List.mem_append.1 h with hversions | hconstraints
  · obtain ⟨versions, _, rfl⟩ := List.mem_map.1 hversions
    exact (by decide : isMark '@' = true)
  · have hmarks : ("+~ =".toList.all isMark) = true := by decide
    exact List.all_eq_true.1 hmarks _ (mark_of_mem_parts hconstraints)

/-- Where constraints follow, no range of versions does. -/
theorem at_cons_ne_parts {versions : String} {others : List (Char × String)}
    {constraints : List Constraint} :
    ('@', versions) :: others ≠ constraints.flatMap Constraint.parts := by
  intro h
  have hmark : '@' ∈ "+~ =".toList := mark_of_mem_parts (h ▸ List.mem_cons_self)
  exact absurd hmark (by decide)

/-- **A dependency is its name, its parts and what it is needed for.** -/
theorem eq_of_parts_eq {first second : Dependency} (hname : first.name = second.name)
    (hparts : first.parts = second.parts) (hkind : first.kind = second.kind) : first = second := by
  obtain ⟨name, versions, constraints, kind⟩ := first
  obtain ⟨name', versions', constraints', kind'⟩ := second
  obtain rfl : name = name' := hname
  obtain rfl : kind = kind' := hkind
  suffices hsame : versions = versions' ∧ constraints = constraints' by rw [hsame.1, hsame.2]
  cases versions with
  | none =>
    cases versions' with
    | none => exact ⟨rfl, Constraint.eq_of_flatMap_parts_eq hparts⟩
    | some range => exact absurd hparts.symm at_cons_ne_parts
  | some range =>
    cases versions' with
    | none => exact absurd hparts at_cons_ne_parts
    | some range' =>
      obtain ⟨hrange, hconstraints⟩ := List.cons.inj hparts
      exact ⟨congrArg some (Prod.ext_iff.1 hrange).2,
        Constraint.eq_of_flatMap_parts_eq hconstraints⟩

/-! ## Texts -/

/-- The words in a dependency's text: its name, its range of versions, and the names
and values in its constraints. -/
def words (dependency : Dependency) : List String :=
  dependency.name ::
    (dependency.versions.toList ++ dependency.constraints.flatMap Constraint.words)

/-- The words behind the name are those of the parts. -/
theorem words_eq (dependency : Dependency) :
    dependency.words = dependency.name :: dependency.parts.map (·.2) := by
  have hconstraints : ∀ constraint : Constraint,
      constraint.parts.map (·.2) = constraint.words := by
    intro constraint
    cases constraint <;> rfl
  rw [words, parts, List.map_append, List.map_map, List.map_flatMap]
  simp only [hconstraints]
  exact congrArg (fun ranges => _ :: (ranges ++ _)) (List.map_id _).symm

/-- **The text tells dependencies apart**: as long as their words hold no marks, two
dependencies that are needed for the same and written alike are one – in the name, in
whether there is a range of versions and in which one it is, and in the constraints
and their order, however many there are. -/
theorem eq_of_render_eq {first second : Dependency} (hfirst : ∀ word ∈ first.words, IsWord word)
    (hsecond : ∀ word ∈ second.words, IsWord word) (hkind : first.kind = second.kind)
    (h : first.render = second.render) : first = second := by
  rw [words_eq, List.forall_mem_cons, List.forall_mem_map] at hfirst hsecond
  have htexts := congrArg String.toList h
  rw [toList_render, toList_render] at htexts
  obtain ⟨hname, hbehind⟩ := Text.word_append_partsText_inj hfirst.1 hsecond.1
    (fun _ => isMark_of_mem_parts) (fun _ => isMark_of_mem_parts) htexts
  have hparts := Text.partsText_inj (fun _ => isMark_of_mem_parts) (fun _ => isMark_of_mem_parts)
    hfirst.2 hsecond.2 hbehind
  exact eq_of_parts_eq hname hparts hkind

-- with a mark in a word, one constraint is written like two
example : ((package "kokkos").require (.on "cuda+openmp")).render
    = (((package "kokkos").require (.on "cuda")).require (.on "openmp")).render := by
  decide

/-- A dependency with a range of versions and every kind of constraint, one of them
behind a value. -/
def pinnedKokkos : Dependency :=
  (((((package "kokkos").within "3.3.01:3").require (.on "cuda-lambda")).require
    (.off "wrapper")).require (.value "cuda_arch" "70")).require (.on "openmp")

/-- A dependency that is written like the pinned one is the pinned one. -/
theorem eq_pinnedKokkos :
    (∀ word ∈ pinnedKokkos.words, IsWord word)
      ∧ pinnedKokkos.render = "kokkos@3.3.01:3+cuda-lambda~wrapper cuda_arch=70+openmp"
      ∧ pinnedKokkos = ⟨"kokkos", some "3.3.01:3",
        [.on "cuda-lambda", .off "wrapper", .value "cuda_arch" "70", .on "openmp"], .link⟩ := by
  have hchars : (pinnedKokkos.words.all fun word =>
      word.toList.all fun c => c.isAlphanum || "_.:-".toList.contains c) = true := by decide
  have hwords : ∀ word ∈ pinnedKokkos.words, IsWord word := fun word hword =>
    isWord_of_forall (List.all_eq_true.1 (List.all_eq_true.1 hchars word hword))
  exact ⟨hwords, by decide, eq_of_render_eq hwords hwords rfl rfl⟩

end Dependency

end BuildVariants
