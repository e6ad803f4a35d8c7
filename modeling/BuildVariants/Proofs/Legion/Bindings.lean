import BuildVariants.Proofs.Legion.Form
import BuildVariants.Proofs.Planner.Overlooked
import BuildVariants.Proofs.Schema.Resolution

/-!
# What bindings do to the flags

Bindings for other languages need Fortran and complex reductions, so turning them
on turns these two on as well, whatever is said of them, and nothing else. The flags
are compared over two runs: they are those of the spec as it stands, but for three
names, and these are set in the same places (`bindings_widen`). Where bindings are on
already, it does not matter what is said of the other two.

The flags that are not about the three names come in three stretches, however many
of them there are (`Frame`). They are made from other variants, and the three
variants have no part in anything else: no rule, no dependency and no validator looks
at them (`overlooks_bindings`).
-/

namespace BuildVariants

namespace CacheName

/-- The names that bindings bear on. -/
def widened : List CacheName := [useFortran, redopComplex, buildBindings]

/-- The names before the one for Fortran. -/
def beforeFortran : List CacheName := order.take 16

/-- The names from there to the one for complex reductions. -/
def toComplex : List CacheName :=
  [useHdf5, useHwloc, useKokkos, useLibdl, useOpenmp, usePapi, usePython, useZlib]

/-- The names behind the one for bindings. -/
def behindBindings : List CacheName := [maxDim, maxFields, buildMarch]

end CacheName

namespace Legion

open CacheName (widened beforeFortran toComplex behindBindings)
open Derived (ofValues)

/-! ## Flags in a frame -/

/-- **The flags around the three names** that bindings bear on. -/
structure Frame where
  /-- The flags before the one for Fortran. -/
  before : List String
  /-- The flags from there to the one for complex reductions. -/
  between : List String
  /-- The flags behind those for complex reductions and bindings. -/
  behind : List String
  untouched : ∀ argument ∈ before ++ between ++ behind, ∀ name ∈ widened,
    sets name argument = false

/-- The state of a switch as it is written. -/
def state (on : Bool) : String := if on then "ON" else "OFF"

/-- **The flags in a frame**: Fortran and complex reductions are on or off, and
bindings are on or not set at all. -/
def Frame.flags (frame : Frame) (fortran complex bindings : Bool) : List String :=
  frame.before ++ ["-DLegion_USE_Fortran=" ++ state fortran]
    ++ frame.between ++ ["-DLegion_REDOP_COMPLEX=" ++ state complex]
    ++ (if bindings then ["-DLegion_BUILD_BINDINGS=ON"] else []) ++ frame.behind

/-- The frame that values come to. -/
def Frame.of (values : Values) (derived : Derived) : Frame where
  before := argumentsOf values derived beforeFortran
  between := argumentsOf values derived toComplex
  behind := argumentsOf values derived behindBindings
  untouched argument hmem name hname := by
    rw [← argumentsOf_append, ← argumentsOf_append] at hmem
    refine sets_eq_false_of_mem_argumentsOf ?_ argument hmem
    revert name
    decide

/-- The variants that the three names are made from. -/
def bindingVariants : List String := ["bindings", "fortran", "redop_complex"]

section Frames

variable {values values' : Values} {derived : Derived} {cxx : Option String}

/-- **Flags are made in their frame.** -/
theorem flagsOf_eq_flags :
    flagsOf values derived
      = (Frame.of values derived).flags derived.fortran derived.redopComplex
          (values.enabled "bindings") := by
  have hfortran : argumentsOf values derived [.useFortran]
      = ["-DLegion_USE_Fortran=" ++ state derived.fortran] :=
    congrArg ([·]) (CacheEntry.render_plain_eq (by decide) _)
  have hcomplex : argumentsOf values derived [.redopComplex]
      = ["-DLegion_REDOP_COMPLEX=" ++ state derived.redopComplex] :=
    congrArg ([·]) (CacheEntry.render_plain_eq (by decide) _)
  have hbindings : argumentsOf values derived [.buildBindings]
      = if values.enabled "bindings" then ["-DLegion_BUILD_BINDINGS=ON"] else [] := by
    unfold argumentsOf entryOf?
    cases values.enabled "bindings" with
    | false => rfl
    | true => exact congrArg ([·]) (by decide)
  have horder : CacheName.order = beforeFortran ++ [.useFortran] ++ toComplex ++ [.redopComplex]
      ++ [.buildBindings] ++ behindBindings := rfl
  rw [flagsOf_eq_argumentsOf, horder]
  simp only [argumentsOf_append, hfortran, hcomplex, hbindings]
  rfl

/-- The other names are made from other variants. -/
theorem not_mem_bindingVariants_of_input : ∀ name ∈ beforeFortran ++ toComplex ++ behindBindings,
    ∀ input ∈ name.inputs, input ∉ bindingVariants := by
  decide

variable (hsame : ∀ name ∉ bindingVariants, values.get? name = values'.get? name)

include hsame

/-- **The frame does not depend on the three variants.** -/
theorem frame_of_eq (hcxx : cxx.isSome = values.enabled "kokkos") :
    Frame.of values (ofValues values cxx) = Frame.of values' (ofValues values' cxx) := by
  have hkokkos : values.enabled "kokkos" = values'.enabled "kokkos" :=
    Values.enabled_congr (hsame "kokkos" (by decide))
  have harguments (names : List CacheName)
      (hnames : names ⊆ beforeFortran ++ toComplex ++ behindBindings) :
      argumentsOf values (ofValues values cxx) names
        = argumentsOf values' (ofValues values' cxx) names := by
    unfold argumentsOf
    congr 1
    refine List.filterMap_congr fun name hname => ?_
    refine entryOf?_congr hcxx (hcxx.trans hkokkos) fun input hinput => hsame input ?_
    exact not_mem_bindingVariants_of_input name (hnames hname) input hinput
  unfold Frame.of
  congr 1
  · exact harguments _ (by decide)
  · exact harguments _ (by decide)
  · exact harguments _ (by decide)

/-- Of what is derived, Fortran and complex reductions alone depend on the three
variants. -/
theorem ofValues_eq :
    ofValues values' cxx
      = { ofValues values cxx with
          fortran := values'.enabled "fortran" || values'.enabled "bindings"
          redopComplex := values'.enabled "redop_complex" || values'.enabled "bindings" } := by
  have htext (name : String) (hname : name ∉ bindingVariants) :=
    Values.textOrUnset_congr (hsame name hname)
  unfold ofValues Derived.transportOf
  rw [htext "network" (by decide), htext "gasnet_root" (by decide), htext "conduit" (by decide),
    htext "output_level" (by decide),
    Values.enabled_congr (hsame "gasnet_debug" (by decide)),
    Values.integer?_congr (hsame "max_dims" (by decide)),
    Values.integer?_congr (hsame "max_fields" (by decide))]

end Frames

/-! ## Two runs -/

/-- **Legion overlooks the three variants** but in its flags. -/
theorem overlooks_bindings : ∀ name ∈ bindingVariants, package.planner.Overlooks name := by
  intro name hname
  have hrules : ∀ rule ∈ rules, ∀ name ∈ bindingVariants, name ∉ rule.condition.reads := by
    decide +kernel
  have hrows : ∀ row ∈ dependencies, ∀ name ∈ bindingVariants, name ∉ row.condition.reads := by
    decide +kernel
  have htoggles : bindingVariants ⊆ toggles := by decide
  refine ⟨fun rule hrule => hrules rule hrule name hname, ?_, ?_⟩
  · intro rows heq row hrow
    obtain rfl : dependencies = rows := Option.some.inj heq
    exact hrows row hrow name hname
  · intro variant validator hdeclares
    obtain ⟨default, description, hfind⟩ := find?_toggles name (htoggles hname)
    obtain rfl := hdeclares.unique (Schema.find?_eq_some_iff.1 hfind)
    nofun

/-- **The plan with the three names set as values have them**, in a frame. -/
def inFrame (plan : BuildPlan) (frame : Frame) (values : Values) : BuildPlan :=
  let bindings := values.enabled "bindings"
  let fortran := values.enabled "fortran" || bindings
  let complex := values.enabled "redop_complex" || bindings
  { plan with
    flags := frame.flags fortran complex bindings
    derived := { plan.derived with fortran, redopComplex := complex } }

/-- With bindings all three are on. -/
theorem inFrame_of_bindings {values : Values} (h : values.enabled "bindings" = true)
    (plan : BuildPlan) (frame : Frame) :
    inFrame plan frame values
      = { plan with
          flags := frame.flags true true true
          derived := { plan.derived with fortran := true, redopComplex := true } } := by
  simp only [inFrame, h, Bool.or_true]

/-- **Plans whose values differ in the three variants at most** have one frame, and
are otherwise the same. -/
theorem of_eq_inFrame {values values' : Values} {cxx : Option String}
    (hsame : ∀ name ∉ bindingVariants, values.get? name = values'.get? name)
    (hcxx : cxx.isSome = values.enabled "kokkos") (spec : Spec)
    (assignments : NameMap SuppliedValue) (needed : List Dependency) :
    BuildPlan.of ⟨{ spec with variants := assignments }, values'⟩ (ofValues values' cxx) needed
      = inFrame (.of ⟨spec, values⟩ (ofValues values cxx) needed)
          (.of values (ofValues values cxx)) values' := by
  unfold BuildPlan.of inFrame
  dsimp only
  rw [flagsOf_eq_flags, frame_of_eq hsame hcxx, ofValues_eq hsame]

/-- **Assigning the three variants anew gives the same plan** with the three names
set as they are assigned then. -/
theorem exists_inFrame {names : List String} (hnames : names ⊆ bindingVariants) {files : Files}
    {spec : Spec} {plan : BuildPlan} (hplan : package.planner.plan files spec = .ok plan)
    {assignments : NameMap SuppliedValue}
    (hreassigns : schema.Reassigns names spec.variants assignments) :
    ∃ frame values values', schema.Completes spec.variants values
      ∧ schema.Completes assignments values'
      ∧ (∀ name ∉ names, values.get? name = values'.get? name)
      ∧ plan = inFrame plan frame values
      ∧ package.planner.plan files { spec with variants := assignments }
        = .ok (inFrame plan frame values') := by
  obtain ⟨values, derived, hcleared, hderived, rfl⟩ := Planner.plan_eq_ok_iff.1 hplan
  obtain ⟨heq, hcxx, _⟩ := Derived.eq_of_ofResolved hderived
  have hkokkos : "kokkos" ∉ names := fun h => absurd (hnames h) (by decide)
  obtain ⟨values', hcompletes', hsame, hplan'⟩ :=
    Planner.plan_of_overlooked (fun name hname => overlooks_bindings name (hnames hname)) hkokkos
      hcleared hderived hreassigns
  generalize derived.kokkosCxx = cxx at heq hcxx hplan'
  obtain rfl := heq
  have hbefore := of_eq_inFrame (fun name _ => rfl) hcxx spec spec.variants
    (package.planner.active ⟨spec, values⟩)
  have hother (name : String) (hname : name ∉ bindingVariants) :
      values.get? name = values'.get? name :=
    hsame name fun hmem => hname (hnames hmem)
  rw [of_eq_inFrame hother hcxx] at hplan'
  exact ⟨_, values, values', hcleared.completes, hcompletes', hsame, hbefore, hplan'⟩

/-- **Bindings widen three flags and nothing else.** A spec that is accepted is
accepted with bindings on as well, and its plan is the same but for the three names:
Fortran and complex reductions are on, and bindings are set right behind these, where
they are set already if they were on before. In particular every other flag is as it
was and in the same place, and so are the C++ flags, the environment and the
dependencies.

Where bindings are on, nothing that is said of Fortran and complex reductions, and
nothing that is left unsaid, makes a difference to the plan, as long as it is valid. -/
theorem bindings_widen {files : Files} {spec : Spec} {plan : BuildPlan}
    (hplan : package.planner.plan files spec = .ok plan) :
    (∃ (frame : Frame) (fortran complex bindings : Bool),
        plan.flags = frame.flags fortran complex bindings
        ∧ package.planner.plan files (spec.assign "bindings" (.bool true))
          = .ok { plan with
              flags := frame.flags true true true
              derived := { plan.derived with fortran := true, redopComplex := true } })
      ∧ ∀ values, schema.bind spec.variants = .ok values → values.enabled "bindings" = true →
          ∀ assignments : NameMap SuppliedValue,
            (∀ name ∉ ["fortran", "redop_complex"],
              assignments.get? name = spec.variants.get? name) →
            (∀ name ∈ ["fortran", "redop_complex"], ∀ raw, assignments.get? name = some raw →
              ∃ value, schema.validate files name raw = .ok value) →
            package.planner.plan files { spec with variants := assignments } = .ok plan := by
  constructor
  · have hshape : schema.shape "bindings" (.bool true) = .ok (.bool true) := rfl
    obtain ⟨frame, _, values', _, hcompletes', _, hframe, hwide⟩ :=
      exists_inFrame (by decide) hplan (Schema.reassigns_insert hshape spec.variants)
    have hon : values'.enabled "bindings" = true := by
      obtain ⟨variant, hdeclares, haccept⟩ := Schema.shape_eq_ok_iff.1 hshape
      have hassigned : (spec.variants.insert "bindings" (.bool true)).get? "bindings"
          = some (.bool true) := by
        rw [NameMap.get?_insert, if_pos rfl]
      rw [Values.enabled, hcompletes'.get?_assigned hassigned hdeclares haccept]
    rw [inFrame_of_bindings hon] at hwide
    exact ⟨frame, _, _, _, congrArg BuildPlan.flags hframe, hwide⟩
  · intro values hbind hon assignments hkept hvalid
    have hreassigns : schema.Reassigns ["fortran", "redop_complex"] spec.variants assignments := by
      refine ⟨hkept, fun name hname raw hassigned => ?_⟩
      obtain ⟨value, hvalue⟩ := hvalid name hname raw hassigned
      exact ⟨value, (Schema.validate_eq_ok_iff.1 hvalue).1⟩
    obtain ⟨frame, bound, values', hcompletes, _, hsame, hframe, hplan'⟩ :=
      exists_inFrame (by decide) hplan hreassigns
    obtain rfl := (Schema.bind_eq_ok_iff.1 hbind).unique hcompletes
    have hon' : values'.enabled "bindings" = true := by
      rw [← hon, Values.enabled_congr (hsame "bindings" (by decide))]
    rw [inFrame_of_bindings hon] at hframe
    rw [inFrame_of_bindings hon', ← hframe] at hplan'
    exact hplan'

/-- GASNet for debugging, with CUDA and Kokkos, and with Fortran spoken for. -/
def gasnetKokkos : Spec :=
  { Spec.default with
    buildType := .debug
    variants := .ofList [("network", .text "gasnet"), ("conduit", .text "ibv"),
      ("gasnet_debug", .bool true), ("cuda", .text "on"), ("kokkos", .bool true),
      ("fortran", .text "True"), ("native", .bool true)]
    dependencies := .ofList
      [("kokkos", { KnownDependency.unknown with cxx := some "/opt/kokkos/bin/nvcc_wrapper" })] }

/-- With bindings its plan has two other flags, and the plan stays as it is when
nothing is said of Fortran any more and complex reductions are refused. -/
theorem widen_gasnetKokkos :
    let planOf := package.planner.plan (.ofList [])
    let assigned := (gasnetKokkos.assign "bindings" (.bool true)).variants
    let others : NameMap SuppliedValue := .ofList [("network", .text "gasnet"),
      ("conduit", .text "ibv"), ("gasnet_debug", .bool true), ("cuda", .text "on"),
      ("kokkos", .bool true), ("native", .bool true), ("bindings", .bool true)]
    ∃ plan wide, planOf gasnetKokkos = .ok plan
      ∧ planOf { gasnetKokkos with variants := assigned } = .ok wide
      ∧ (∃ (frame : Frame) (fortran complex bindings : Bool),
          plan.flags = frame.flags fortran complex bindings
          ∧ wide.flags = frame.flags true true true)
      ∧ wide.cxxFlags = plan.cxxFlags ∧ wide.env = plan.env
      ∧ wide.dependencies = plan.dependencies
      ∧ planOf { gasnetKokkos with variants := others.insert "redop_complex" (.text "OFF") }
        = .ok wide := by
  intro planOf assigned others
  obtain ⟨plan, hplan⟩ : ∃ plan, planOf gasnetKokkos = .ok plan :=
    exists_ok_of_isOk (by decide +kernel)
  obtain ⟨⟨frame, fortran, complex, bindings, hflags, hwide⟩, _⟩ := bindings_widen hplan
  obtain ⟨_, hsettled⟩ := bindings_widen hwide
  obtain ⟨values, hbind⟩ : ∃ values, schema.bind assigned = .ok values :=
    exists_ok_of_isOk (by decide +kernel)
  have hon : (schema.bind assigned).toOption.map (·.enabled "bindings") = some true := by
    decide +kernel
  rw [hbind] at hon
  refine ⟨plan, _, hplan, hwide, ⟨frame, fortran, complex, bindings, hflags, rfl⟩, rfl, rfl, rfl,
    hsettled values hbind (Option.some.inj hon) _ ?_ ?_⟩
  · intro name hname
    have hassigned : assigned = others.insert "fortran" (.text "True") := by decide +kernel
    obtain ⟨hfortran, hcomplex⟩ : name ≠ "fortran" ∧ name ≠ "redop_complex" := by
      simpa using hname
    show _ = assigned.get? name
    rw [hassigned, NameMap.get?_insert, NameMap.get?_insert, if_neg hfortran, if_neg hcomplex]
  · have hvalid : ∀ name ∈ ["fortran", "redop_complex"],
        ((others.insert "redop_complex" (.text "OFF")).get? name).all
          (fun raw => (schema.validate (.ofList []) name raw).isOk) = true := by decide +kernel
    intro name hname raw hraw
    have hok := hvalid name hname
    rw [hraw] at hok
    exact exists_ok_of_isOk hok

end Legion

end BuildVariants
