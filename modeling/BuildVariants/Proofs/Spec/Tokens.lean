import BuildVariants.Proofs.CacheEntry
import BuildVariants.Proofs.Planner.Inputs
import BuildVariants.Proofs.Spec.Layers

/-!
# Displayed variants, given back as tokens

A spec is displayed with its assignments written out, and what is written are
tokens. Given back to the same spec without its variants, they assign the same
variants again, if not quite the same values: an integer comes back as a text
(`SuppliedValue.retyped`). To a domain that is no difference, since a value may
as well be supplied as its text. So a spec that is displayed and typed in again
comes to the same plan (`plan_of_renderVariants`).

Two things could get in the way. A token loses the white space around it, so
that a text must not end in any; and a name could read like something else, a
sign or an equals sign in it. The declared names are plain (`TokenName`), and a
planner accepts no other.
-/

namespace BuildVariants

/-! ## Tokens read back -/

/-- A value as a token supplies it: a truth value by its sign, anything else as
its text. -/
def SuppliedValue.retyped : SuppliedValue → SuppliedValue
  | .bool value => .bool value
  | raw => .text raw.render

/-- **A name that a token can carry**: it is not empty, and holds no white
space, no sign and no equals sign. -/
def TokenName (name : String) : Prop :=
  name.toList ≠ [] ∧ ∀ c ∈ name.toList, Text.isBlank c = false ∧ c ≠ '+' ∧ c ≠ '~' ∧ c ≠ '='

-- decided by the characters of the name, not by looking at every character there is
instance (name : String) : Decidable (TokenName name) :=
  @instDecidableAnd _ _ _ (List.decidableBAll _ name.toList)

/-- **A text that does not end in white space.** -/
def EndsPlain (text : String) : Prop := text.toList.getLast?.any Text.isBlank = false

instance (text : String) : Decidable (EndsPlain text) := inferInstanceAs (Decidable (_ = false))

/-- A token is read in two steps: the white space around it is taken off, and
what is left is taken apart at a name. -/
theorem parseToken_of_splitToken? {name token : String} {raw : SuppliedValue} {cs : List Char}
    (hne : name.toList ≠ []) (htrim : Text.trimChars token.toList = cs)
    (hsplit : splitToken? cs = some (name.toList, raw)) : parseToken token = .ok (name, raw) := by
  unfold parseToken
  simp only [htrim, hsplit, if_neg hne, String.ofList_toList]

/-- What stands behind a sign is a name. -/
theorem parseToken_of_sign {sign : Char} {on : Bool} {name token : String} (hname : TokenName name)
    (htoken : token.toList = sign :: name.toList) (hblank : Text.isBlank sign = false)
    (hsplit : splitToken? (sign :: name.toList) = some (name.toList, .bool on)) :
    parseToken token = .ok (name, .bool on) := by
  refine parseToken_of_splitToken? hname.1 ?_ hsplit
  rw [htoken]
  refine Text.trimChars_eq_self (fun c hc => ?_) (fun c hc => ?_)
  · rw [← Option.some.inj hc]
    exact hblank
  · rcases List.mem_cons.1 (List.mem_of_getLast? hc) with rfl | hmem
    · exact hblank
    · exact (hname.2 c hmem).1

/-- A name, an equals sign and a value have no white space around them, if the
value has none behind it. -/
theorem trimChars_assignment {name value : String} (hname : TokenName name)
    (hends : EndsPlain value) :
    Text.trimChars (name.toList ++ '=' :: value.toList) = name.toList ++ '=' :: value.toList := by
  obtain ⟨hne, hchars⟩ := hname
  refine Text.trimChars_eq_self (fun c hc => ?_) (fun c hc => ?_)
  · rw [List.head?_append_of_ne_nil _ hne] at hc
    exact (hchars c (List.mem_of_head? hc)).1
  · rw [List.getLast?_append, List.getLast?_cons, Option.some_or, Option.some.injEq] at hc
    -- an empty value leaves the equals sign at the end
    cases hlast : value.toList.getLast? with
    | none =>
      rw [hlast] at hc
      exact hc ▸ (by decide)
    | some last =>
      rw [hlast] at hc
      unfold EndsPlain at hends
      rw [hlast] at hends
      exact hc ▸ hends

/-- Without a sign in front a token is cut at its first equals sign. -/
theorem splitToken?_of_not_sign {first : Char} {rest : List Char} (hplus : first ≠ '+')
    (htilde : first ≠ '~') :
    splitToken? (first :: rest)
      = (Text.cutAt? '=' (first :: rest)).map fun cut => (cut.1, .text (.ofList cut.2)) := by
  unfold splitToken?
  split
  · next heq => exact absurd (List.cons.inj heq).1 hplus
  · next heq => exact absurd (List.cons.inj heq).1 htilde
  · rfl

/-- The first equals sign behind a name is the one that ends it. -/
theorem splitToken?_assignment {name : String} (hname : TokenName name) (value : String) :
    splitToken? (name.toList ++ '=' :: value.toList) = some (name.toList, .text value) := by
  obtain ⟨hne, hchars⟩ := hname
  have hcut := Text.cutAt?_append (fun hmem => (hchars _ hmem).2.2.2 rfl) value.toList
  cases hlist : name.toList with
  | nil => exact absurd hlist hne
  | cons first rest =>
    have hfirst := hchars first (hlist ▸ List.mem_cons_self)
    rw [hlist] at hcut
    rw [List.cons_append] at hcut ⊢
    rw [splitToken?_of_not_sign hfirst.2.1 hfirst.2.2.1, hcut, Option.map_some,
      String.ofList_toList]

/-- What stands before the first equals sign is a name, and what stands behind
it is a value. -/
theorem parseToken_of_equals {name value token : String} (hname : TokenName name)
    (htoken : token.toList = name.toList ++ '=' :: value.toList) (hends : EndsPlain value) :
    parseToken token = .ok (name, .text value) := by
  refine parseToken_of_splitToken? hname.1 ?_ (splitToken?_assignment hname value)
  rw [htoken, trimChars_assignment hname hends]

/-- **An assignment that is written is a token**, and reads back as the
assignment. -/
theorem parseToken_renderAssignment {name : String} {raw : SuppliedValue} (hname : TokenName name)
    (hends : ∀ text, raw = .text text → EndsPlain text) :
    parseToken (Spec.renderAssignment name raw) = .ok (name, raw.retyped) := by
  cases raw with
  | bool on =>
    cases on with
    | true =>
      have htoken : (Spec.renderAssignment name (.bool true)).toList = '+' :: name.toList := by
        simp [Spec.renderAssignment]
      exact parseToken_of_sign hname htoken (by decide) rfl
    | false =>
      have htoken : (Spec.renderAssignment name (.bool false)).toList = '~' :: name.toList := by
        simp [Spec.renderAssignment]
      exact parseToken_of_sign hname htoken (by decide) rfl
  | int n =>
    refine parseToken_of_equals hname (by simp [Spec.renderAssignment, SuppliedValue.render]) ?_
    exact (Option.any_eq_false _ _).2 fun c hc =>
      Domain.not_isBlank_of_mem_write (List.mem_of_getLast? hc)
  | text text =>
    exact parseToken_of_equals hname (by simp [Spec.renderAssignment, SuppliedValue.render])
      (hends text rfl)

namespace Spec

/-! ## Specs typed in again -/

/-- The spec with every value as a token supplies it. -/
def retyped (spec : Spec) : Spec :=
  { spec with variants := spec.variants.map fun _ raw => raw.retyped }

/-- The spec without its variants. -/
def withoutVariants (spec : Spec) : Spec := { spec with variants := .empty }

/-- Tokens that are written assignments are assigned one after the other. -/
theorem assignTokens_renderAssignment {entries : List (String × SuppliedValue)}
    (h : ∀ entry ∈ entries,
      parseToken (renderAssignment entry.1 entry.2) = .ok (entry.1, entry.2.retyped))
    (spec : Spec) :
    spec.assignTokens (entries.map fun entry => renderAssignment entry.1 entry.2)
      = .ok { spec with variants :=
          spec.variants.insertMany (entries.map fun entry => (entry.1, entry.2.retyped)) } := by
  induction entries generalizing spec with
  | nil => rfl
  | cons entry rest ih =>
    obtain ⟨hentry, hrest⟩ := List.forall_mem_cons.1 h
    rw [List.map_cons, assignTokens, hentry]
    exact ih hrest (spec.assign entry.1 entry.2.retyped)

/-- **The displayed variants of a spec make the spec again**, with every value
as a token supplies it. -/
theorem assignTokens_renderVariants {spec : Spec}
    (h : ∀ entry ∈ spec.variants.entries,
      parseToken (renderAssignment entry.1 entry.2) = .ok (entry.1, entry.2.retyped)) :
    spec.withoutVariants.assignTokens spec.renderVariants = .ok spec.retyped := by
  have hmap := NameMap.insertMany_entries (spec.variants.map fun _ raw => raw.retyped)
  rw [renderVariants, assignTokens_renderAssignment h]
  exact congrArg (fun variants => Except.ok { spec with variants }) hmap

end Spec

/-! ## Plans made again -/

/-- What a domain accepts it accepts typed in again, and it stands for the
same. -/
theorem Domain.accept?_retyped {multiple : Bool} {domain : Domain} {raw : SuppliedValue}
    {value : Value} (h : domain.accept? multiple raw = some value) :
    domain.accept? multiple raw.retyped = some value := by
  cases raw with
  | bool on => exact h
  | int n => exact accept?_text_render h
  | text text => exact accept?_text_render h

/-- Values that complete assignments complete them typed in again. -/
theorem Schema.Completes.retyped {schema : Schema} {assignments : NameMap SuppliedValue}
    {values : Values} (h : schema.Completes assignments values) :
    schema.Completes (assignments.map fun _ raw => raw.retyped) values := by
  refine ⟨fun name raw hassigned => ?_, fun name variant hnone hdeclares => ?_, h.undeclared⟩
  · rw [NameMap.get?_map] at hassigned
    obtain ⟨original, horiginal, rfl⟩ := Option.map_eq_some_iff.1 hassigned
    obtain ⟨variant, value, hdeclares, haccept, hget⟩ := h.assigned name original horiginal
    exact ⟨variant, value, hdeclares, Domain.accept?_retyped haccept, hget⟩
  · rw [NameMap.get?_map] at hnone
    exact h.defaulted name variant (Option.map_eq_none_iff.1 hnone) hdeclares

namespace Planner

/-- **A plan depends on the assignments through the values that complete
them.** -/
theorem plan_of_completes {planner : Planner} {files : Files} {spec : Spec} {plan : BuildPlan}
    {assignments : NameMap SuppliedValue} (hplan : planner.plan files spec = .ok plan)
    (h : ∀ values, planner.schema.Completes spec.variants values →
      planner.schema.Completes assignments values) :
    planner.plan files { spec with variants := assignments } = .ok plan := by
  obtain ⟨values, _, hcleared, _, _⟩ := plan_eq_ok_iff.1 hplan
  have hbind : planner.schema.bind assignments = planner.schema.bind spec.variants := by
    rw [Schema.bind_eq_ok_iff.2 hcleared.completes,
      Schema.bind_eq_ok_iff.2 (h values hcleared.completes)]
  rw [plan_of_bind_eq hbind, hplan]

/-- The assignments that a planner accepts are written as tokens, if the names
that are declared can be. -/
theorem parseToken_of_plan {planner : Planner} {files : Files} {spec : Spec} {plan : BuildPlan}
    (hnames : ∀ variant ∈ planner.schema.variants, TokenName variant.name)
    (hends : ∀ name text, spec.variants.get? name = some (.text text) → EndsPlain text)
    (hplan : planner.plan files spec = .ok plan) :
    ∀ entry ∈ spec.variants.entries,
      parseToken (Spec.renderAssignment entry.1 entry.2) = .ok (entry.1, entry.2.retyped) := by
  rintro ⟨name, raw⟩ hentry
  have hassigned := NameMap.mem_entries_iff.1 hentry
  obtain ⟨values, _, hcleared, _, _⟩ := plan_eq_ok_iff.1 hplan
  -- what is assigned is declared
  obtain ⟨variant, _, hdeclares, _, _⟩ := hcleared.completes.assigned name raw hassigned
  have hname : TokenName name := hdeclares.name_eq ▸ hnames variant (FirstIn.mem hdeclares)
  refine parseToken_renderAssignment hname fun text htext => hends name text ?_
  exact hassigned.trans (congrArg some htext)

end Planner

namespace Legion

/-- **Every name that Legion declares can stand in a token.** -/
theorem tokenName_of_declared : ∀ variant ∈ schema.variants, TokenName variant.name := by
  decide

/-- **A spec that is displayed and typed in again comes to the same plan.** The
variants of a spec that Legion's planner accepts, written as they are displayed,
are tokens; assigned to the spec without its variants they make it again, with
every value but a truth value as a text; and that comes to the same plan. -/
theorem plan_of_renderVariants {files : Files} {spec : Spec} {plan : BuildPlan}
    (hplan : package.planner.plan files spec = .ok plan)
    (hends : ∀ name text, spec.variants.get? name = some (.text text) → EndsPlain text) :
    TokensParse spec.renderVariants
      ∧ spec.withoutVariants.assignTokens spec.renderVariants = .ok spec.retyped
      ∧ package.planner.plan files spec.retyped = .ok plan := by
  have hparse := Planner.parseToken_of_plan tokenName_of_declared hends hplan
  refine ⟨fun token htoken => ?_, Spec.assignTokens_renderVariants hparse,
    Planner.plan_of_completes hplan fun _ => Schema.Completes.retyped⟩
  obtain ⟨entry, hentry, rfl⟩ := List.mem_map.1 htoken
  exact ⟨_, _, hparse entry hentry⟩

/-- A place whose path holds signs, equals signs and a blank. -/
def signedRoot : String := "=/opt/a+b ~c=d"

/-- GASNet at that place, with integers for an architecture and for a limit. -/
def signedGasnet : Spec :=
  { Spec.default with variants := .ofList [("network", .text "gasnet"), ("conduit", .text "udp"),
      ("gasnet_root", .text signedRoot), ("cuda", .text "ON"), ("cuda_arch", .int 80),
      ("max_dims", .int (-7)), ("zlib", .bool false)] }

/-- Typed in again it has its integers as texts, and comes to the same plan. -/
theorem plan_signedGasnet :
    ∃ plan, package.planner.plan (.ofList [(signedRoot, .ok .directory)]) signedGasnet = .ok plan
      ∧ signedGasnet.withoutVariants.assignTokens ["conduit=udp", "cuda=ON", "cuda_arch=80",
          "gasnet_root=" ++ signedRoot, "max_dims=-7", "network=gasnet", "~zlib"]
        = .ok signedGasnet.retyped
      ∧ signedGasnet.retyped.variants.get? "max_dims" = some (.text "-7")
      ∧ package.planner.plan (.ofList [(signedRoot, .ok .directory)]) signedGasnet.retyped
        = .ok plan := by
  obtain ⟨plan, hplan⟩ : ∃ plan,
      package.planner.plan (.ofList [(signedRoot, .ok .directory)]) signedGasnet = .ok plan :=
    exists_ok_of_isOk (by decide +kernel)
  have hends : ∀ name text, signedGasnet.variants.get? name = some (.text text) →
      EndsPlain text := by
    have hall : ∀ entry ∈ signedGasnet.variants.entries, EndsPlain entry.2.render := by
      decide +kernel
    exact fun name text hget => hall (name, .text text) (NameMap.mem_entries_iff.2 hget)
  have htokens : signedGasnet.renderVariants = ["conduit=udp", "cuda=ON", "cuda_arch=80",
      "gasnet_root=" ++ signedRoot, "max_dims=-7", "network=gasnet", "~zlib"] := by
    decide +kernel
  obtain ⟨_, hassign, hagain⟩ := plan_of_renderVariants hplan hends
  exact ⟨plan, hplan, htokens ▸ hassign, by decide +kernel, hagain⟩

end Legion

end BuildVariants
