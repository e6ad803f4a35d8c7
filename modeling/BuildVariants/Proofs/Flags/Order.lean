import BuildVariants.Legion
import BuildVariants.Proofs.Flags
import BuildVariants.Proofs.Planner
import BuildVariants.Proofs.Text.Words

/-!
# The order of the names

CMake lets an argument that sets a name again override the earlier one in
silence, so a list of flags should set each name once. What an argument sets is
read off its text: the name stands between `-D` and the first colon or equals
sign (`CacheEntry.nameIn?`), and a value behind it may hold any characters,
those included.

Read in this way, the flags of every plan set names of one list without
duplicates, in the order of that list (`names_flagsOf`), whatever the schema
and the values are. `names_in_order` is the main statement, with what it means
for one list of flags, in which no name occurs twice, and for two, which have
the names they share in the same order.
-/

namespace BuildVariants

/-! ## The name in an argument -/

namespace CacheEntry

/-- Whether a character ends the name in an argument. -/
def endsName (c : Char) : Bool := c = ':' || c = '='

/-- **The name that an argument sets**: the text between `-D` and the first
colon or equals sign. -/
def nameIn? (argument : String) : Option String :=
  match argument.toList with
  | '-' :: 'D' :: rest =>
    if rest.any endsName then some (.ofList (rest.takeWhile fun c => !endsName c)) else none
  | _ => none

/-- Whatever follows the character that ends a name, the name is found. -/
theorem nameIn?_of_toList {argument name : String} {c : Char} {rest : List Char}
    (hname : PlainName name) (hends : endsName c = true)
    (h : argument.toList = '-' :: 'D' :: (name.toList ++ c :: rest)) :
    nameIn? argument = some name := by
  have hplain : ∀ d ∈ name.toList, endsName d = false := by
    intro d hd
    have hcolon : d ≠ ':' := fun heq => hname.2 (heq ▸ hd)
    have hequals : d ≠ '=' := fun heq => hname.1 (heq ▸ hd)
    simp [endsName, hcolon, hequals]
  have hany : (name.toList ++ c :: rest).any endsName = true :=
    List.any_eq_true.2 ⟨c, List.mem_append_right _ List.mem_cons_self, hends⟩
  have htake : (name.toList ++ c :: rest).takeWhile (fun d => !endsName d) = name.toList := by
    refine Text.takeWhile_append_of_ends hplain fun d hd => ?_
    obtain rfl : c = d := Option.some.inj hd
    exact hends
  have hread : nameIn? argument = if (name.toList ++ c :: rest).any endsName then
      some (.ofList ((name.toList ++ c :: rest).takeWhile fun d => !endsName d)) else none := by
    unfold nameIn?
    rw [h]
    rfl
  rw [hread, if_pos hany, htake, String.ofList_toList]

/-- **An argument sets the name of its entry.** -/
theorem nameIn?_render {entry : CacheEntry} (h : PlainName entry.name) :
    nameIn? entry.render = some entry.name := by
  obtain ⟨name, type, value⟩ := entry
  cases type with
  | none => exact nameIn?_of_toList h (c := '=') rfl (by simp [render]; rfl)
  | some type => exact nameIn?_of_toList h (c := ':') rfl (by simp [render]; rfl)

end CacheEntry

/-! ## The names of a list of flags -/

/-- The texts of all cache names, in the order in which a plan sets them. -/
def CacheName.texts : List String := order.map text

theorem CacheName.nodup_texts : texts.Nodup :=
  nodup_order.map fun _ _ => text_inj.1

/-- **The flags set the names that have an entry**, each once and in the order
of all names. -/
theorem names_flagsOf (values : Values) (derived : Derived) :
    (flagsOf values derived).map CacheEntry.nameIn?
      = (CacheName.order.filter fun name => (entryOf? values derived name).isSome).map
          fun name => some name.text := by
  rw [flagsOf, entriesOf_eq]
  induction CacheName.order with
  | nil => rfl
  | cons name rest ih =>
    cases hentry : entryOf? values derived name with
    | none =>
      rw [List.filterMap_cons_none hentry, ih, List.filter_cons_of_neg (by simp [hentry])]
    | some entry =>
      have hname := name_of_entryOf? hentry
      have hplain : CacheEntry.PlainName entry.name := hname ▸ name.plainName_text
      rw [List.filterMap_cons_some hentry, List.filter_cons_of_pos (by simp [hentry]),
        List.map_cons, List.map_cons, List.map_cons, ih, CacheEntry.nameIn?_render hplain, hname]

/-- The names that the flags of a plan set, flag by flag. -/
def BuildPlan.names (plan : BuildPlan) : List (Option String) :=
  plan.flags.map CacheEntry.nameIn?

/-- Of names in one order, those that others share are in one order too. -/
theorem filter_mem_names (p q : CacheName → Bool) :
    ((CacheName.order.filter p).map fun name => some name.text).filter
        (· ∈ (CacheName.order.filter q).map fun name => some name.text)
      = (CacheName.order.filter fun name => p name && q name).map fun name => some name.text := by
  have hinj : Function.Injective fun name : CacheName => some name.text :=
    fun _ _ h => CacheName.text_inj.1 (Option.some.inj h)
  rw [List.filter_map, List.filter_filter]
  refine congrArg (List.map _) (List.filter_congr fun name hname => ?_)
  have hmem : some name.text ∈ ((CacheName.order.filter q).map fun name => some name.text)
      ↔ q name = true := by
    rw [List.mem_map_of_injective hinj, List.mem_filter, and_iff_right hname]
  rw [Function.comp_apply, Bool.and_comm, Bool.eq_iff_iff]
  simp only [Bool.and_eq_true, decide_eq_true_eq, hmem]

namespace Planner

/-- The names of a plan are some of all names, in their order. -/
theorem exists_names_eq {planner : Planner} {files : Files} {spec : Spec} {plan : BuildPlan}
    (h : planner.plan files spec = .ok plan) :
    ∃ p : CacheName → Bool,
      plan.names = (CacheName.order.filter p).map fun name => some name.text := by
  obtain ⟨values, derived, _, _, rfl⟩ := plan_eq_ok_iff.1 h
  exact ⟨_, names_flagsOf values derived⟩

/-- **Flags set names in one order, and each name once.** Whatever planners two
plans come from, every flag of the first sets a name of one list without
duplicates, and in the order of that list; no name is set twice; and the names
that both plans set are set in the same order by both. -/
theorem names_in_order {planner planner' : Planner} {files files' : Files} {spec spec' : Spec}
    {plan plan' : BuildPlan} (hplan : planner.plan files spec = .ok plan)
    (hplan' : planner'.plan files' spec' = .ok plan') :
    CacheName.texts.Nodup
      ∧ plan.names.Sublist (CacheName.texts.map some)
      ∧ plan.names.Nodup
      ∧ plan.names.filter (· ∈ plan'.names) = plan'.names.filter (· ∈ plan.names) := by
  obtain ⟨p, hp⟩ := exists_names_eq hplan
  obtain ⟨q, hq⟩ := exists_names_eq hplan'
  have hsublist : plan.names.Sublist (CacheName.texts.map some) := by
    rw [hp, CacheName.texts, List.map_map]
    exact List.filter_sublist.map _
  have hnodup : (CacheName.texts.map some).Nodup :=
    CacheName.nodup_texts.map fun _ _ => Option.some.inj
  refine ⟨CacheName.nodup_texts, hsublist, hsublist.nodup hnodup, ?_⟩
  rw [hp, hq, filter_mem_names, filter_mem_names]
  simp only [Bool.and_comm]

end Planner

namespace Legion

/-- A place whose path looks like arguments of its own. -/
def argumentRoot : String := "/opt/a:b=c -DLegion_SPY=ON"

/-- GASNet at that place, for debugging, with CUDA and a compiler it does not
support. -/
def debuggedGasnet : Spec :=
  { Spec.default with variants := .ofList [("network", .text "gasnet"), ("conduit", .text "ibv"),
      ("gasnet_root", .text argumentRoot), ("gasnet_debug", .bool true), ("cuda", .bool true),
      ("cuda_unsupported_compiler", .bool true), ("bindings", .bool true)] }

/-- No transport layer, for the processor at hand. -/
def nativeBuild : Spec :=
  { Spec.default with variants := .ofList [("native", .text "TRUE"), ("bindings", .bool true)] }

/-- The place is an argument for its own name only, and what the two builds
share comes in the same order, though one of them has more before it and the
other more behind it. -/
theorem names_debuggedGasnet :
    ∃ plan plan', package.planner.plan (.ofList [(argumentRoot, .ok .directory)]) debuggedGasnet
          = .ok plan
      ∧ package.planner.plan (.ofList []) nativeBuild = .ok plan'
      ∧ plan.flags[1]? = some ("-DGASNet_ROOT_DIR=" ++ argumentRoot)
      ∧ plan.names[1]? = some (some "GASNet_ROOT_DIR")
      ∧ plan.names.Sublist (CacheName.texts.map some) ∧ plan.names.Nodup
      ∧ plan.names.filter (· ∈ plan'.names) = plan'.names.filter (· ∈ plan.names) := by
  have hflag : (package.planner.plan (.ofList [(argumentRoot, .ok .directory)])
        debuggedGasnet).toOption.bind (·.flags[1]?)
      = some ("-DGASNet_ROOT_DIR=" ++ argumentRoot) := by
    decide +kernel
  obtain ⟨plan, hplan⟩ : ∃ plan, package.planner.plan (.ofList [(argumentRoot, .ok .directory)])
      debuggedGasnet = .ok plan := exists_ok_of_isOk (by decide +kernel)
  obtain ⟨plan', hplan'⟩ : ∃ plan, package.planner.plan (.ofList []) nativeBuild = .ok plan :=
    exists_ok_of_isOk (by decide +kernel)
  rw [hplan] at hflag
  have hname : plan.names[1]? = some (some "GASNet_ROOT_DIR") := by
    unfold BuildPlan.names
    rw [List.getElem?_map, show plan.flags[1]? = _ from hflag, Option.map_some]
    decide +kernel
  obtain ⟨_, hsublist, hnodup, hshared⟩ := Planner.names_in_order hplan hplan'
  exact ⟨plan, plan', hplan, hplan', hflag, hname, hsublist, hnodup, hshared⟩

end Legion

end BuildVariants
