import BuildVariants.Proofs.Condition
import BuildVariants.Proofs.Legion.Values
import BuildVariants.Proofs.Planner

/-!
# What does not go together in Legion

The rules of Legion are conditions to be evaluated. What they stand for is a
short list of clashes between the transport layer and its settings, and between
CUDA and the hijack of its runtime, read off the values themselves
(`Clash.Holds`). The two agree rule by rule (`forall₂_clash_rule`), so that a
spec is refused for a conflict exactly if there is a clash, and the clash that
is reported is the first one.
-/

namespace BuildVariants.Legion

/-- A way in which values do not go together. -/
inductive Clash
  /-- There is a place where GASNet is installed, and GASNet is not used. -/
  | root
  /-- GASNet is used without a conduit. -/
  | missingConduit
  /-- There is a conduit, and GASNet is not used. -/
  | conduit
  /-- GASNet is to be debugged, and it is not used. -/
  | debug
  /-- The CUDA runtime is to be hijacked, and CUDA is off. -/
  | hijack
deriving DecidableEq, Repr

namespace Clash

/-- The clashes in the order in which they are reported. -/
def order : List Clash := [root, missingConduit, conduit, debug, hijack]

/-- **Whether values clash** in a way. -/
def Holds (values : Values) : Clash → Prop
  | root =>
    values.get? "network" ≠ some (.text "gasnet")
      ∧ values.get? "gasnet_root" ≠ some (.text "none")
  | missingConduit =>
    values.get? "network" = some (.text "gasnet") ∧ values.get? "conduit" = some (.text "none")
  | conduit =>
    values.get? "network" ≠ some (.text "gasnet") ∧ values.get? "conduit" ≠ some (.text "none")
  | debug =>
    values.get? "network" ≠ some (.text "gasnet")
      ∧ values.get? "gasnet_debug" = some (.bool true)
  | hijack =>
    values.get? "cuda_hijack" = some (.bool true) ∧ values.get? "cuda" = some (.bool false)

/-- What is reported of a clash. -/
def conflict : Clash → Conflict
  | root => ⟨"gasnet-root-requires-gasnet", "gasnet_root!=none network!=gasnet",
    "'gasnet_root' is only valid when 'network=gasnet'."⟩
  | missingConduit => ⟨"gasnet-requires-conduit", "conduit=none network=gasnet",
    "a conduit must be selected when 'network=gasnet'"⟩
  | conduit => ⟨"conduit-requires-gasnet", "conduit!=none network!=gasnet",
    "conduit attribute requires 'network=gasnet'."⟩
  | debug => ⟨"gasnet-debug-requires-gasnet", "+gasnet_debug network!=gasnet",
    "'+gasnet_debug' requires 'network=gasnet'."⟩
  | hijack => ⟨"cuda-hijack-requires-cuda", "+cuda_hijack ~cuda",
    "'+cuda_hijack' requires '+cuda'."⟩

theorem mem_order (clash : Clash) : clash ∈ order := by
  cases clash <;> decide

end Clash

/-! ## Rules and clashes -/

/-- **Each rule stands for one clash**: it is broken exactly by the values that
clash in its way, and reports that clash. -/
theorem forall₂_clash_rule {assignments : NameMap SuppliedValue} {values : Values}
    (h : schema.Completes assignments values) (spec : Spec) :
    List.Forall₂ (fun clash rule =>
        (clash.Holds values ↔ rule.condition.holds ⟨spec, values⟩ = true)
          ∧ clash.conflict = rule.conflict)
      Clash.order rules := by
  obtain ⟨_, _, hnetwork⟩ := exists_name h (show schema.find? "network" = _ from rfl)
  obtain ⟨_, hroot⟩ := exists_path h (show schema.find? "gasnet_root" = _ from rfl)
  obtain ⟨_, _, hconduit⟩ := exists_name h (show schema.find? "conduit" = _ from rfl)
  obtain ⟨_, hcuda⟩ := exists_bool h (show schema.find? "cuda" = _ from rfl)
  have hwithout : withoutGasnet.holds ⟨spec, values⟩ = true
      ↔ values.get? "network" ≠ some (.text "gasnet") := by
    rw [withoutGasnet, Condition.holds_not_iff, Condition.holds_equals_iff hnetwork]
  refine .cons ⟨?_, by decide⟩ (.cons ⟨?_, by decide⟩ (.cons ⟨?_, by decide⟩
    (.cons ⟨?_, by decide⟩ (.cons ⟨?_, by decide⟩ .nil)))) <;>
    rw [Clash.Holds, Condition.holds_both_iff]
  · rw [Condition.holds_isSet_iff hroot, hwithout, and_comm, unset]
  · rw [Condition.holds_equals_iff hconduit, Condition.holds_equals_iff hnetwork, and_comm]
  · rw [Condition.holds_not_iff, Condition.holds_equals_iff hconduit, hwithout, and_comm]
  · rw [Condition.holds_enabled_iff, hwithout, and_comm]
  · rw [Condition.holds_enabled_iff, Condition.holds_disabled_iff hcuda]

/-- **A spec is refused for the first clash** of the values that complete its
assignments. -/
theorem plan_eq_conflict_iff_clash {files : Files} {spec : Spec} {values : Values}
    {conflict : Conflict} (hversion : spec.version ∈ versions)
    (h : schema.Completes spec.variants values) :
    package.planner.plan files spec = .error (.conflict conflict)
      ↔ ∃ clash, FirstIn (Clash.Holds values) Clash.order clash
          ∧ conflict = clash.conflict := by
  have hlisted : package.planner.Listed spec := by
    rintro _ ⟨⟩
    exact hversion
  rw [Planner.plan_eq_conflict_iff hlisted h]
  exact (FirstIn.exists_iff_of_forall₂ (forall₂_clash_rule h spec)).symm

/-- **Conflicts are clashes.** A spec of a listed version whose assignments are
all of the right shape is refused for a conflict exactly if, with the defaults
filled in, a setting of GASNet is made without GASNet, or GASNet is used
without a conduit, or the CUDA runtime is hijacked without CUDA. Of several
clashes the first in order is reported. Files have no part in it. -/
theorem conflict_iff_clash {spec : Spec} (hversion : spec.version ∈ versions)
    (hshapes : ∀ name raw, spec.variants.get? name = some raw →
      ∃ value, schema.shape name raw = .ok value) :
    ∃ values, schema.bind spec.variants = .ok values
      ∧ (∀ files, (∃ conflict, package.planner.plan files spec = .error (.conflict conflict))
          ↔ values.get? "network" ≠ some (.text "gasnet")
                ∧ (values.get? "gasnet_root" ≠ some (.text "none")
                  ∨ values.get? "conduit" ≠ some (.text "none")
                  ∨ values.get? "gasnet_debug" = some (.bool true))
              ∨ values.get? "network" = some (.text "gasnet")
                ∧ values.get? "conduit" = some (.text "none")
              ∨ values.get? "cuda_hijack" = some (.bool true)
                ∧ values.get? "cuda" = some (.bool false))
      ∧ ∀ files conflict, package.planner.plan files spec = .error (.conflict conflict)
          ↔ ∃ clash, FirstIn (Clash.Holds values) Clash.order clash
              ∧ conflict = clash.conflict := by
  obtain ⟨values, hcompletes⟩ := Schema.exists_completes_iff.2 fun name raw error hassigned =>
    Schema.exists_shape_eq_ok_iff.1 (hshapes name raw hassigned) error
  refine ⟨values, Schema.bind_eq_ok_iff.2 hcompletes, fun files => ?_, fun files conflict =>
    plan_eq_conflict_iff_clash hversion hcompletes⟩
  have hany : (∃ conflict, package.planner.plan files spec = .error (.conflict conflict))
      ↔ ∃ clash : Clash, clash.Holds values := by
    rw [exists_congr fun _ => plan_eq_conflict_iff_clash hversion hcompletes, exists_comm]
    simp only [exists_and_left, exists_eq, and_true, FirstIn.exists_iff, Clash.mem_order, true_and]
  rw [hany]
  constructor
  · rintro ⟨clash, hclash⟩
    cases clash with
    | root => exact .inl ⟨hclash.1, .inl hclash.2⟩
    | missingConduit => exact .inr (.inl hclash)
    | conduit => exact .inl ⟨hclash.1, .inr (.inl hclash.2)⟩
    | debug => exact .inl ⟨hclash.1, .inr (.inr hclash.2)⟩
    | hijack => exact .inr (.inr hclash)
  · rintro (⟨hwithout, hroot | hconduit | hdebug⟩ | hmissing | hhijack)
    · exact ⟨.root, hwithout, hroot⟩
    · exact ⟨.conduit, hwithout, hconduit⟩
    · exact ⟨.debug, hwithout, hdebug⟩
    · exact ⟨.missingConduit, hmissing⟩
    · exact ⟨.hijack, hhijack⟩

/-- A conduit that is to be debugged, and nothing about the transport layer. -/
def conduitAlone : Spec :=
  (Spec.default.assign "conduit" (.text "ibv")).assign "gasnet_debug" (.text "On")

theorem shape_conduitAlone : ∀ name raw, conduitAlone.variants.get? name = some raw →
    ∃ value, schema.shape name raw = .ok value := by
  have hall : ∀ entry ∈ conduitAlone.variants.entries,
      (schema.shape entry.1 entry.2).isOk = true := by decide
  exact fun name raw hassigned =>
    exists_ok_of_isOk (hall (name, raw) (NameMap.mem_entries_iff.2 hassigned))

/-- Of the two clashes of a conduit without GASNet that is to be debugged, the
conduit is reported, whatever the files. -/
theorem plan_conduitAlone :
    ∃ conflict, conflict.rule = "conduit-requires-gasnet"
      ∧ ∀ files, package.planner.plan files conduitAlone = .error (.conflict conflict) := by
  obtain ⟨values, hbind, _, hreported⟩ := conflict_iff_clash (by decide) shape_conduitAlone
  have hcompletes := Schema.bind_eq_ok_iff.1 hbind
  have hnetwork : values.get? "network" = some (.text "none") :=
    hcompletes.defaulted "network" _ rfl (Schema.find?_eq_some_iff.1 rfl)
  have hroot : values.get? "gasnet_root" = some (.text "none") :=
    hcompletes.defaulted "gasnet_root" _ rfl (Schema.find?_eq_some_iff.1 rfl)
  have hconduit : values.get? "conduit" = some (.text "ibv") :=
    hcompletes.get?_assigned rfl (Schema.find?_eq_some_iff.1 rfl) rfl
  have hwithout : values.get? "network" ≠ some (.text "gasnet") := by
    rw [hnetwork]
    decide
  refine ⟨Clash.conduit.conflict, rfl, fun files => ?_⟩
  refine (hreported files _).2 ⟨.conduit, .there (fun h => h.2 hroot)
    (.there (fun h => hwithout h.1) (.here ⟨hwithout, ?_⟩)), rfl⟩
  rw [hconduit]
  decide

end BuildVariants.Legion
